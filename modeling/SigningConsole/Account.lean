import SigningConsole.Cookie.Jar
import SigningConsole.Json.Decode
/-!
What the backend tells about users: identities, the grant of a code exchange, and API tokens.
-/

namespace SigningConsole

open Json

/-! ## Identities -/

/-- The logged-in user. -/
structure Identity where
  id : Int32
  email : String
deriving DecidableEq, Repr

namespace Identity

/-- The fields of an identity. -/
def record : Record := ⟨"UserIdentity", [.required "id" toInt32, .required "email" toText]⟩

/-- Reads an identity. -/
def decode : Decoder Identity := fun v => do
  let found ← record.read v
  return { id := ← found.get "id" toInt32, email := ← found.get "email" toText }

/-- An identity as JSON. -/
def toJson (u : Identity) : Json := obj [("id", ofInt32 u.id), ("email", str u.email)]

end Identity

/-! ## Grants -/

/-- What an authorization code is exchanged for: a token, session cookies, or both. -/
structure Grant where
  token : String := ""
  email : Option String := none
  id : Option Int32 := none
  cookies : Jar := ∅

namespace Grant

/-- Whether the grant carries no credential. -/
def isEmpty (g : Grant) : Bool := g.token.isEmpty && g.cookies.isEmpty

/-- The fields of a grant; the token has two names. -/
def record : Record :=
  ⟨"TokenGrant",
    [(Field.defaulted "token" toText).alsoNamed "csrf_token", .defaulted "email" (toOption toText),
      .defaulted "id" (toOption toInt32), .defaulted "cookies" toTextMap]⟩

/-- Reads a grant. -/
def decode : Decoder Grant := fun v => do
  let found ← record.read v
  return {
    token := ← found.getD "token" toText ""
    email := ← found.get? "email" toText
    id := ← found.get? "id" toInt32
    cookies := ← found.getD "cookies" toTextMap ∅ }

/-- A grant as JSON. -/
def toJson (g : Grant) : Json :=
  obj ([("token", str g.token), ("email", ofText? g.email), ("id", g.id.elim null ofInt32)] ++
    if g.cookies.isEmpty then [] else [("cookies", ofTextMap g.cookies)])

end Grant

/-! ## API tokens -/

/-- An API token; its secret is known only right after it was created. -/
structure ApiToken where
  id : Int32
  userId : Int32
  token : String
  description : String
  createdAt : String
  expiresAt : String
deriving DecidableEq, Repr

namespace ApiToken

/-- The fields of an API token. -/
def record : Record :=
  ⟨"ApiToken",
    [.required "id" toInt32, .defaulted "user_id" toInt32, .defaulted "token" toText,
      .defaulted "description" toText, .defaulted "create_at" toText,
      .defaulted "expire_at" toText]⟩

/-- Reads an API token. -/
def decode : Decoder ApiToken := fun v => do
  let found ← record.read v
  return {
    id := ← found.get "id" toInt32
    userId := ← found.getD "user_id" toInt32 0
    token := ← found.getD "token" toText ""
    description := ← found.getD "description" toText ""
    createdAt := ← found.getD "create_at" toText ""
    expiresAt := ← found.getD "expire_at" toText "" }

/-- An API token as JSON. -/
def toJson (t : ApiToken) : Json :=
  obj [("id", ofInt32 t.id), ("user_id", ofInt32 t.userId), ("token", str t.token),
    ("description", str t.description), ("create_at", str t.createdAt),
    ("expire_at", str t.expiresAt)]

end ApiToken

/-- What a new API token is asked for with. -/
structure NewToken where
  description : String
deriving DecidableEq, Repr

namespace NewToken

/-- The fields of the request for an API token. -/
def record : Record := ⟨"CreateApiToken", [.required "description" toText]⟩

/-- Reads a request for an API token. -/
def decode : Decoder NewToken := fun v => do
  let found ← record.read v
  return { description := ← found.get "description" toText }

/-- A request for an API token as JSON. -/
def toJson (r : NewToken) : Json := obj [("description", str r.description)]

end NewToken

end SigningConsole
