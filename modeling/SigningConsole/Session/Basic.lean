import SigningConsole.Account
import SigningConsole.Calendar.Instant
/-!
Sessions: the credential that goes with every request, how long it lives, and what cookies do to it.

A browser session is a jar of cookies with a token that rotates; an API key is a token alone, and
cookies leave it as it is.
-/

namespace SigningConsole

open Calendar

/-- How a token authenticates. -/
inductive CredentialKind where
  /-- A token of a browser session. -/
  | csrf
  /-- An API key. -/
  | apiKey
deriving DecidableEq, Repr

/-- The header that carries a token. -/
def CredentialKind.header : CredentialKind → String
  | csrf => "Xsrf-Token"
  | apiKey => "Authorization"

/-- How long a session lives. -/
inductive SessionLifetime where
  | untilCleared
  /-- A number of nanoseconds from when it is stored. -/
  | maxAge (nanos : Int)
deriving DecidableEq, Repr

/-- A credential, with the identity it was given to. -/
structure Session where
  token : String
  kind : CredentialKind
  cookies : Jar := ∅
  email : Option String := none
  userId : Option Int32 := none
  expiresAt : Option Instant := none
deriving DecidableEq

namespace Session

/-- The session that an exchange of a code grants. -/
def ofGrant (g : Grant) : Session :=
  { token := g.token, kind := .csrf, cookies := g.cookies, email := g.email, userId := g.id }

/-- The session of an API key. -/
def ofApiKey (token : String) : Session := { token, kind := .apiKey }

/-- The session with the expiry of a policy; `none` where the expiry is no instant. -/
def stamp? (s : Session) (policy : SessionLifetime) (now : Instant) : Option Session :=
  match policy with
  | .untilCleared => some { s with expiresAt := none }
  | .maxAge nanos => (now.addNanos? nanos).map fun at' => { s with expiresAt := some at' }

/-- Whether the session's time is over. -/
def isExpired (s : Session) (now : Instant) : Bool :=
  match s.expiresAt with
  | some at' => at' ≤ now
  | none => false

/-- The seconds that are left to a session that expires, never fewer than none. -/
def secondsLeft? (s : Session) (now : Instant) : Option Nat :=
  s.expiresAt.map fun at' => (at'.secondsSince now).toNat

/-- The headers that carry the credential. -/
def headers (s : Session) : List (String × String) :=
  (if s.kind = .csrf ∧ !s.cookies.isEmpty then [("Cookie", s.cookies.header)] else []) ++
    (if s.token.isEmpty then [] else [(s.kind.header, s.token)])

/-- Whether the session is a browser session that still lacks its token. -/
def needsToken (s : Session) : Bool := s.kind == .csrf && s.token.isEmpty && !s.cookies.isEmpty

/-! ## Cookies -/

/-- Takes in a `Set-Cookie` value and says whether anything changed. -/
def absorb (s : Session) (raw : String) : Session × Bool :=
  match s.kind with
  | .apiKey => (s, false)
  | .csrf =>
    let (c, changed) := Credential.absorb ⟨s.token, s.cookies⟩ raw
    ({ s with token := c.token, cookies := c.jar }, changed)

/-- Takes in `Set-Cookie` values in order and says whether any of them changed the session. -/
def absorbAll (s : Session) : List String → Session × Bool
  | [] => (s, false)
  | raw :: raws =>
    let (s₁, changed₁) := s.absorb raw
    let (s₂, changed₂) := s₁.absorbAll raws
    (s₂, changed₁ || changed₂)

/-- The session that a browser's `Cookie` header carries, if it has any of the three cookies. -/
def ofCookieHeader? (header : String) : Option Session :=
  let token := Cookie.find? header Cookie.tokenName <|> Cookie.find? header Cookie.sessionName
  match token, Cookie.find? header Cookie.backendName with
  | none, none => none
  | token, none => some { token := token.getD "", kind := .csrf }
  | token, some value =>
    some { token := token.getD "", kind := .csrf,
           cookies := StringMap.insert ∅ Cookie.backendName value }

end Session

end SigningConsole
