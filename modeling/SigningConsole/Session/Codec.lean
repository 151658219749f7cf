import SigningConsole.Calendar.Display
import SigningConsole.Calendar.Reader
import SigningConsole.Json.Printer
import SigningConsole.Json.Read
import SigningConsole.Session.Basic
/-!
Sessions as JSON, and as the text of a session file.
-/

namespace SigningConsole

open Calendar Json Text

/-- Reads an instant. -/
def Calendar.Instant.decode : Decoder Instant
  | str s =>
    match Reader.relaxed s.toList with
    | .ok t => .ok t
    | .error e => .error (.badTime e.message)
  | v => .error (.wrongType v.shape "an RFC 3339 formatted date and time string")

/-- An instant as JSON. -/
def Calendar.Instant.toJson (t : Instant) : Json := str (String.ofList t.rfc3339)

namespace CredentialKind

/-- The name of a kind. -/
def text : CredentialKind → String
  | csrf => "csrf"
  | apiKey => "api_key"

/-- Reads a kind. -/
def decode : Decoder CredentialKind := toVariant [("csrf", csrf), ("api_key", apiKey)] none

end CredentialKind

namespace Session

/-- The fields of a session. -/
def record : Record :=
  ⟨"Session",
    [.required "token" toText, .required "kind" CredentialKind.decode,
      .defaulted "cookies" toTextMap, .defaulted "email" (toOption toText),
      .defaulted "user_id" (toOption toInt32),
      .defaulted "expires_at" (toOption Instant.decode)]⟩

/-- Reads a session. -/
def decode : Decoder Session := fun v => do
  let found ← record.read v
  return {
    token := ← found.get "token" toText
    kind := ← found.get "kind" CredentialKind.decode
    cookies := ← found.getD "cookies" toTextMap ∅
    email := ← found.get? "email" toText
    userId := ← found.get? "user_id" toInt32
    expiresAt := ← found.get? "expires_at" Instant.decode }

/-- The members of a session; what it lacks is left out. -/
def members (s : Session) : List (String × Json) :=
  [("token", str s.token), ("kind", str s.kind.text)] ++
    (if s.cookies.isEmpty then [] else [("cookies", ofTextMap s.cookies)]) ++
    (match s.email with | some email => [("email", str email)] | none => []) ++
    (match s.userId with | some id => [("user_id", ofInt32 id)] | none => []) ++
    (match s.expiresAt with | some at' => [("expires_at", at'.toJson)] | none => [])

/-- A session as JSON. -/
def toJson (s : Session) : Json := obj s.members

/-- The text of a session file. -/
def fileText (s : Session) : String := s.toJson.pretty

/-- Reads the text of a session file; a blank one holds no session. -/
def ofFileText (text : String) : Except ReadFault (Option Session) :=
  if allBlank text then .ok none else (Json.readRecord record decode text).map some

end Session

end SigningConsole
