import SigningConsole.Session.Basic
import SigningConsole.Url.Parser
import SigningConsole.Variant
/-!
The settings of the console, read from environment variables.

A blank variable counts as unset. The variables are read in a fixed order, and the first one that
cannot be read is reported.
-/

namespace SigningConsole

open Calendar Text

/-- The variables that are set, with their values. -/
abbrev Environment := StringMap String

/-- A variable that is read. -/
inductive Variable where
  | url
  | loginUrl
  | logoutUrl
  | cookieDomain
  | timeout
  | variant
  | sessionFile
  | maxAge
deriving DecidableEq, Repr

/-- The name of a variable. -/
def Variable.name : Variable → String
  | url => "SIGNATRUST_URL"
  | loginUrl => "SIGNATRUST_LOGIN_URL"
  | logoutUrl => "SIGNATRUST_LOGOUT_URL"
  | cookieDomain => "SIGNATRUST_COOKIE_DOMAIN"
  | timeout => "SIGNATRUST_TIMEOUT_SECS"
  | variant => "SIGNATRUST_VARIANT"
  | sessionFile => "SIGNATRUST_SESSION_FILE"
  | maxAge => "SIGNATRUST_SESSION_MAX_AGE_SECS"

/-- Why the settings cannot be read. -/
inductive SettingsError where
  | invalidUrl (v : Variable) (cause : Url.Fault)
  | invalidValue (v : Variable) (value : String)
  /-- The lifetime is longer than any span of time. -/
  | maxAgeOutOfRange
deriving DecidableEq, Repr

/-- The wording. -/
def SettingsError.message : SettingsError → String
  | invalidUrl v cause => "Invalid URL in " ++ v.name ++ ": " ++ cause.message
  | invalidValue v value => "Invalid value for " ++ v.name ++ ": " ++ value
  | maxAgeOutOfRange => "the lifetime of a session is out of range"

/-- The settings of the console. -/
structure Settings where
  /-- Where the backend is. -/
  base : Url
  /-- Where the operator logs in. -/
  loginUrl : Url
  /-- The logout page of the identity provider. -/
  providerLogout : Option Url := none
  cookieDomain : Option String := none
  /-- How many seconds a request may take. -/
  timeout : UInt64 := 60
  variant : Variant := .signatrust
  /-- The session file, unless it is in its default place. -/
  sessionFile : Option String := none
  /-- The lifetime of a session in seconds. -/
  maxAge : Option Int := none
deriving DecidableEq

namespace Settings

/-- The address of the backend unless another is given. -/
def defaultBase : String := "http://127.0.0.1:8080"

/-- The path of the login below the backend. -/
def loginPath : String := "/api/v1/users/login"

/-- Where the operator logs in unless told otherwise. -/
def defaultLogin (base : Url) : Url :=
  match base.join loginPath with
  | .ok url => url
  | .error _ => base

/-- The settings for a backend, all else by default. -/
def ofBase (base : Url) : Settings := { base, loginUrl := defaultLogin base }

/-- The value of a variable, unless it is blank. -/
def value? (env : Environment) (v : Variable) : Option String :=
  (env.get? v.name).filter fun s => !allBlank s

/-- Reads a variable, if it is set. -/
def readWith {α : Type} (env : Environment) (v : Variable)
    (read : String → Except SettingsError α) :
    Except SettingsError (Option α) :=
  match value? env v with
  | some s => (read s).map some
  | none => .ok none

/-- Reads a URL. -/
def readUrl (v : Variable) (s : String) : Except SettingsError Url :=
  (Url.parse s).mapError (.invalidUrl v)

/-- Reads an unsigned number, with blanks around it. -/
def readNumber (v : Variable) (s : String) : Except SettingsError UInt64 :=
  match readUInt64? (trim s.toList) with
  | some n => .ok n
  | none => .error (.invalidValue v s)

/-- Reads the name of a console. -/
def readVariant (s : String) : Except SettingsError Variant :=
  (Variant.ofText? s).mapError fun _ => .invalidValue .variant s

/-- Reads a lifetime. Its 64 bits are taken as a signed number of seconds. -/
def readMaxAge (s : String) : Except SettingsError Int := do
  let n ← readNumber .maxAge s
  match spanOfSeconds? n.toInt64.toInt with
  | some span => return span
  | none => throw .maxAgeOutOfRange

/-- Reads the settings from the environment. -/
def ofEnvironment (env : Environment) : Except SettingsError Settings := do
  let base ← readUrl .url ((value? env .url).getD defaultBase)
  let loginUrl ← readWith env .loginUrl (readUrl .loginUrl)
  let providerLogout ← readWith env .logoutUrl (readUrl .logoutUrl)
  let timeout ← readWith env .timeout (readNumber .timeout)
  let variant ← readWith env .variant readVariant
  let maxAge ← readWith env .maxAge readMaxAge
  let fallback := ofBase base
  return {
    base
    loginUrl := loginUrl.getD fallback.loginUrl
    providerLogout
    cookieDomain := value? env .cookieDomain
    timeout := timeout.getD fallback.timeout
    variant := variant.getD fallback.variant
    sessionFile := value? env .sessionFile
    maxAge }

/-- How long sessions live. -/
def policy (s : Settings) : SessionLifetime :=
  match s.maxAge with
  | some seconds => .maxAge (seconds * nanosPerSecond)
  | none => .untilCleared

/-- The settings as JSON. -/
def toJson (s : Settings) : Json :=
  .obj
    [("base_url", .str s.base.text), ("login_url", .str s.loginUrl.text),
      ("provider_logout_url", Json.ofText? (s.providerLogout.map Url.text)),
      ("cookie_domain", Json.ofText? s.cookieDomain), ("timeout_secs", Json.ofUInt64 s.timeout),
      ("variant", .str s.variant.text), ("session_path", Json.ofText? s.sessionFile),
      ("session_max_age_secs", s.maxAge.elim .null Json.int),
      ("expiry_policy", s.maxAge.elim (.str "until_cleared")
        fun n => .obj [("max_age_secs", .int n)])]

end Settings

end SigningConsole
