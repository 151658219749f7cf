import SigningConsole.Console.Keys
import SigningConsole.Console.Tokens
import SigningConsole.Report.Figures
import SigningConsole.Route
/-!
The commands that log in and out and show the session, and the pages behind routes.
-/

namespace SigningConsole

open Calendar Text

namespace Run

/-- The part of the console that these commands' entries name. -/
def sessionComponent : String := "signatrust::views::session"

/-- The part of the console that the login flow's entries name. -/
def flowComponent : String := "signatrust_core::auth::flow"

/-! ## Login -/

/-- Asks who is logged in, and says it. -/
def identify (e : Setup) : Run Unit := do
  let me ← call e.client.userInfo
  line ("Logged in as " ++ me.email ++ " (id " ++ intText me.id.toInt ++ ")")
  screen fun s => s.identifyAs me

/-- Logs in with an API key. -/
def loginByKey (e : Setup) (key : String) : Run Unit := do
  let _ ← auth (← flow (LoginFlow.adoptApiKey e.store (← e.now) key))
  log ⟨.info, sessionComponent, "API key stored in " ++ e.sessionPath⟩
  identify e

/-- Logs in with a browser's cookies. -/
def loginWithCookie (e : Setup) (header : String) : Run Unit := do
  match Session.ofCookieHeader? header with
  | none => throw .noCookie
  | some s =>
    let _ ← auth (← flow (LoginFlow.adopt e.store (← e.now) s))
    log ⟨.info, sessionComponent, "Browser session imported"⟩
    identify e

/-- Logs what an exchange of a code came to. -/
def logExchange : Except LoginError Session → Run Unit
  | .ok s =>
    let email := match s.email with | some email => "Some(" ++ quoted email ++ ")" | none => "None"
    log ⟨.info, flowComponent, "login completed email=" ++ email⟩
  | .error (.exchangeFailed cause) =>
    log ⟨.warn, flowComponent, "authorization code exchange failed error=" ++ cause.message⟩
  | .error _ => pure ()

/-- Logs in with the URL to which the identity provider sent the browser. -/
def loginWithCallback (e : Setup) (url : Url) : Run Unit := do
  screen fun s => s.openLogin e.settings.loginUrl
  let result ← flow (LoginFlow.complete e.store e.client.auth (← e.now) url)
  logExchange result
  match result with
  | .error cause =>
    screen fun s => s.closeLogin none
    throw (.auth cause)
  | .ok _ =>
    let identity := (← e.client.userInfo.run).toOption
    screen fun s => s.closeLogin identity
    line ("Logged in" ++ match identity with | some me => " as " ++ me.email | none => "")

/-- Logs in, or says how to. -/
def login (e : Setup) : LoginWay → Run Unit
  | .apiKey key => loginByKey e key
  | .cookie header => loginWithCookie e header
  | .callback url => loginWithCallback e url
  | .ask => do
    screen fun s => s.openLogin e.settings.loginUrl
    line ("Open " ++ e.settings.loginUrl.text ++ " in a browser and sign in.")
    line "Then run: signatrust login --callback '<URL the browser was redirected to>'"

/-! ## Logout -/

/-- Logs out; the session is given up even if the backend does not answer. -/
def logout (e : Setup) : Run Unit := do
  if (← get).flow.isLoggedIn then
    let result ← flow (LoginFlow.logout e.store e.client.auth)
    screen Screen.forgetIdentity
    match result with
    | .ok _ => pure ()
    | .error cause =>
      log ⟨.warn, sessionComponent, cause.message ++ "; local session removed anyway"⟩
    line "Logged out."
    match e.settings.providerLogout with
    | some provider =>
      line ("To end the identity-provider session open " ++
        (Url.providerLogout provider e.settings.loginUrl).text)
    | none => pure ()
  else line "Not logged in."

/-! ## The session -/

/-- A session in a few words. -/
def describe (s : Session) (now : Instant) : String :=
  let kind := match s.kind with | .csrf => "browser session" | .apiKey => "API key"
  match s.secondsLeft? now with
  | some left => kind ++ ", expires in " ++ Report.spanText left
  | none => kind ++ ", no expiry"

/-- Shows who is logged in and the session. -/
def whoami (e : Setup) (cookie permissions : Bool) : Run Unit := do
  let me ← call e.client.userInfo
  screen fun s => s.identifyAs me
  let granted ← if permissions then some <$> call (e.client.permissions []) else pure none
  let session ← auth (← flow (LoginFlow.reload e.store (← e.now)))
  if e.json then
    let members :=
      [("id", Json.ofInt32 me.id), ("email", .str me.email),
        ("session", session.elim .null Session.toJson)]
    json (Json.obj (members ++ optionalMember "permissions" granted)).normalize
  else
    line (me.email ++ " (id " ++ intText me.id.toInt ++ ")")
    match granted with
    | some v => line ("Permissions: " ++ v.compact)
    | none => pure ()
    match session with
    | none => pure ()
    | some s =>
      line (describe s (← e.now))
      if cookie then
        let maxAge := (s.secondsLeft? (← e.now)).map Int.ofNat
        line ("Set-Cookie: " ++ (Cookie.ofToken s.token e.settings.cookieDomain maxAge).text)

/-! ## Pages -/

/-- The path of a page inside a URL: a fragment that is a path, or else the URL's own path. -/
def pagePath (url : Url) : String :=
  match url.fragment with
  | some fragment => if fragment.startsWith "/" then fragment else url.pathText
  | none => url.pathText

/-- Shows the page behind a path or URL; a URL that carries an authorization code logs in first. -/
def visit (e : Setup) (path : String) : Run Unit := do
  let path ←
    match Url.parse path with
    | .error _ => pure path
    | .ok url => do
      if url.isRedirect then loginWithCallback e url
      pure (pagePath url)
  match Route.ofPath? path e.settings.variant with
  | some .keyList => KeyCommand.runList e none {}
  | some .apiTokens => TokenCommand.run e .list
  | none => throw (.noPage path e.settings.variant)

end Run

end SigningConsole
