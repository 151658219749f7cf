import SigningConsole.Backend.Calls
import SigningConsole.Http.Answer
import SigningConsole.Http.Mime
import SigningConsole.Log
import SigningConsole.Session.Store
import SigningConsole.Url.Parser
/-!
The adapter through which every call of the backend goes.

A call reads the session, sends the described request with the session's headers, and settles what
comes of it: a `401` clears the session and sends the operator to the login, a `500` is notified,
every other failure is left to the caller, and the cookies of an accepted answer go into the stored
session. A browser session without its token first asks the backend for one. Nothing is sent twice.
-/

namespace SigningConsole

open Calendar Text

/-- Why a request is sent. -/
inductive Purpose where
  /-- To get the token that a browser session lacks. -/
  | priming
  | described
deriving DecidableEq, Repr

/-- What the adapter does to the world. -/
structure Adapter (σ : Type) where
  /-- The backend's address, which ends in a slash. -/
  base : Url
  store : SessionStore σ
  send (purpose : Purpose) (request : Request) : StateM σ Outcome
  /-- Sends the operator to the login. -/
  redirect : StateM σ Unit
  notify (message : String) : StateM σ Unit
  log (entry : Log.Entry) : StateM σ Unit

/-! ## Requests -/

namespace Request

/-- Whether the character may stand in a header. -/
def isHeaderChar (c : Char) : Bool := c == '\t' || (0x20 ≤ c.toNat && c.toNat != 0x7F)

/-- Why a request cannot be sent, if it cannot. -/
def fault? (r : Request) : Option TransportFault :=
  if r.url.host.isNone then some (.badScheme r.url)
  else if r.headers.any fun h => h.2.toList.any fun c => !isHeaderChar c then some .badHeader
  else if r.url.scheme != "http" && r.url.scheme != "https" then some (.badScheme r.url)
  else if !r.url.isUri then some (.badUri r.url)
  else none

end Request

namespace CallPlan

/-- The URL of a path: the path itself if it is a URL, otherwise what it means below the
backend's address. -/
def resolve (base : Url) (path : String) : Except RequestFault Url :=
  match Url.parse path with
  | .ok url => .ok url
  | .error _ =>
    (base.join (String.ofList (path.toList.dropWhile (· == '/')))).mapError fun e => .badPath path e

/-- The content type of a body that is no content type, if there is one. -/
def badMime? (s : CallPlan) : Option String :=
  match s.body with
  | .multipart u => u.mime.filter fun m => !Mime.isMime m
  | _ => none

/-- The request of a description to a URL, with headers. -/
def request (url : Url) (headers : List (String × String)) (s : CallPlan) :
    Except RequestFault Request :=
  match s.badMime? with
  | some mime => .error (.badMime mime)
  | none =>
    .ok (.to s.method (if s.query.isEmpty then url else url.addPairs s.query) headers s.body)

end CallPlan

namespace Adapter

variable {σ : Type}

/-- Sends a request, if it can be sent. -/
def deliver (a : Adapter σ) (purpose : Purpose) (request : Request) : StateM σ Outcome :=
  match request.fault? with
  | some fault => pure (.error fault)
  | none => a.send purpose request

/-- The part of the console that the adapter's entries name. -/
def component : String := "signatrust_client::http"

/-- Logs a warning. -/
def warn (a : Adapter σ) (text : String) : StateM σ Unit := a.log ⟨.warn, component, text⟩

/-- Logs a warning with a cause. -/
def warnAbout (a : Adapter σ) (text cause : String) : StateM σ Unit :=
  a.warn (text ++ " error=" ++ cause)

/-! ## The session of a call -/

/-- Takes the cookies of an answer into a session and stores it if that changed it. -/
def absorb (a : Adapter σ) (s : Session) (answer : Answer) : StateM σ Session := do
  let (s, changed) := s.absorbAll answer.setCookies
  if changed then
    match ← (a.store.save s).run with
    | .ok _ => pure ()
    | .error e => a.warnAbout "Failed to store updated session" e.message
  return s

/-- The request that fetches a token: the backend hands one out with every answer. -/
def primingRequest (a : Adapter σ) (s : Session) : Request :=
  .to .get a.base s.headers .none

/-- Fetches the token that a session lacks. -/
def prime (a : Adapter σ) (s : Session) : StateM σ Session := do
  match ← a.deliver .priming (a.primingRequest s) with
  | .ok answer => a.absorb s answer
  | .error e =>
    a.warnAbout "Could not fetch a CSRF token" e.message
    return s

/-- The session that a call uses; one that cannot be read counts as none. -/
def session? (a : Adapter σ) (now : Instant) : StateM σ (Option Session) := do
  match ← (a.store.current now).run with
  | .ok none => return none
  | .ok (some s) => if s.needsToken then some <$> a.prime s else return some s
  | .error e =>
    a.warnAbout "Could not read session, sending without token" e.message
    return none

/-! ## Settling an outcome -/

/-- Ends the session after a `401`. -/
def reject (a : Adapter σ) (url : Url) : StateM σ Unit := do
  a.warn ("Unauthorized, clearing session url=" ++ url.text)
  match ← a.store.clear.run with
  | .ok _ => pure ()
  | .error e => a.warnAbout "Failed to clear session" e.message
  a.redirect

/-- The answer, if there is one and it is taken. -/
def settle (a : Adapter σ) (url : Url) : Outcome → Call σ Answer
  | .error e => throw (.transport e)
  | .ok answer => do
    if answer.status = 401 then
      a.reject url
      throw .unauthorized
    else if Status.isAccepted answer.status then return answer
    else if answer.status = 500 then
      a.notify answer.failureText
      throw (.server answer.failureText)
    else throw (.status answer.status answer.failureText)

/-- Sends what a description says with the headers of a session, and settles what comes of it. -/
def perform (a : Adapter σ) (s : Option Session) (spec : CallPlan) : Call σ Answer := do
  match CallPlan.resolve a.base spec.path with
  | .error e => throw (.request e)
  | .ok url =>
    match spec.request url ((s.map Session.headers).getD []) with
    | .error e => throw (.request e)
    | .ok request => a.settle url (← a.deliver .described request)

/-- Takes the cookies of an accepted answer into the session of the call. -/
def conclude (a : Adapter σ) (s : Option Session) (answer : Answer) : StateM σ Unit :=
  match s with
  | some s => do
    let _ ← a.absorb s answer
  | none => pure ()

/-! ## Calls -/

/-- Sends a described request with the stored session. -/
def request (a : Adapter σ) (now : Instant) (spec : CallPlan) : Call σ Payload := do
  let s ← a.session? now
  let answer ← a.perform s spec
  a.conclude s answer
  ExceptT.mk (pure (answer.payload spec.response))

/-- Sends a described request and reads the answer. -/
def json {α : Type} (a : Adapter σ) (now : Instant) (d : Json.Decoder α) (spec : CallPlan) :
    Call σ α := do
  let payload ← a.request now spec
  ExceptT.mk (pure (payload.decode d))

/-- What an answer grants by its body; a redirection grants nothing by it. -/
def bodyGrant (kind : AnswerKind) (answer : Answer) : Except BackendError Grant :=
  if Status.isRedirection answer.status then .ok {}
  else do
    match ← answer.payload kind with
    | .empty => return {}
    | payload => payload.decode Grant.decode

/-- A grant with the cookies that an answer sets. -/
def withCookies (g : Grant) (cookies : List String) : Grant :=
  let c := cookies.foldl (fun c raw => (Credential.absorb c raw).1) ⟨g.token, g.cookies⟩
  { g with token := c.token, cookies := c.jar }

/-- Exchanges a code without the stored session. -/
def exchange (a : Adapter σ) (spec : CallPlan) : Call σ Grant := do
  let answer ← a.perform none spec
  let grant ← ExceptT.mk (pure (bodyGrant spec.response answer))
  let grant := withCookies grant answer.setCookies
  if grant.isEmpty then throw (.body .noCredential) else return grant

end Adapter

/-! ## Traffic -/

/-- A request with what came of it. -/
structure Exchange where
  purpose : Purpose
  request : Request
  outcome : Outcome

/-- What went between the console and the backend, and what was said about it. -/
structure Traffic where
  exchanges : List Exchange := []
  redirects : Nat := 0
  notices : List String := []
  log : List Log.Entry := []

namespace Traffic

/-- The requests that were sent. -/
def requests (t : Traffic) : List Request := t.exchanges.map (·.request)

/-- Adds an entry to the log. -/
def addEntry (e : Log.Entry) (t : Traffic) : Traffic := { t with log := t.log ++ [e] }

/-- Sends a request to a backend. -/
def send (backend : Backend) (purpose : Purpose) (request : Request) : StateM Traffic Outcome :=
  fun t =>
  let outcome := backend t.requests request
  (outcome, { t with exchanges := t.exchanges ++ [⟨purpose, request, outcome⟩] })

/-- Sends the operator to the login. -/
def redirect (loginUrl : Url) (t : Traffic) : Traffic :=
  addEntry
    ⟨.warn, "signatrust_core::auth::guard",
      "session rejected, log in again login_url=" ++ loginUrl.text⟩
    { t with redirects := t.redirects + 1 }

/-- Notifies the operator of a failure. -/
def notify (message : String) (t : Traffic) : Traffic :=
  addEntry ⟨.error, Adapter.component, "Request failed detail=" ++ quoted message⟩
    { t with notices := t.notices ++ [message] }

end Traffic

/-- The adapter for a backend, with the traffic as a part of the world. -/
def Adapter.forBackend {σ : Type} (part : Part σ Traffic) (store : SessionStore σ)
    (base loginUrl : Url) (backend : Backend) : Adapter σ where
  base := base.asDirectory
  store := store
  send purpose request := part.run (Traffic.send backend purpose request)
  redirect := part.modify (Traffic.redirect loginUrl)
  notify message := part.modify (Traffic.notify message)
  log entry := part.modify (Traffic.addEntry entry)

end SigningConsole
