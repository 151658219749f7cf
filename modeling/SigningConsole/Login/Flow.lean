import SigningConsole.Backend.Calls
import SigningConsole.Session.Store
/-!
The login flow: a redirect brings a code, the code is exchanged for a session, and the session stays
until it is given up.

The store is kept in step with the state: a session is saved before the flow is authenticated, and
cleared before the flow is not. A code is taken out of the state before it is exchanged, so that it
is used once at most.
-/

namespace SigningConsole

open Calendar

/-- Where an operator is in the login flow. -/
inductive LoginStage where
  | unauthenticated
  | codeReceived (code : RedirectCode)
  | authenticated (session : Session)

namespace LoginStage

/-- The name of a state. -/
def name : LoginStage → String
  | unauthenticated => "unauthenticated"
  | codeReceived _ => "code_received"
  | authenticated _ => "authenticated"

/-- The session of an authenticated state. -/
def session? : LoginStage → Option Session
  | authenticated s => some s
  | _ => none

/-- The code that waits for its exchange. -/
def pending? : LoginStage → Option RedirectCode
  | codeReceived code => some code
  | _ => none

/-- The state that a stored session means. -/
def ofSession? : Option Session → LoginStage
  | some s => authenticated s
  | none => unauthenticated

end LoginStage

/-- What happens to a flow. -/
inductive LoginEvent where
  | redirect
  | exchange
  | adopt
  | logout
deriving DecidableEq, Repr

/-- The name of an event. -/
def LoginEvent.name : LoginEvent → String
  | redirect => "redirect"
  | exchange => "exchange"
  | adopt => "adopt_session"
  | logout => "logout"

/-- Why an operation of the flow fails. -/
inductive LoginError where
  | missingCode
  /-- The event cannot happen in the state of this name. -/
  | invalidTransition (state : String) (event : LoginEvent)
  | exchangeFailed (cause : BackendError)
  | logoutFailed (cause : BackendError)
  | store (cause : StoreError)
  /-- The session would expire after the last instant there is. -/
  | expiryOutOfRange

/-- The wording. -/
def LoginError.message : LoginError → String
  | missingCode => "Redirect URL carries no authorization code"
  | invalidTransition state event =>
    "Invalid auth transition: '" ++ event.name ++ "' while " ++ state
  | exchangeFailed cause => "Code exchange failed: " ++ cause.message
  | logoutFailed cause => "Logout failed: " ++ cause.message
  | store cause => cause.message
  | expiryOutOfRange => "the session would expire after the last date"

/-- The login flow with its policy. -/
structure LoginFlow where
  state : LoginStage
  policy : SessionLifetime

/-- What an operation of the flow gives, with the flow after it. -/
abbrev LoginStep (α : Type) := Except LoginError α × LoginFlow

namespace LoginFlow

variable {σ : Type}

/-- The session of an authenticated flow. -/
def session? (f : LoginFlow) : Option Session := f.state.session?

/-- Whether the flow has a session. -/
def isLoggedIn (f : LoginFlow) : Bool := f.session?.isSome

/-- The rejection of an event. -/
def invalid (f : LoginFlow) (event : LoginEvent) : LoginError :=
  .invalidTransition f.state.name event

/-- Starts from what the store holds. -/
def resume (store : SessionStore σ) (policy : SessionLifetime) (now : ClockTime) :
    StateM σ (Except LoginError LoginFlow) := do
  match ← (store.current now).run with
  | .ok s => return .ok ⟨.ofSession? s, policy⟩
  | .error e => return .error (.store e)

/-- Takes the code that a redirect carries. A second redirect while a code waits is rejected. -/
def receive (f : LoginFlow) (url : Url) : Except LoginError RedirectCode × LoginFlow :=
  match f.state with
  | .codeReceived _ => (.error (f.invalid .redirect), f)
  | _ =>
    match url.redirectCode? with
    | none => (.error .missingCode, f)
    | some code => (.ok code, { f with state := .codeReceived code })

/-- Stamps a session, saves it and makes it the flow's own. -/
def keep (store : SessionStore σ) (now : ClockTime) (s : Session) (f : LoginFlow) :
    StateM σ (LoginStep Session) := do
  match s.stamp? f.policy now with
  | none => return (.error .expiryOutOfRange, f)
  | some s =>
    match ← (store.save s).run with
    | .ok _ => return (.ok s, { f with state := .authenticated s })
    | .error e => return (.error (.store e), f)

/-- Exchanges the code that waits. It is given up whatever the outcome. -/
def exchange (store : SessionStore σ) (calls : LoginCalls σ) (now : ClockTime) (f : LoginFlow) :
    StateM σ (LoginStep Session) := do
  match f.state with
  | .codeReceived code =>
    let f := { f with state := .unauthenticated }
    match ← (calls.redeem code).run with
    | .ok grant => keep store now (.ofGrant grant) f
    | .error e => return (.error (.exchangeFailed e), f)
  | _ => return (.error (f.invalid .exchange), f)

/-- Takes the code of a redirect and exchanges it. -/
def complete (store : SessionStore σ) (calls : LoginCalls σ) (now : ClockTime) (url : Url)
    (f : LoginFlow) :
    StateM σ (LoginStep Session) :=
  match f.receive url with
  | (.ok _, f) => f.exchange store calls now
  | (.error e, f) => pure (.error e, f)

/-- Takes a session that was obtained elsewhere, unless a code waits. -/
def adopt (store : SessionStore σ) (now : ClockTime) (s : Session) (f : LoginFlow) :
    StateM σ (LoginStep Session) :=
  match f.state with
  | .codeReceived _ => pure (.error (f.invalid .adopt), f)
  | _ => keep store now s f

/-- Takes an API key, unless a code waits. -/
def adoptApiKey (store : SessionStore σ) (now : ClockTime) (token : String) (f : LoginFlow) :
    StateM σ (LoginStep Session) :=
  f.adopt store now (.ofApiKey token)

/-- Gives the session up, and a code that waits too. -/
def invalidate (store : SessionStore σ) (f : LoginFlow) : StateM σ (LoginStep Unit) := do
  match ← store.clear.run with
  | .ok _ => return (.ok (), { f with state := .unauthenticated })
  | .error e => return (.error (.store e), f)

/-- Reads the store again, unless a code waits. -/
def reload (store : SessionStore σ) (now : ClockTime) (f : LoginFlow) :
    StateM σ (LoginStep (Option Session)) := do
  match f.state with
  | .codeReceived _ => return (.ok none, f)
  | _ =>
    match ← (store.current now).run with
    | .ok s => return (.ok s, { f with state := .ofSession? s })
    | .error e => return (.error (.store e), f)

/-- What remains to be said after a logout, given what the backend answered. -/
def logoutResult : Except BackendError Unit → Except LoginError Unit
  | .ok _ => .ok ()
  | .error .unauthorized => .ok ()
  | .error e => .error (.logoutFailed e)

/-- Ends the session at the backend and gives it up whatever the backend answers. -/
def logout (store : SessionStore σ) (calls : LoginCalls σ) (f : LoginFlow) :
    StateM σ (LoginStep Unit) := do
  if f.isLoggedIn then
    let answer ← calls.logout.run
    match ← f.invalidate store with
    | (.ok _, f) => return (logoutResult answer, f)
    | (.error e, f) => return (.error e, f)
  else return (.error (f.invalid .logout), f)

end LoginFlow

end SigningConsole
