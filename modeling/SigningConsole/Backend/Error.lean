import SigningConsole.Json.Read
import SigningConsole.Url.Basic
/-!
Why a call of the backend fails.

`BackendError.message` is the wording; a `401` is told apart from every other status because it ends
the session, and a `500` because it is notified.
-/

namespace SigningConsole

open Text

/-- Why no answer arrives. -/
inductive TransportFault where
  /-- No connection to the server of the URL can be made. -/
  | unreachable (url : Url)
  | timedOut (url : Url)
  /-- Some header cannot be sent. -/
  | badHeader
  /-- The URL is of no scheme that can be sent to. -/
  | badScheme (url : Url)
  /-- The URL is no URI by the grammar of the protocol. -/
  | badUri (url : Url)
  /-- The connection ends within the body. -/
  | cutShort
  | other (text : String)

/-- The wording. -/
def TransportFault.message : TransportFault → String
  | unreachable url => "error sending request for url (" ++ url.text ++ ")"
  | timedOut url => "request to " ++ url.text ++ " timed out"
  | badHeader => "builder error"
  | badScheme url => "builder error for url (" ++ url.text ++ ")"
  | badUri url => "builder error for url (" ++ url.text ++ ")"
  | cutShort => "error decoding response body"
  | other text => text

/-- Why a body cannot be used. -/
inductive BodyFault where
  | unreadable (cause : Json.ReadFault)
  /-- The answer to a code exchange carries neither a token nor a cookie. -/
  | noCredential
  | other (text : String)

/-- The wording. -/
def BodyFault.message : BodyFault → String
  | unreadable cause => cause.message
  | noCredential => "code exchange returned neither a token nor a session cookie"
  | other text => text

/-- Why a request cannot be built. -/
inductive RequestFault where
  | badPath (path : String) (cause : Url.Fault)
  | badMime (mime : String)
  /-- An export is asked for as if it were an action without an answer. -/
  | exportAsAction
  | other (text : String)

/-- The wording. -/
def RequestFault.message : RequestFault → String
  | badPath path cause => "invalid path '" ++ path ++ "': " ++ cause.message
  | badMime mime => "invalid mime type '" ++ mime ++ "': builder error"
  | exportAsAction => "use export_key to export key material"
  | other text => text

/-- Why a call of the backend fails. -/
inductive BackendError where
  /-- The answer was 401. -/
  | unauthorized
  /-- The answer was 500. -/
  | server (message : String)
  /-- The answer had another status that means failure. -/
  | status (code : Nat) (message : String)
  | transport (cause : TransportFault)
  | body (cause : BodyFault)
  | request (cause : RequestFault)

namespace BackendError

/-- The wording. -/
def message : BackendError → String
  | unauthorized => "Unauthorized: session is missing or expired"
  | server text => "Server error: " ++ text
  | status code text => "HTTP " ++ natText code ++ ": " ++ text
  | transport cause => "Transport error: " ++ cause.message
  | body cause => "Decode error: " ++ cause.message
  | request cause => "Invalid request: " ++ cause.message

/-- The status of the answer that the error stands for. -/
def status? : BackendError → Option Nat
  | unauthorized => some 401
  | server _ => some 500
  | status code _ => some code
  | _ => none

end BackendError

end SigningConsole
