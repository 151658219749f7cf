import SigningConsole.Account
import SigningConsole.Url.Basic
/-!
What the console shows beside its answers: who is logged in, the login that is under
way, and an image.
-/

namespace SigningConsole

/-- The state of the screen. -/
structure Screen where
  identity : Option Identity := none
  loggingIn : Bool := false
  /-- The page on which the operator logs in. -/
  loginFrame : Option Url := none
  image : Option String := none

namespace Screen

/-- Starts a login on a page. -/
def openLogin (s : Screen) (page : Url) : Screen :=
  { s with loggingIn := true, loginFrame := some page }

/-- Ends a login, with the identity if it is known. -/
def closeLogin (s : Screen) (identity : Option Identity) : Screen :=
  { s with loggingIn := false, loginFrame := none, identity }

/-- Shows an identity. -/
def identifyAs (s : Screen) (identity : Identity) : Screen := { s with identity := some identity }

/-- Forgets the identity; a login is no longer under way. -/
def forgetIdentity (s : Screen) : Screen := { s with identity := none, loggingIn := false }

/-- Shows an image. -/
def openImage (s : Screen) (url : String) : Screen := { s with image := some url }

/-- Closes the image. -/
def hideImage (s : Screen) : Screen := { s with image := none }

/-- The screen as JSON. -/
def toJson (s : Screen) : Json :=
  .obj
    [("identity", s.identity.elim .null Identity.toJson), ("logging_in", .bool s.loggingIn),
      ("frame_url", Json.ofText? (s.loginFrame.map Url.text)), ("image", Json.ofText? s.image)]

end Screen

end SigningConsole
