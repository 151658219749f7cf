import SigningConsole.Word
/-!
The two consoles, which differ in the route of the token page and in how they log in.
-/

namespace SigningConsole

/-- Which console it is. -/
inductive Variant where
  /-- The console of the key management. -/
  | signatrust
  /-- The console of the certification. -/
  | certification
deriving DecidableEq, Repr

namespace Variant

/-- The name of a console. -/
def text : Variant → String
  | signatrust => "signatrust"
  | certification => "certification"

/-- Reads the name of a console. -/
def ofText? (s : String) : Except WordError Variant :=
  readWord .variant [("signatrust", signatrust), ("certification", certification)] s

/-- The route of the token page. -/
def tokensPath : Variant → String
  | signatrust => "/tokens"
  | certification => "/apiTokens"

end Variant

end SigningConsole
