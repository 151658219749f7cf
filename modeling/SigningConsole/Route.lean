import SigningConsole.Text.Blank
import SigningConsole.Variant
/-!
The pages of the console and the paths that lead to them.
-/

namespace SigningConsole

open Text

/-- A page. -/
inductive Route where
  | keyList
  | apiTokens
deriving DecidableEq, Repr

namespace Route

/-- The name of a page. -/
def name : Route → String
  | keyList => "KeyList"
  | apiTokens => "ApiTokens"

/-- A path without the mark of a route inside a fragment. -/
def withoutHash : List Char → List Char
  | '#' :: cs => cs
  | cs => cs

/-- A path up to its query or fragment, without slashes at its end. -/
def core (path : List Char) : List Char :=
  dropSuffixWhile (· == '/') ((withoutHash path).takeWhile fun c => c != '?' && c != '#')

/-- The page that a path leads to. -/
def ofPath? (path : String) (variant : Variant) : Option Route :=
  let c := core path.toList
  if c.isEmpty then some keyList else if c = variant.tokensPath.toList then some apiTokens else none

/-- The path of a page. -/
def path (variant : Variant) : Route → String
  | keyList => "/"
  | apiTokens => variant.tokensPath

end Route

end SigningConsole
