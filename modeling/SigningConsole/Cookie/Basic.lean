import SigningConsole.Text.Blank
import SigningConsole.Text.Decimal
import SigningConsole.Text.Split
import SigningConsole.Text.StringMap
/-!
Cookies: reading `Cookie` and `Set-Cookie` texts and writing them.

A cookie string is cut at semicolons, its first part at the first equals sign; names and values lose
the blanks at their ends and keep their quotes. Of several `Max-Age` attributes the last one counts;
a value with a minus sign stands for zero, and one that is no number is passed over.
-/

namespace SigningConsole

open Text

/-- A cookie as a server sets it. -/
structure Cookie where
  name : String
  value : String
  path : Option String
  domain : Option String
  /-- The lifetime in seconds. -/
  maxAge : Option Int
deriving DecidableEq, Repr

namespace Cookie

/-- Name and value of the part before the first semicolon, if it is a pair with a name. -/
def pair? (part : List Char) : Option (String × String) :=
  match splitFirst? '=' part with
  | none => none
  | some (name, value) =>
    if (trim name).isEmpty then none else some (String.ofList (trim name),
      String.ofList (trim value))

/-- The greatest lifetime that is read; longer ones are cut down to it. -/
def maxMaxAge : Nat := 9223372036854775807

/-- The lifetime that the value of a `Max-Age` attribute states. -/
def lifetime? (value : List Char) : Option Nat :=
  let (negative, digits) := match value with
    | '-' :: ds => (true, ds)
    | ds => (false, ds)
  if digits.all Char.isDigit then
    if negative then some 0
    else some (match readDigits? digits with | some n => min n maxMaxAge | none => maxMaxAge)
  else none

/-- Whether the attribute has the name, in letters of either case. -/
def isNamed (name : String) (part : List Char) : Bool :=
  (trim part).map Char.toLower == name.toList

/-- The lifetime after one more attribute. -/
def addLifetime (age : Option Nat) (part : List Char) : Option Nat :=
  match splitFirst? '=' part with
  | some (name, value) =>
    if isNamed "max-age" name then
      match lifetime? (trim value) with
      | some n => some n
      | none => age
    else age
  | none => age

/-- Reads a `Set-Cookie` value: name, value and lifetime. -/
def parse? (raw : String) : Option (String × String × Option Nat) :=
  match splitAll ';' raw.toList with
  | [] => none
  | part :: attributes => do
    let (name, value) ← pair? part
    return (name, value, attributes.foldl addLifetime none)

/-- The pairs of a `Cookie` header in order; parts that are no pair are passed over. -/
def pairs (header : String) : List (String × String) := (splitAll ';' header.toList).filterMap pair?

/-- A domain without a leading dot. -/
def bareDomain (domain : String) : List Char :=
  match domain.toList with
  | '.' :: cs => cs
  | cs => cs

/-- The characters of a `Set-Cookie` value. -/
def chars (c : Cookie) : List Char :=
  let setting (name : String) (value : Option (List Char)) :=
    match value with
    | some v => [';', ' '] ++ name.toList ++ '=' :: v
    | none => []
  c.name.toList ++ '=' :: c.value.toList ++ setting "Path" (c.path.map String.toList) ++
    setting "Domain" (c.domain.map bareDomain) ++ setting "Max-Age" (c.maxAge.map decimalInt)

/-- The text of a `Set-Cookie` value. -/
def text (c : Cookie) : String := String.ofList c.chars

end Cookie

end SigningConsole
