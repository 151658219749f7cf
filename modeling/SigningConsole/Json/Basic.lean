import SigningConsole.Number.Double
import SigningConsole.Text.StringMap
/-!
JSON values.

A number is an integer as long as it was written as one and fits 64 bits, otherwise a double. An
object keeps its members in the order in which they stand; `normalize` gives the form in which
free-form values are handled, with sorted keys of which each occurs once.
-/

namespace SigningConsole

/-- A JSON value. -/
inductive Json where
  | null
  | bool (b : Bool)
  | int (n : Int)
  | double (x : Double)
  | str (s : String)
  | arr (items : List Json)
  | obj (members : List (String × Json))
deriving Inhabited

namespace Json

/-- Sorted members of which the last one at each key is kept. -/
def sortMembers (members : List (String × Json)) : List (String × Json) :=
  (StringMap.ofList members).entries

mutual

/-- The value with the members of each object sorted by key; of several at one key the last one
counts. -/
def normalize : Json → Json
  | arr items => arr (normalizeItems items)
  | obj members => obj (sortMembers (normalizeMembers members))
  | null => null
  | bool b => bool b
  | int n => int n
  | double x => double x
  | str s => str s

/-- `normalize` on the items of an array. -/
def normalizeItems : List Json → List Json
  | [] => []
  | v :: vs => v.normalize :: normalizeItems vs

/-- `normalize` on the values of members. -/
def normalizeMembers : List (String × Json) → List (String × Json)
  | [] => []
  | (k, v) :: ms => (k, v.normalize) :: normalizeMembers ms

end

/-- The value of the last member at a key, if the value is an object that has one. -/
def get? (v : Json) (key : String) : Option Json :=
  match v with
  | obj members => (StringMap.ofList members).get? key
  | _ => none

/-- The value as an unsigned integer, if it is one. -/
def natural? : Json → Option Nat
  | int n => if 0 ≤ n then some n.toNat else none
  | _ => none

/-- The value as a text, if it is one. -/
def text? : Json → Option String
  | str s => some s
  | _ => none

/-- Whether the value is an object. -/
def isObject : Json → Bool
  | obj _ => true
  | _ => false

/-- A number that fits 32 bits. -/
def ofInt32 (n : Int32) : Json := int n.toInt

/-- An unsigned number that fits 64 bits. -/
def ofUInt64 (n : UInt64) : Json := int n.toNat

/-- A text or null. -/
def ofText? (s : Option String) : Json := s.elim null str

/-- An object of texts. -/
def ofTextMap (m : StringMap String) : Json := obj (m.entries.map fun (k, v) => (k, str v))

end Json

end SigningConsole
