import SigningConsole.Json.Basic
import SigningConsole.Text.Blank
import SigningConsole.Text.Split
import SigningConsole.Word
/-!
Query parameters in order, and the pairs `key=value` in which an operator types them.
-/

namespace SigningConsole

open Text

/-- Pairs of key and value in the order in which they are sent. -/
abbrev Parameters := List (String × String)

namespace Parameters

/-- The value of the first pair with a key. -/
def get? (params : Parameters) (key : String) : Option String := params.lookup key

/-- Adds a pair at the end. -/
def add (params : Parameters) (key value : String) : Parameters := params ++ [(key, value)]

/-- Adds a pair at the end if there is a value. -/
def add? (params : Parameters) (key : String) : Option String → Parameters
  | some value => params.add key value
  | none => params

/-- Pairs as JSON arrays of two texts. -/
def toJson (params : Parameters) : Json := .arr (params.map fun (k, v) => .arr [.str k, .str v])

/-- Reads `key=value`: cut at the first equals sign, with a key that is not blank and loses
the blanks around it. -/
def pairOfText? (s : String) : Except WordError (String × String) :=
  match splitFirst? '=' s.toList with
  | some (key, value) =>
    if (trim key).isEmpty then .error ⟨.pair, s⟩
    else .ok (String.ofList (trim key), String.ofList value)
  | none => .error ⟨.pair, s⟩

end Parameters

end SigningConsole
