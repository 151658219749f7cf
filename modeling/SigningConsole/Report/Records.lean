import SigningConsole.Json.Printer
import SigningConsole.Report.Figures
import SigningConsole.Report.Table
import SigningConsole.Text.Uppercase
/-!
Free-form answers as tables: the records inside a value, and the counts among them.

Values are in normal form, so that the members of an object are sorted by key.
-/

namespace SigningConsole.Report

open Text

/-! ## Records -/

mutual

/-- The records inside a value: an array, or what the first of four members holds. -/
def records? : Json → Option (List Json)
  | .arr items => some items
  | .obj members =>
    (memberRecords? "data" members <|> memberRecords? "list" members <|>
      memberRecords? "records" members <|>
      memberRecords? "rows" members).join
  | _ => none

/-- The records inside the value of a member, if there is such a member. -/
def memberRecords? (name : String) : List (String × Json) → Option (Option (List Json))
  | [] => none
  | (k, v) :: ms => if k = name then some (records? v) else memberRecords? name ms

end

/-- The members of the first record, if it is an object. -/
def firstMembers? : List Json → Option (List (String × Json))
  | .obj members :: _ => some members
  | _ => none

/-- A value as a cell. -/
def cell : Json → String
  | .null => "-"
  | .str s => s
  | v => v.compact

/-- The table of records, with a column for each of the given members. -/
def recordTable (columns : List String) (items : List Json) : Table where
  headers := columns.map fun c => String.ofList (uppercase c.toList)
  rows := items.map fun item => columns.map fun c => ((item.get? c).map cell).getD ""

/-- A value as a table of its records, whose columns are the members of the first of them; a value
without such records as JSON. -/
def valueText? (v : Json) : Option String :=
  match records? v with
  | none => some v.pretty
  | some items =>
    match firstMembers? items with
    | none => some v.pretty
    | some members => (recordTable (members.map (·.1)) items).text?

/-! ## Counts -/

/-- The members that may hold a record's label. -/
def labelMembers : List String := ["name", "cooperatorName", "cooperator", "month", "date", "time"]

/-- The members that may hold a record's count. -/
def countMembers : List String := ["count", "value", "total", "num"]

/-- Label and count of a record that has both. -/
def countOf? (item : Json) : Option (String × Nat) := do
  let label ← labelMembers.findSome? item.get?
  let count ← countMembers.findSome? fun k => (item.get? k).bind Json.natural?
  return (cell label, count)

/-- The members of an object that are counts, by name. -/
def flatCounts : Json → List (String × Nat)
  | .obj members => members.filterMap fun (k, v) => v.natural?.map fun n => (k, n)
  | _ => []

/-- Labels and counts: the members that are counts, or else the records with a label and a count. -/
def counts (v : Json) : List (String × Nat) :=
  match flatCounts v with
  | [] => ((records? v).getD []).filterMap countOf?
  | flat => flat

/-- The sum of counts, if it fits 64 bits. -/
def totalOf? (pairs : List (String × Nat)) : Option Nat :=
  let total := pairs.foldl (fun total (_, n) => total + n) 0
  if total ≤ maxUInt64 then some total else none

/-- The table of counts with their shares, unless their sum is too great. -/
def shareTable? (pairs : List (String × Nat)) : Option Table :=
  (totalOf? pairs).map fun total =>
    { headers := ["NAME", "COUNT", "SHARE", "COMPACT"]
      rows := pairs.map fun (label, n) => [label, grouped n, shareText n total, abbreviated n] }

end SigningConsole.Report
