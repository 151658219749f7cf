import SigningConsole.Text.Blank
/-!
Text tables with columns aligned at the left.

A column is as wide as its widest cell, in characters, and two spaces stand between columns; no line
ends in blanks. A row may be shorter or longer than the header.
-/

namespace SigningConsole

open Text

/-- A header and rows of cells. -/
structure Table where
  headers : List String
  rows : List (List String) := []
deriving DecidableEq, Repr

namespace Table

/-- The greater width at each column. -/
def mergeWidths : List Nat → List Nat → List Nat
  | ws, [] => ws
  | [], vs => vs
  | w :: ws, v :: vs => max w v :: mergeWidths ws vs

/-- The widths of cells. -/
def cellWidths (cells : List String) : List Nat := cells.map (·.toList.length)

/-- The widths of the columns. -/
def widths (t : Table) : List Nat :=
  t.rows.foldl (fun ws row => mergeWidths ws (cellWidths row)) (cellWidths t.headers)

/-- A cell filled up with spaces. -/
def padCell (width : Nat) (cell : String) : List Char :=
  cell.toList ++ List.replicate (width - cell.toList.length) ' '

/-- The cells of a line, filled up to their columns' widths. -/
def padCells : List Nat → List String → List (List Char)
  | _, [] => []
  | [], cell :: cells => padCell 0 cell :: padCells [] cells
  | w :: ws, cell :: cells => padCell w cell :: padCells ws cells

/-- One line of a table. -/
def lineChars (widths : List Nat) (cells : List String) : List Char :=
  trimEnd ((padCells widths cells).intersperse [' ', ' ']).flatten

/-- The lines of a table, without their ends. -/
def lines (t : Table) : List (List Char) := (t.headers :: t.rows).map (lineChars t.widths)

/-- The text of a table. -/
def text (t : Table) : String := String.ofList (t.lines.flatMap fun line => line ++ ['\n'])

/-- The greatest width of a column. -/
def maxWidth : Nat := 65535

/-- The text of a table, unless some column is too wide. -/
def text? (t : Table) : Option String := if t.widths.all (· ≤ maxWidth) then some t.text else none

/-- Whether the table has no rows. -/
def isEmpty (t : Table) : Bool := t.rows.isEmpty

end Table

end SigningConsole
