import SigningConsole.Text.Hexadecimal
import SigningConsole.Text.Split
/-!
Tables by code point: rows in ascending order, looked up by halving, and written as text.
-/

namespace SigningConsole.Text

/-- Rows in ascending order of their code points. -/
structure Table (α : Type) where
  rows : Array (Nat × α)

namespace Table

variable {α : Type}

/-- The first place from `low` on, before `high`, whose row lies beyond `n`, by halving at
most `fuel` times. -/
def beyond (rows : Array (Nat × α)) (n : Nat) : Nat → Nat → Nat → Nat
  | 0, low, _ => low
  | fuel + 1, low, high =>
    if low < high then
      let middle := (low + high) / 2
      if (rows[middle]?).any fun row => row.1 ≤ n then beyond rows n fuel (middle + 1) high
      else beyond rows n fuel low middle
    else low

/-- The last row that does not lie beyond `n`. -/
def floor? (t : Table α) (n : Nat) : Option (Nat × α) :=
  match beyond t.rows n t.rows.size 0 t.rows.size with
  | 0 => none
  | i + 1 => t.rows[i]?

/-- What stands in the row of `n`. -/
def find? (t : Table α) (n : Nat) : Option α :=
  (t.floor? n).bind fun row => if row.1 = n then some row.2 else none

end Table

/-- The words of a row of text. -/
def rowWords (row : String) : List (List Char) := splitAll ' ' row.toList

/-- The characters of a word of hexadecimal numbers joined by `+`. -/
def wordChars (word : List Char) : List Char :=
  (splitAll '+' word).filterMap fun ds => (hexValue? ds).map Char.ofNat

/-- The images in a row of text: a code point, then the image of each code point from there on. -/
def rowImages (row : String) : List (Nat × List Char) :=
  match rowWords row with
  | [] => []
  | start :: words =>
    match hexValue? start with
    | some n => words.zipIdx.map fun (word, i) => (n + i, wordChars word)
    | none => []

/-- The table of the images in rows of text. -/
def Table.ofRows (rows : List String) : Table (List Char) := ⟨(rows.flatMap rowImages).toArray⟩

end SigningConsole.Text
