/-!
Properties of characters as ranges of code points, and mappings as runs of characters that
move by one distance.
-/

namespace SigningConsole.Text

/-- Whether one of the ranges, each given by its ends, holds the character. -/
def inRanges (ranges : List (Nat × Nat)) (c : Char) : Bool :=
  ranges.any fun (first, last) => first ≤ c.toNat && c.toNat ≤ last

/-- Characters `first`, `first + step`, …, `last`, each `shift` away from its image. -/
structure ShiftRun where
  first : Nat
  last : Nat
  step : Nat
  shift : Int

/-- The image of a character of the run. -/
def ShiftRun.image? (r : ShiftRun) (c : Char) : Option Char :=
  let n := c.toNat
  if r.first ≤ n ∧ n ≤ r.last ∧
    (n - r.first) % r.step = 0 then some (Char.ofNat (n + r.shift).toNat) else none

/-- The image of a character under the first run that has it. -/
def shifted? (runs : List ShiftRun) (c : Char) : Option Char := runs.findSome? (·.image? c)

end SigningConsole.Text
