import SigningConsole.Number.Double
import SigningConsole.Text.Decimal
/-!
Shortest decimal text of a double: the fewest digits that read back as the same double.

The digits are searched on the decimal grids of 1, 2, …, 17 digits; on each grid only the two
neighbours of the value can lie in the interval of reals that round to it. The layout is positional
while the decimal exponent lies between -5 and 15, always with a point, and scientific beyond, with
a signed exponent.
-/

namespace SigningConsole.Double

open Text

/-- A decimal `digits · 10 ^ exponent`. -/
structure Digits where
  digits : Nat
  exponent : Int

/-- The interval of reals that round to the magnitude, in units of `2 ^ (exponent - 2)`. -/
structure Neighbourhood where
  low : Nat
  value : Nat
  high : Nat
  /-- Whether the ends belong to it. -/
  closed : Bool

/-- The reals nearest to the double. -/
def neighbourhood (x : Double) : Neighbourhood where
  low := if x.mantissa = Nat.pow 2 52 ∧ minExponent < x.exponent then 4 * x.mantissa - 1
    else 4 * x.mantissa - 2
  value := 4 * x.mantissa
  high := 4 * x.mantissa + 2
  closed := x.mantissa % 2 == 0

/-- Functions that bring interval units and points of the grid of step `10 ^ grid` to a common
unit. -/
def onGrid (x : Double) (grid : Int) : (Nat → Nat) × (Nat → Nat) :=
  -- one unit is 2 ^ (exponent - 2), one grid step 10 ^ grid
  let u := x.exponent - 2
  let unit := Nat.pow 2 u.toNat * Nat.pow 10 (-grid).toNat
  let step := Nat.pow 10 grid.toNat * Nat.pow 2 (-u).toNat
  ((· * unit), (· * step))

/-- The better of the two neighbours of the value on the grid, if one reads back as the value. -/
def candidate? (x : Double) (grid : Int) : Option Digits :=
  let n := x.neighbourhood
  let (units, points) := x.onGrid grid
  let below := units n.value / points 1
  let fits c :=
    if n.closed then units n.low ≤ points c && points c ≤ units n.high
    else units n.low < points c && points c < units n.high
  match fits below, fits (below + 1) with
  | true, true =>
    -- the nearer one; a tie goes to the even one
    let d := 2 * units n.value
    let s := points below + points (below + 1)
    if d < s ∨ (d = s ∧ below % 2 = 0) then some ⟨below, grid⟩ else some ⟨below + 1, grid⟩
  | true, false => some ⟨below, grid⟩
  | false, true => some ⟨below + 1, grid⟩
  | false, false => none

/-- The decimal place of the first digit: the magnitude lies below `10 ^ place` and not
below a tenth of it. -/
def firstPlace (x : Double) : Int :=
  let (a, b) := x.ratio
  (decimal (a * Nat.pow 10 330 / b)).length - 330

/-- Drops the trailing zeros of the digits. -/
def Digits.strip : Nat → Digits → Digits
  | 0, d => d
  | fuel + 1, d =>
    if d.digits % 10 = 0 ∧ d.digits ≠ 0 then Digits.strip fuel ⟨d.digits / 10, d.exponent + 1⟩
    else d

/-- The shortest decimal that reads back as the magnitude of a double other than zero. -/
def shortest (x : Double) : Digits :=
  let place := x.firstPlace
  let found := (List.range 17).findSome? fun (n : Nat) => x.candidate? (place - (n + 1 : Nat))
  Digits.strip 20 (found.getD ⟨0, 0⟩)

/-- The text of a decimal: positional while the decimal exponent lies in -5 … 15,
otherwise scientific. -/
def Digits.layout (d : Digits) : List Char :=
  let ds := decimal d.digits
  let point : Int := ds.length + d.exponent
  if 0 ≤ d.exponent ∧ point ≤ 16 then
    ds ++ List.replicate d.exponent.toNat '0' ++ ['.', '0']
  else if 0 < point ∧ point ≤ 16 then
    ds.take point.toNat ++ '.' :: ds.drop point.toNat
  else if -5 < point ∧ point ≤ 0 then
    ['0', '.'] ++ List.replicate (-point).toNat '0' ++ ds
  else
    let e := point - 1
    ds.take 1 ++ (if ds.length = 1 then [] else '.' :: ds.drop 1) ++
      ['e', if e < 0 then '-' else '+'] ++ decimal e.natAbs

/-- The text of a double. -/
def text (x : Double) : List Char :=
  (if x.negative then ['-'] else []) ++ (if x.isZero then ['0', '.', '0'] else x.shortest.layout)

end SigningConsole.Double
