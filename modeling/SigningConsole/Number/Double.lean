/-!
Finite doubles as exact values: a sign, a mantissa and a power of two.

Every operation computes the exact rational result and rounds it once to the nearest double, ties to
the even mantissa; `none` stands for a result beyond the greatest double.
-/

namespace SigningConsole

/-- The finite double `± mantissa · 2 ^ exponent`. -/
structure Double where
  negative : Bool
  mantissa : Nat
  exponent : Int
deriving DecidableEq, Repr

namespace Double

/-- The least exponent of a double. -/
def minExponent : Int := -1074

/-- The greatest exponent of a double with 53 bits of mantissa. -/
def maxExponent : Int := 971

/-- The zero of the given sign. -/
def zero (negative : Bool) : Double := ⟨negative, 0, minExponent⟩

/-- Whether the value is zero, of either sign. -/
def isZero (x : Double) : Bool := x.mantissa == 0

/-- The natural nearest to `num / den`; a tie goes to the even one. -/
def roundDiv (num den : Nat) : Nat :=
  let q := num / den
  let r := num % den
  if 2 * r < den ∨ (2 * r = den ∧ q % 2 = 0) then q else q + 1

/-- The fraction `num / den · 2 ^ (-e)`, as numerator and denominator. -/
def scaleDown (num den : Nat) (e : Int) : Nat × Nat :=
  if 0 ≤ e then (num, den * Nat.pow 2 e.toNat) else (num * Nat.pow 2 (-e).toNat, den)

/-- The exponent at which `num / den` has a mantissa of 53 bits, or the least one. -/
def exponentFor (num den : Nat) : Int :=
  let l : Int := (Nat.log2 num : Int) - Nat.log2 den
  let (a, b) := scaleDown num den l
  max minExponent (if a < b then l - 53 else l - 52)

/-- The double nearest to `± num / den`. -/
def ofRatio? (negative : Bool) (num den : Nat) : Option Double :=
  if num = 0 then some (zero negative)
  else
    let e := exponentFor num den
    let (a, b) := scaleDown num den e
    let m := roundDiv a b
    let (m, e) := if m = Nat.pow 2 53 then (Nat.pow 2 52, e + 1) else (m, e)
    if maxExponent < e then none else some ⟨negative, m, e⟩

/-- The double nearest to a natural. -/
def ofNat? (n : Nat) : Option Double := ofRatio? false n 1

/-- The magnitude as numerator and denominator. -/
def ratio (x : Double) : Nat × Nat := scaleDown x.mantissa 1 (-x.exponent)

/-- The product, rounded. -/
def mul? (x y : Double) : Option Double :=
  let (a, b) := x.ratio
  let (c, d) := y.ratio
  ofRatio? (x.negative != y.negative) (a * c) (b * d)

/-- The quotient, rounded; `none` also for a zero divisor. -/
def div? (x y : Double) : Option Double :=
  if y.isZero then none
  else
    let (a, b) := x.ratio
    let (c, d) := y.ratio
    ofRatio? (x.negative != y.negative) (a * d) (b * c)

/-- The double nearest to `± significand · 10 ^ exponent`, reached in steps that each round: the
significand first, then one product or quotient by a power of ten up to the 308th, after quotients
by the 308th while the exponent lies below it. -/
def ofDecimal? (negative : Bool) (significand : Nat) (exponent : Int) : Option Double :=
  (ofRatio? negative significand 1).bind (steps exponent.natAbs exponent)
where
  /-- Scales by the power of ten; each round brings the exponent nearer to zero, so `fuel`
  bounds their number. -/
  steps : Nat → Int → Double → Option Double
    | fuel, e, x =>
      if e.natAbs ≤ 308 then
        (ofNat? (Nat.pow 10 e.natAbs)).bind fun p => if 0 ≤ e then x.mul? p else x.div? p
      else if x.isZero then some x
      else if 0 ≤ e then none
      else
        match fuel with
        | 0 => none
        | fuel + 1 => ((ofNat? (Nat.pow 10 308)).bind x.div?).bind (steps fuel (e + 308))

/-- The text with a fixed number of places, the exact value rounded half to even. -/
def fixed (places : Nat) (x : Double) (digits : Nat → List Char) : List Char :=
  let (a, b) := x.ratio
  let n := roundDiv (a * Nat.pow 10 places) b
  let whole := digits (n / Nat.pow 10 places)
  let part := digits (n % Nat.pow 10 places)
  (if x.negative then ['-'] else []) ++ whole ++
    (if places = 0 then [] else '.' :: (List.replicate (places - part.length) '0' ++ part))

end Double

end SigningConsole
