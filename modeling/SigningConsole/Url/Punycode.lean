import SigningConsole.Text.Split
/-!
Punycode: a label of any characters written with ASCII letters, digits and hyphens.

The characters that are ASCII stand first, then after the last hyphen a sequence of differences in a
mixed base that says where the others are to be inserted.
-/

namespace SigningConsole.Url.Punycode

/-- The character of a digit. -/
def digitChar (d : Nat) : Char := if d < 26 then Char.ofNat (97 + d) else Char.ofNat (22 + d)

/-- The value of a digit in either case. -/
def digitValue? (c : Char) : Option Nat :=
  if 'a' ≤ c ∧ c ≤ 'z' then some (c.toNat - 97)
  else if 'A' ≤ c ∧ c ≤ 'Z' then some (c.toNat - 65)
  else if '0' ≤ c ∧ c ≤ '9' then some (c.toNat - 22)
  else none

/-- The threshold of the digit at weight `k` under a bias. -/
def threshold (k bias : Nat) : Nat := if k ≤ bias then 1 else if bias + 26 ≤ k then 26 else k - bias

/-- Divides the difference until it is small, and counts 36 for each division. -/
def scale : Nat → Nat → Nat → Nat
  | 0, k, delta => k + 36 * delta / (delta + 38)
  | fuel + 1, k, delta =>
    if 455 < delta then scale fuel (k + 36) (delta / 35) else k + 36 * delta / (delta + 38)

/-- The next bias after a difference. -/
def adapt (delta count : Nat) (first : Bool) : Nat :=
  let delta := if first then delta / 700 else delta / 2
  scale delta 0 (delta + delta / count)

/-- The digits of a difference under a bias. -/
def numeral : Nat → Nat → Nat → Nat → List Char
  | 0, _, _, q => [digitChar q]
  | fuel + 1, k, bias, q =>
    let t := threshold k bias
    if q < t then [digitChar q]
    else digitChar (t + (q - t) % (36 - t)) :: numeral fuel (k + 36) bias ((q - t) / (36 - t))

/-- How far the writer has got. -/
structure Writing where
  /-- The next code point to be written. -/
  next : Nat
  delta : Nat
  bias : Nat
  /-- How many characters are written. -/
  handled : Nat
  output : List Char

/-- Passes one character of the label at the code point in turn. -/
def pass (basicCount point : Nat) (w : Writing) (c : Char) : Writing :=
  if c.toNat < point then { w with delta := w.delta + 1 }
  else if c.toNat = point then
    { w with
      output := w.output ++ numeral w.delta 36 w.bias w.delta
      bias := adapt w.delta (w.handled + 1) (w.handled = basicCount)
      delta := 0
      handled := w.handled + 1 }
  else w

/-- Writes the code points from the next one on, the least first. -/
def rounds (label : List Char) (basicCount : Nat) : Nat → Writing → Writing
  | 0, w => w
  | fuel + 1, w =>
    match (label.filter (w.next ≤ ·.toNat)).map Char.toNat |>.min? with
    | none => w
    | some m =>
      let w := { w with delta := w.delta + (m - w.next) * (w.handled + 1), next := m }
      let w := label.foldl (pass basicCount m) w
      rounds label basicCount fuel { w with delta := w.delta + 1, next := m + 1 }

/-- The Punycode of a label. -/
def encode (label : List Char) : List Char :=
  let basic := label.filter (·.toNat < 0x80)
  let start := if basic.isEmpty then [] else basic ++ ['-']
  (rounds label basic.length label.length ⟨0x80, 0, 72, basic.length, start⟩).output

/-- Reads one difference. -/
def difference? : Nat → Nat → Nat → Nat → List Char → Option (Nat × List Char)
  | _, _, _, _, [] => none
  | k, bias, weight, i, c :: cs => do
    let d ← digitValue? c
    let i := i + d * weight
    if UInt32.size ≤ i then none
    else
      let t := threshold k bias
      if d < t then some (i, cs) else difference? (k + 36) bias (weight * (36 - t)) i cs

/-- Reads the differences and inserts their characters. -/
def insertions? : Nat → Nat → Nat → Nat → List Char → List Char → Option (List Char)
  | _, _, _, _, output, [] => some output
  | 0, _, _, _, _, _ => none
  | fuel + 1, point, i, bias, output, cs => do
    let (next, rest) ← difference? 36 bias 1 i cs
    let count := output.length + 1
    let bias := adapt (next - i) count (i = 0)
    let point := point + next / count
    let place := next % count
    if point < 0x110000 ∧ ¬(0xD800 ≤ point ∧ point < 0xE000) then
      insertions? fuel point (place + 1) bias
        (output.take place ++ Char.ofNat point :: output.drop place) rest
    else none

/-- What stands before and after the last hyphen; all is after it where there is none. -/
def splitLast (cs : List Char) : List Char × List Char :=
  match Text.splitFirst? '-' cs.reverse with
  | some (after, before) => (before.reverse, after.reverse)
  | none => ([], cs)

/-- The label of a Punycode text. -/
def decode? (cs : List Char) : Option (List Char) :=
  let (basic, digits) := splitLast cs
  if basic.all (·.toNat < 0x80) then insertions? digits.length 0x80 0 72 basic digits else none

end SigningConsole.Url.Punycode
