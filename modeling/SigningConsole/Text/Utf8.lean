/-!
UTF-8: the bytes of a text, and reading bytes as a text, strictly or with replacement characters.

An ill-formed stretch is cut into its longest prefixes that could still begin a character; each
counts as one fault.
-/

namespace SigningConsole.Text.Utf8

/-- The UTF-8 bytes of a text. -/
def encode (cs : List Char) : List UInt8 := cs.flatMap String.utf8EncodeChar

/-- The UTF-8 bytes of a string. -/
def ofString (s : String) : List UInt8 := encode s.toList

/-- What a first byte above ASCII demands. -/
structure Lead where
  /-- How many bytes follow. -/
  following : Nat
  /-- The least second byte. -/
  low : Nat
  /-- The greatest second byte. -/
  high : Nat
  /-- The bits that the first byte contributes. -/
  bits : Nat

/-- Reads a first byte; `none` if no character begins with it. -/
def lead? (b : UInt8) : Option Lead :=
  let n := b.toNat
  if 0xC2 ≤ n ∧ n ≤ 0xDF then some ⟨1, 0x80, 0xBF, n - 0xC0⟩
  else if n = 0xE0 then some ⟨2, 0xA0, 0xBF, 0⟩
  else if n = 0xED then some ⟨2, 0x80, 0x9F, 0xD⟩
  else if 0xE1 ≤ n ∧ n ≤ 0xEF then some ⟨2, 0x80, 0xBF, n - 0xE0⟩
  else if n = 0xF0 then some ⟨3, 0x90, 0xBF, 0⟩
  else if 0xF1 ≤ n ∧ n ≤ 0xF3 then some ⟨3, 0x80, 0xBF, n - 0xF0⟩
  else if n = 0xF4 then some ⟨3, 0x80, 0x8F, 4⟩
  else none

/-- Reads `following` continuation bytes onto `bits`; the rest starts at the first byte
that does not fit. -/
def follow : Nat → Nat → Nat → Nat → List UInt8 → Option Nat × List UInt8
  | 0, _, _, bits, rest => (some bits, rest)
  | _ + 1, _, _, _, [] => (none, [])
  | n + 1, low, high, bits, b :: rest =>
    if low ≤ b.toNat ∧ b.toNat ≤ high then follow n 0x80 0xBF (bits * 64 + b.toNat % 64) rest
    else (none, b :: rest)

theorem length_follow_le (n low high bits : Nat) (bs : List UInt8) :
    (follow n low high bits bs).2.length ≤ bs.length := by
  induction n generalizing low high bits bs with
  | zero => simp [follow]
  | succ n ih =>
    cases bs with
    | nil => simp [follow]
    | cons b rest =>
      rw [follow]
      split
      · exact Nat.le_trans (ih _ _ _ _) (Nat.le_succ _)
      · simp

/-- The characters of the bytes, with `none` for each ill-formed stretch. -/
def scan : List UInt8 → List (Option Char)
  | [] => []
  | b :: rest =>
    if b.toNat < 0x80 then some (Char.ofNat b.toNat) :: scan rest
    else
      match lead? b with
      | none => none :: scan rest
      | some l =>
        let read := follow l.following l.low l.high l.bits rest
        read.1.map Char.ofNat :: scan read.2
termination_by bs => bs.length
decreasing_by
  all_goals simp only [List.length_cons]
  · omega
  · omega
  · exact Nat.lt_succ_of_le (length_follow_le _ _ _ _ _)

/-- The text of the bytes, or `none` if they are not well-formed. -/
def decode? (bs : List UInt8) : Option (List Char) := (scan bs).mapM id

/-- The string of the bytes, or `none` if they are not well-formed. -/
def toString? (bs : List UInt8) : Option String := (decode? bs).map String.ofList

/-- The text of the bytes with U+FFFD for each ill-formed stretch. -/
def decodeLossy (bs : List UInt8) : List Char := (scan bs).map (·.getD '\uFFFD')

end SigningConsole.Text.Utf8
