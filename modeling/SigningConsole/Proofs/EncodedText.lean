import SigningConsole.Text.Utf8
/-!
The bytes of a text read back as the text.

The reader tells from a first byte how many follow and which second bytes are allowed. For the bytes
of a character these demands are met, with the bits of the character in them, so `Utf8.scan` finds
the characters one by one.
-/

namespace SigningConsole.Text.Utf8

theorem toNat_ofNat_of_lt {n : Nat} (h : n < 256) : (UInt8.ofNat n).toNat = n := by
  rw [UInt8.toNat_ofNat']
  exact Nat.mod_eq_of_lt h

/-- No character has a code among the surrogates or past the last plane. -/
theorem toNat_bounds (c : Char) :
    c.val.toNat < 0xD800 ∨ (0xDFFF < c.val.toNat ∧ c.val.toNat < 0x110000) := c.valid

theorem follow_succ {n low high bits b : Nat} {rest : List UInt8} (hb : b < 256)
    (h : low ≤ b ∧ b ≤ high) :
    follow (n + 1) low high bits (UInt8.ofNat b :: rest) = follow n 0x80 0xBF
      (bits * 64 + b % 64) rest := by
  rw [follow, toNat_ofNat_of_lt hb, if_pos h]

theorem scan_ascii {b : Nat} (rest : List UInt8) (h : b < 0x80) :
    scan (UInt8.ofNat b :: rest) = some (Char.ofNat b) :: scan rest := by
  have hb : b < 256 := by omega
  rw [scan, toNat_ofNat_of_lt hb, if_pos h]

/-- A first byte above ASCII whose demands are met. -/
theorem scan_lead {b : Nat} {rest rest' : List UInt8} {l : Lead} {v : Nat} (hb : 0x80 ≤ b ∧ b < 256)
    (hl : lead? (UInt8.ofNat b) = some l)
    (hf : follow l.following l.low l.high l.bits rest = (some v, rest')) :
    scan (UInt8.ofNat b :: rest) = some (Char.ofNat v) :: scan rest' := by
  have hascii : ¬ b < 0x80 := by omega
  rw [scan, toNat_ofNat_of_lt hb.2, if_neg hascii, hl]
  dsimp only
  rw [hf]
  rfl

/-! ## First bytes -/

theorem lead?_two {b : Nat} (h : 0xC2 ≤ b ∧ b ≤ 0xDF) :
    lead? (UInt8.ofNat b) = some ⟨1, 0x80, 0xBF, b - 0xC0⟩ := by
  have hb : b < 256 := by omega
  unfold lead?
  rw [toNat_ofNat_of_lt hb, if_pos h]

/-- The first of three bytes: the least one excludes what two bytes would do, and one
excludes the surrogates. -/
theorem lead?_three {b : Nat} (h : 0xE0 ≤ b ∧ b ≤ 0xEF) : ∃ low high,
    lead? (UInt8.ofNat b) = some ⟨2, low, high, b - 0xE0⟩ ∧
      (low = 0x80 ∨ (b = 0xE0 ∧ low = 0xA0)) ∧ (high = 0xBF ∨ (b = 0xED ∧ high = 0x9F)) := by
  have hb : b < 256 := by omega
  have htwo : ¬ (0xC2 ≤ b ∧ b ≤ 0xDF) := by omega
  unfold lead?
  rw [toNat_ofNat_of_lt hb, if_neg htwo]
  by_cases h₀ : b = 0xE0
  · exact ⟨0xA0, 0xBF, by simp [h₀], .inr ⟨h₀, rfl⟩, .inl rfl⟩
  · by_cases hD : b = 0xED
    · exact ⟨0x80, 0x9F, by simp [hD], .inl rfl, .inr ⟨hD, rfl⟩⟩
    · have hb' : 0xE1 ≤ b ∧ b ≤ 0xEF := by omega
      exact ⟨0x80, 0xBF, by simp [h₀, hD, hb'], .inl rfl, .inl rfl⟩

/-- The first of four bytes: the least one excludes what three bytes would do, and the last
one what is no code. -/
theorem lead?_four {b : Nat} (h : 0xF0 ≤ b ∧ b ≤ 0xF4) : ∃ low high,
    lead? (UInt8.ofNat b) = some ⟨3, low, high, b - 0xF0⟩ ∧
      (low = 0x80 ∨ (b = 0xF0 ∧ low = 0x90)) ∧ (high = 0xBF ∨ (b = 0xF4 ∧ high = 0x8F)) := by
  have hcases : b = 0xF0 ∨ b = 0xF1 ∨ b = 0xF2 ∨ b = 0xF3 ∨ b = 0xF4 := by omega
  obtain rfl | rfl | rfl | rfl | rfl := hcases
  · exact ⟨0x90, 0xBF, rfl, .inr ⟨rfl, rfl⟩, .inl rfl⟩
  · exact ⟨0x80, 0xBF, rfl, .inl rfl, .inl rfl⟩
  · exact ⟨0x80, 0xBF, rfl, .inl rfl, .inl rfl⟩
  · exact ⟨0x80, 0xBF, rfl, .inl rfl, .inl rfl⟩
  · exact ⟨0x80, 0x8F, rfl, .inl rfl, .inr ⟨rfl, rfl⟩⟩

/-! ## Characters and texts -/

/-- The bytes of a character are read as the character. -/
theorem scan_encodeChar (c : Char) (rest : List UInt8) :
    scan (String.utf8EncodeChar c ++ rest) = some c :: scan rest := by
  have hc := toNat_bounds c
  have hback : Char.ofNat c.val.toNat = c := Char.ofNat_toNat c
  unfold String.utf8EncodeChar
  generalize c.val.toNat = v at hc hback
  subst hback
  dsimp only
  split
  · rw [List.singleton_append, scan_ascii rest (by omega)]
  · split
    · simp only [List.cons_append, List.nil_append]
      refine scan_lead (by omega) (lead?_two (by omega)) ?_
      dsimp only
      have hbits : (v / 64 % 32 + 192 - 192) * 64 + (v % 64 + 128) % 64 = v := by omega
      rw [follow_succ, follow, hbits] <;> omega
    · split
      · obtain ⟨low, high, hl, hlow, hhigh⟩ := lead?_three (b := v / 4096 % 16 + 0xE0) (by omega)
        simp only [List.cons_append, List.nil_append]
        refine scan_lead (by omega) hl ?_
        dsimp only
        have hbits : ((v / 4096 % 16 + 224 - 224) * 64 + (v / 64 % 64 + 128) % 64) * 64 +
            (v % 64 + 128) % 64 = v := by
          omega
        rw [follow_succ, follow_succ, follow, hbits] <;> omega
      · obtain ⟨low, high, hl, hlow, hhigh⟩ := lead?_four (b := v / 262144 % 8 + 0xF0) (by omega)
        simp only [List.cons_append, List.nil_append]
        refine scan_lead (by omega) hl ?_
        dsimp only
        have hbits : (((v / 262144 % 8 + 240 - 240) * 64 + (v / 4096 % 64 + 128) % 64) * 64 +
            (v / 64 % 64 + 128) % 64) * 64 + (v % 64 + 128) % 64 = v := by
          omega
        rw [follow_succ, follow_succ, follow_succ, follow, hbits] <;> omega

theorem scan_encode (cs : List Char) : scan (encode cs) = cs.map some := by
  induction cs with
  | nil =>
    rw [show encode [] = [] from rfl, scan]
    rfl
  | cons c cs ih =>
    rw [show encode (c :: cs) = String.utf8EncodeChar c ++ encode cs from rfl, scan_encodeChar, ih]
    rfl

theorem decode?_encode (cs : List Char) : decode? (encode cs) = some cs := by
  unfold decode?
  rw [scan_encode]
  induction cs with
  | nil => rfl
  | cons c cs ih =>
    rw [List.map_cons, List.mapM_cons, ih]
    rfl

/-- The bytes of a string are read as the string. -/
theorem toString?_ofString (s : String) : toString? (ofString s) = some s := by
  unfold toString? ofString
  rw [decode?_encode, Option.map_some, String.ofList_toList]

end SigningConsole.Text.Utf8
