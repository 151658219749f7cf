/-!
Base64: three bytes are written as four letters, and what is left at the end is filled up
with equals signs.
-/

namespace SigningConsole.Text

/-- The letter of a value below 64. -/
def base64Letter (n : Nat) : Char :=
  if n < 26 then Char.ofNat (65 + n)
  else if n < 52 then Char.ofNat (71 + n)
  else if n < 62 then Char.ofNat (n - 4)
  else if n = 62 then '+'
  else '/'

/-- Bytes in Base64. -/
def base64 : List UInt8 → List Char
  | a :: b :: c :: rest =>
    let n := (a.toNat * 256 + b.toNat) * 256 + c.toNat
    [base64Letter (n / 262144), base64Letter (n / 4096 % 64), base64Letter (n / 64 % 64),
      base64Letter (n % 64)] ++ base64 rest
  | [a, b] =>
    let n := a.toNat * 256 + b.toNat
    [base64Letter (n / 1024), base64Letter (n / 16 % 64), base64Letter (n % 16 * 4), '=']
  | [a] => [base64Letter (a.toNat / 4), base64Letter (a.toNat % 4 * 16), '=', '=']
  | [] => []

/-- Base64 is letters, and equals signs at its end. -/
theorem letter_of_mem_base64 {c : Char} :
    ∀ {bytes : List UInt8}, c ∈ base64 bytes → c = '=' ∨ ∃ n < 64, c = base64Letter n := by
  intro bytes
  induction bytes using base64.induct with
  | case1 x y z rest ih =>
    have hx := x.toNat_lt
    have hy := y.toNat_lt
    have hz := z.toNat_lt
    intro h
    obtain h | h := List.mem_append.1 h
    · simp only [List.mem_cons, List.not_mem_nil, or_false] at h
      obtain h | h | h | h := h
      · exact .inr ⟨_, by omega, h⟩
      · exact .inr ⟨_, Nat.mod_lt _ (by decide), h⟩
      · exact .inr ⟨_, Nat.mod_lt _ (by decide), h⟩
      · exact .inr ⟨_, Nat.mod_lt _ (by decide), h⟩
    · exact ih h
  | case2 x y =>
    have hx := x.toNat_lt
    have hy := y.toNat_lt
    intro h
    simp only [base64, List.mem_cons, List.not_mem_nil, or_false] at h
    obtain h | h | h | h := h
    · exact .inr ⟨_, by omega, h⟩
    · exact .inr ⟨_, Nat.mod_lt _ (by decide), h⟩
    · exact .inr ⟨_, by omega, h⟩
    · exact .inl h
  | case3 x =>
    have hx := x.toNat_lt
    intro h
    simp only [base64, List.mem_cons, List.not_mem_nil, or_false] at h
    obtain h | h | h | h := h
    · exact .inr ⟨_, by omega, h⟩
    · exact .inr ⟨_, by omega, h⟩
    · exact .inl h
    · exact .inl h
  | case4 =>
    intro h
    cases h

end SigningConsole.Text
