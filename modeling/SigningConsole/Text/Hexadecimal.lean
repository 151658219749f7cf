/-!
Hexadecimal numerals.
-/

namespace SigningConsole.Text

/-- One hexadecimal digit, in lower case. -/
def hexLower (d : Nat) : Char := if d < 10 then Char.ofNat (48 + d) else Char.ofNat (87 + d)

/-- One hexadecimal digit, in upper case. -/
def hexUpper (d : Nat) : Char := if d < 10 then Char.ofNat (48 + d) else Char.ofNat (55 + d)

/-- The value of a hexadecimal digit in either case. -/
def hexDigit? (c : Char) : Option Nat :=
  if '0' ≤ c ∧ c ≤ '9' then some (c.toNat - 48)
  else if 'a' ≤ c ∧ c ≤ 'f' then some (c.toNat - 87)
  else if 'A' ≤ c ∧ c ≤ 'F' then some (c.toNat - 55)
  else none

/-- The hexadecimal digits of a natural in lower case, most significant first. -/
def hexadecimal (n : Nat) : List Char :=
  if n < 16 then [hexLower n] else hexadecimal (n / 16) ++ [hexLower (n % 16)]

/-- The value of hexadecimal digits; `none` if some character is none. -/
def hexValue? (cs : List Char) : Option Nat :=
  cs.foldlM (fun n c => (hexDigit? c).map (16 * n + ·)) 0

theorem hexDigit?_hexUpper {d : Nat} (h : d < 16) : hexDigit? (hexUpper d) = some d := by
  have : ∀ e : Fin 16, hexDigit? (hexUpper e) = some e.val := by decide
  exact this ⟨d, h⟩

end SigningConsole.Text
