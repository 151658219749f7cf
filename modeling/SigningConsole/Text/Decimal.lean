/-!
Decimal numerals: writing naturals and integers, and reading them back within bounds.
-/

namespace SigningConsole.Text

/-- The character of a digit below ten. -/
def digitChar (d : Nat) : Char := Char.ofNat (48 + d)

/-- The value of a decimal digit. -/
def digitValue? (c : Char) : Option Nat :=
  if '0' ≤ c ∧ c ≤ '9' then some (c.toNat - 48) else none

/-- The decimal digits of a natural, most significant first. -/
def decimal (n : Nat) : List Char :=
  if n < 10 then [digitChar n] else decimal (n / 10) ++ [digitChar (n % 10)]

theorem decimal_of_lt {n : Nat} (h : n < 10) : decimal n = [digitChar n] := by
  rw [decimal, if_pos h]

theorem decimal_of_le {n : Nat} (h : 10 ≤ n) :
    decimal n = decimal (n / 10) ++ [digitChar (n % 10)] := by
  rw [decimal, if_neg (by omega)]

theorem decimal_ne_nil (n : Nat) : decimal n ≠ [] := by
  rw [decimal]; split <;> simp

/-- Decimal text of an integer, with a minus sign below zero. -/
def decimalInt (n : Int) : List Char :=
  if n < 0 then '-' :: decimal n.natAbs else decimal n.natAbs

/-- Puts zeros in front until the text has `width` characters. -/
def zeroPad (width : Nat) (cs : List Char) : List Char :=
  List.replicate (width - cs.length) '0' ++ cs

/-- The value of a list of digits, or `none` if some character is no digit. -/
def digitsValue? (cs : List Char) : Option Nat :=
  cs.foldlM (fun n c => (digitValue? c).map (10 * n + ·)) 0

/-- Reads a numeral: at least one character, all of them digits. -/
def readDigits? : List Char → Option Nat
  | [] => none
  | cs => digitsValue? cs

/-- Reads a natural up to `max`, with an optional plus sign. -/
def readNat? (max : Nat) (cs : List Char) : Option Nat :=
  let digits := match cs with | '+' :: ds => ds | ds => ds
  (readDigits? digits).filter (· ≤ max)

/-- Reads an integer from `min` to `max`, with an optional sign. -/
def readInt? (min max : Int) (cs : List Char) : Option Int :=
  let value : Option Int := match cs with
    | '-' :: ds => (readDigits? ds).map fun n => -(n : Int)
    | '+' :: ds => (readDigits? ds).map fun n => (n : Int)
    | ds => (readDigits? ds).map fun n => (n : Int)
  value.filter fun n => min ≤ n ∧ n ≤ max

/-- The greatest value of an unsigned 64-bit number. -/
def maxUInt64 : Nat := UInt64.size - 1

/-- Reads an unsigned 64-bit number. -/
def readUInt64? (cs : List Char) : Option UInt64 := (readNat? maxUInt64 cs).map UInt64.ofNat

/-- Reads a signed 64-bit number. -/
def readInt64? (cs : List Char) : Option Int :=
  readInt? Int64.minValue.toInt Int64.maxValue.toInt cs

/-- Decimal text as a string. -/
def natText (n : Nat) : String := String.ofList (decimal n)

/-- Decimal text of an integer as a string. -/
def intText (n : Int) : String := String.ofList (decimalInt n)

theorem digitValue?_digitChar {d : Nat} (h : d < 10) : digitValue? (digitChar d) = some d := by
  have : d = 0 ∨ d = 1 ∨ d = 2 ∨ d = 3 ∨ d = 4 ∨ d = 5 ∨ d = 6 ∨ d = 7 ∨ d = 8 ∨ d = 9 := by omega
  rcases this with h | h | h | h | h | h | h | h | h | h <;> subst h <;> decide

theorem digitsValue?_append (cs ds : List Char) :
    digitsValue? (cs ++ ds) =
      (digitsValue? cs).bind
        fun n => ds.foldlM (fun n c => (digitValue? c).map (10 * n + ·)) n := by
  simp [digitsValue?, List.foldlM_append]

theorem digitsValue?_decimal (n : Nat) : digitsValue? (decimal n) = some n := by
  induction n using decimal.induct with
  | case1 n h => simp [decimal_of_lt h, digitsValue?, digitValue?_digitChar h]
  | case2 n h ih =>
    rw [decimal_of_le (by omega), digitsValue?_append, ih]
    simp [digitValue?_digitChar (Nat.mod_lt n (by decide))]
    omega

theorem readDigits?_decimal (n : Nat) : readDigits? (decimal n) = some n := by
  have h := digitsValue?_decimal n
  cases hd : decimal n with
  | nil => exact absurd hd (decimal_ne_nil n)
  | cons c cs => rw [hd] at h; simpa [readDigits?] using h

end SigningConsole.Text
