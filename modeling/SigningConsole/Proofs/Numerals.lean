import SigningConsole.Text.Blank
import SigningConsole.Text.Decimal
/-!
Decimal numerals as readers find them: nothing but digits, no leading zero, and the
number that they make.

`extend n cs` is the number that the digits `cs` make of `n`, one digit after the other. It is what
every reader of numbers computes, each with its own bounds, and it brings back the number whose
digits are written, with or without zeros in front.
-/

namespace SigningConsole.Text

/-! ## Digits -/

theorem digitChar_spec {d : Nat} (h : d < 10) :
    (digitChar d).isDigit = true ∧ (digitChar d).toNat = 48 + d := by
  have hall : ∀ d : Fin 10, (digitChar d).isDigit = true ∧ (digitChar d).toNat = 48 + d := by decide
  exact hall ⟨d, h⟩

theorem isDigit_iff {c : Char} : c.isDigit = true ↔ 48 ≤ c.toNat ∧ c.toNat ≤ 57 := by
  simp only [Char.isDigit, Bool.and_eq_true, decide_eq_true_eq, ge_iff_le, UInt32.le_iff_toNat_le]
  rfl

/-- The text does not go on with a digit. -/
def NoDigit (cs : List Char) : Prop := ∀ c ∈ cs.head?, c.isDigit = false

theorem noDigit_cons {c : Char} {cs : List Char} : NoDigit (c :: cs) ↔ c.isDigit = false := by
  simp [NoDigit]

/-! ## The number of digits -/

/-- The number that digits make of one that is there already. -/
def extend (n : Nat) (cs : List Char) : Nat := cs.foldl (fun n c => 10 * n + (c.toNat - 48)) n

theorem extend_cons (n : Nat) (c : Char) (cs : List Char) :
    extend n (c :: cs) = extend (10 * n + (c.toNat - 48)) cs := by
  unfold extend
  rw [List.foldl_cons]

theorem extend_append (n : Nat) (cs ds : List Char) :
    extend n (cs ++ ds) = extend (extend n cs) ds :=
  List.foldl_append

theorem le_extend (n : Nat) (cs : List Char) : n ≤ extend n cs := by
  induction cs generalizing n with
  | nil => exact Nat.le_refl n
  | cons c cs ih =>
    have h := ih (10 * n + (c.toNat - 48))
    rw [extend_cons]
    omega

/-- Each digit makes the number ten times as great and adds less than ten. -/
theorem extend_lt {ds : List Char} (hd : ∀ c ∈ ds, c.isDigit = true) (n : Nat) :
    extend n ds < (n + 1) * Nat.pow 10 ds.length := by
  induction ds generalizing n with
  | nil =>
    show n < (n + 1) * 1
    omega
  | cons c ds ih =>
    have hc := isDigit_iff.1 (hd c List.mem_cons_self)
    have hlt := ih (fun d hd' => hd d (List.mem_cons_of_mem _ hd')) (10 * n + (c.toNat - 48))
    have hle : (10 * n + (c.toNat - 48) + 1) * Nat.pow 10 ds.length ≤
        (n + 1) * 10 * Nat.pow 10 ds.length :=
      Nat.mul_le_mul_right _ (by omega)
    have hpow : (n + 1) * 10 * Nat.pow 10 ds.length = (n + 1) * Nat.pow 10 (c :: ds).length := by
      show (n + 1) * 10 * Nat.pow 10 ds.length = (n + 1) * (Nat.pow 10 ds.length * 10)
      rw [Nat.mul_assoc, Nat.mul_comm 10]
    rw [extend_cons]
    omega

theorem extend_decimal (n : Nat) : extend 0 (decimal n) = n := by
  induction n using decimal.induct with
  | case1 n h =>
    rw [decimal_of_lt h, extend_cons, (digitChar_spec h).2]
    show 10 * 0 + (48 + n - 48) = n
    omega
  | case2 n h ih =>
    have hlast := (digitChar_spec (Nat.mod_lt n (by decide : 10 > 0))).2
    rw [decimal_of_le (by omega), extend_append, ih, extend_cons, hlast]
    show 10 * (n / 10) + (48 + n % 10 - 48) = n
    omega

theorem isDigit_of_mem_decimal {n : Nat} {c : Char} (hc : c ∈ decimal n) : c.isDigit = true := by
  induction n using decimal.induct with
  | case1 n h =>
    rw [decimal_of_lt h, List.mem_singleton] at hc
    rw [hc]
    exact (digitChar_spec h).1
  | case2 n h ih =>
    rw [decimal_of_le (by omega), List.mem_append, List.mem_singleton] at hc
    obtain hc | rfl := hc
    · exact ih hc
    · exact (digitChar_spec (Nat.mod_lt n (by decide))).1

theorem not_mem_decimal {c : Char} (h : c.isDigit = false) (n : Nat) : c ∉ decimal n :=
  fun hc => Bool.false_ne_true (h.symm.trans (isDigit_of_mem_decimal hc))

/-- An integer is written in digits, with a minus sign or without one. -/
theorem mem_decimalInt {n : Int} {c : Char} (hc : c ∈ decimalInt n) :
    c = '-' ∨ c.isDigit = true := by
  unfold decimalInt at hc
  split at hc
  · exact (List.mem_cons.1 hc).imp_right isDigit_of_mem_decimal
  · exact .inr (isDigit_of_mem_decimal hc)

/-- A number that is not zero is written without leading zeros. -/
theorem head?_decimal {n : Nat} (h : 0 < n) : (decimal n).head? ≠ some '0' := by
  induction n using decimal.induct with
  | case1 n hn =>
    rw [decimal_of_lt hn]
    have hall : ∀ d : Fin 10, 0 < d.val → ¬ [digitChar d.val].head? = some '0' := by decide
    exact hall ⟨n, hn⟩ h
  | case2 n hn ih =>
    rw [decimal_of_le (by omega), List.head?_append, List.head?_eq_some_head
      (decimal_ne_nil (n / 10))]
    rw [List.head?_eq_some_head (decimal_ne_nil (n / 10))] at ih
    exact ih (by omega)

theorem length_decimal_le {n k : Nat} (hk : 0 < k) (h : n < Nat.pow 10 k) :
    (decimal n).length ≤ k := by
  induction k generalizing n with
  | zero => cases hk
  | succ k ih =>
    by_cases hn : n < 10
    · rw [decimal_of_lt hn]
      exact hk
    · have hk' : 0 < k := by
        refine Nat.pos_of_ne_zero fun h₀ => ?_
        subst h₀
        exact hn h
      have hpow : n < Nat.pow 10 k * 10 := h
      have := ih hk' (n := n / 10) (by omega)
      rw [decimal_of_le (by omega), List.length_append, List.length_singleton]
      omega

theorem natText_injective {m n : Nat} (h : natText m = natText n) : m = n := by
  have hdigits : decimal m = decimal n := String.ofList_inj.1 h
  rw [← extend_decimal m, hdigits, extend_decimal]

/-! ## Zeros in front -/

theorem isDigit_of_mem_zeroPad {w n : Nat} {c : Char} (hc : c ∈ zeroPad w (decimal n)) :
    c.isDigit = true := by
  unfold zeroPad at hc
  obtain hc | hc := List.mem_append.1 hc
  · rw [(List.mem_replicate.1 hc).2]
    rfl
  · exact isDigit_of_mem_decimal hc

theorem extend_zeroPad (w n : Nat) : extend 0 (zeroPad w (decimal n)) = n := by
  unfold zeroPad
  generalize w - (decimal n).length = k
  induction k with
  | zero => exact extend_decimal n
  | succ k ih =>
    rw [List.replicate_succ, List.cons_append, extend_cons]
    exact ih

theorem length_zeroPad {w : Nat} {cs : List Char} (h : cs.length ≤ w) :
    (zeroPad w cs).length = w := by
  unfold zeroPad
  rw [List.length_append, List.length_replicate]
  omega

theorem le_length_zeroPad (w : Nat) (cs : List Char) : w ≤ (zeroPad w cs).length := by
  unfold zeroPad
  rw [List.length_append, List.length_replicate]
  omega

end SigningConsole.Text
