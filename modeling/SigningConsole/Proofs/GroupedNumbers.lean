import SigningConsole.Proofs.Numerals
import SigningConsole.Report.Figures
/-!
Numbers in groups of three digits.

The digits are written from the left, with a comma wherever a multiple of three of them is left to
write (`Report.punctuate`). Nothing but the commas comes between the digits, and at the commas the
text is cut into groups of three behind one that has what is over (`Report.splitAll_punctuate`).

Main statement: `Report.grouped_in_threes`.
-/

namespace SigningConsole.Report

open Text

/-! ## What the commas do -/

variable {cs : List Char}

theorem filter_punctuate (h : ',' ∉ cs) : (punctuate cs).filter (· ≠ ',') = cs := by
  induction cs with
  | nil => rfl
  | cons c cs ih =>
    obtain ⟨hc, hcs⟩ := not_or.1 (mt List.mem_cons.2 h)
    have hkept : decide (c ≠ ',') = true := decide_eq_true (Ne.symm hc)
    rw [punctuate]
    split
    · rw [List.filter_cons, if_pos hkept, List.filter_cons, if_neg (by decide), ih hcs]
    · rw [List.filter_cons, if_pos hkept, ih hcs]

theorem mem_of_mem_punctuate {c : Char} (h : ',' ∉ cs) (hc : c ∈ punctuate cs) (hcomma : c ≠ ',') :
    c ∈ cs := by
  rw [← filter_punctuate h]
  exact List.mem_filter.2 ⟨hc, decide_eq_true hcomma⟩

/-- At its commas the text is cut into groups of three, behind one that has the one, two or
three that are over. -/
theorem splitAll_punctuate (h : ',' ∉ cs) (hne : cs ≠ []) :
    ∃ first rest, splitAll ',' (punctuate cs) = first :: rest ∧
      first.length = (cs.length - 1) % 3 + 1 ∧ ∀ group ∈ rest, group.length = 3 := by
  induction cs with
  | nil => exact absurd rfl hne
  | cons c cs ih =>
    obtain ⟨hc, hcs⟩ := not_or.1 (mt List.mem_cons.2 h)
    by_cases hlast : cs = []
    · subst hlast
      exact ⟨[c], [], splitAll_of_not_mem h, rfl, nofun⟩
    · have hpos := List.length_pos_iff.2 hlast
      obtain ⟨first, rest, hsplit, hfirst, hrest⟩ := ih hcs hlast
      rw [List.length_cons, Nat.add_sub_cancel, punctuate]
      by_cases hmod : cs.length % 3 = 0
      · -- a group is full, so that the one before it begins with this character
        refine ⟨[c], first :: rest, ?_, by rw [hmod]; rfl, List.forall_mem_cons.2 ⟨by omega, hrest⟩⟩
        rw [if_pos ⟨hlast, hmod⟩, ← hsplit]
        exact splitAll_append (mt List.mem_singleton.1 hc) _
      · refine ⟨c :: first, rest, ?_, by rw [List.length_cons]; omega, hrest⟩
        rw [if_neg fun h => hmod h.2, splitAll, if_neg (Ne.symm hc), hsplit]

/-! ## Numbers -/

theorem toList_grouped (n : Nat) : (grouped n).toList = punctuate (decimal n) := by
  rw [grouped, String.toList_ofList]

theorem comma_not_mem_decimal (n : Nat) : ',' ∉ decimal n := not_mem_decimal rfl n

theorem filter_grouped (n : Nat) : (grouped n).toList.filter (· ≠ ',') = (natText n).toList := by
  rw [toList_grouped, filter_punctuate (comma_not_mem_decimal n), natText, String.toList_ofList]

/-- A number of any size, without its commas, is its decimal text. At the commas it is cut into
groups of digits: the first has one, two or three of them, and each that follows has three. So no
two numbers are written alike. -/
theorem grouped_in_threes :
    (∀ n, (grouped n).toList.filter (· ≠ ',') = (natText n).toList ∧
      ∃ first rest, splitAll ',' (grouped n).toList = first :: rest ∧
        (∀ group ∈ first :: rest, ∀ c ∈ group, c.isDigit = true) ∧
        1 ≤ first.length ∧ first.length ≤ 3 ∧ ∀ group ∈ rest, group.length = 3) ∧
      ∀ m n, grouped m = grouped n → m = n := by
  refine ⟨fun n => ⟨filter_grouped n, ?_⟩, fun m n h => ?_⟩
  · have hcommas := comma_not_mem_decimal n
    obtain ⟨first, rest, hsplit, hfirst, hrest⟩ := splitAll_punctuate hcommas (decimal_ne_nil n)
    refine ⟨first, rest, by rw [toList_grouped, hsplit], fun group hgroup c hc => ?_, by
      omega, by omega, hrest⟩
    rw [← hsplit] at hgroup
    have hcomma : c ≠ ',' := fun hcomma => not_mem_of_mem_splitAll hgroup (hcomma ▸ hc)
    exact isDigit_of_mem_decimal
      (mem_of_mem_punctuate hcommas (mem_of_mem_splitAll hgroup hc) hcomma)
  · have htext :
        (natText m).toList = (natText n).toList := by rw [← filter_grouped, h, filter_grouped]
    exact natText_injective (String.toList_injective htext)

example : grouped 18446744073709551615 = "18,446,744,073,709,551,615" := by cbv

end SigningConsole.Report
