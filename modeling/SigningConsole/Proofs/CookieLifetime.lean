import SigningConsole.Cookie.Jar
import SigningConsole.Proofs.Numerals
/-!
What a `Set-Cookie` text says of its cookie.

The cookie has a value from now on, or it ends: because the value is empty, or because the last
`Max-Age` attribute that is a number is zero or less (`Cookie.setting?`). The number is read as an
integer here, without the bounds that the reader puts on it, and `Cookie.foldl_addLifetime` says
that the reader's lifetime is that number within its bounds.

An attribute counts by its last occurrence, and so does a cookie in a sequence of texts. Both are
cases of one fact: where every step leaves what it writes, or else what was there, the last write of
a run decides (`foldl_last_write`).

Main statements: `foldl_last_write`, `Cookie.foldl_addLifetime`, `Cookie.setting?_eq`.
-/

namespace SigningConsole

open Text

/-- A run in which every step leaves what it writes, or else what was there, leaves its last
write. -/
theorem foldl_last_write {σ α β : Type} {step : σ → α → σ} {write? : α → Option β} (view : σ → β)
    (h : ∀ s a, view (step s a) = (write? a).getD (view s)) (s : σ) (as : List α) :
    view (as.foldl step s) = (as.filterMap write?).getLast?.getD (view s) := by
  induction as generalizing s with
  | nil => rfl
  | cons a as ih =>
    rw [List.foldl_cons, ih, h, List.filterMap_cons]
    cases hw : write? a with
    | none => rfl
    | some b =>
      rw [List.getLast?_cons]
      cases (as.filterMap write?).getLast? <;> rfl

namespace Text

theorem digitValue?_of_isDigit {c : Char} (h : c.isDigit = true) :
    digitValue? c = some (c.toNat - 48) := by
  have hbounds : '0' ≤ c ∧ c ≤ '9' := by
    simpa [Char.isDigit, Char.le_def] using h
  exact if_pos hbounds

/-- Digits make the number that they make of nothing. -/
theorem digitsValue?_digits {ds : List Char} (h : ∀ c ∈ ds, c.isDigit = true) :
    digitsValue? ds = some (extend 0 ds) := by
  have hfold :
      ∀ n, ds.foldlM (fun n c => (digitValue? c).map (10 * n + ·)) n = some (extend n ds) := by
    induction ds with
    | nil => exact fun n => rfl
    | cons d ds ih =>
      intro n
      rw [List.foldlM_cons, digitValue?_of_isDigit (h d List.mem_cons_self), extend_cons]
      exact ih (fun c hc => h c (List.mem_cons_of_mem _ hc)) _
  exact hfold 0

end Text

namespace Cookie

/-! ## Lifetimes -/

/-- The value of the part, if it is an attribute named `Max-Age`. -/
def maxAge? (part : List Char) : Option (List Char) :=
  (splitFirst? '=' part).bind fun cut => if isNamed "max-age" cut.1 then some (trim cut.2) else none

/-- The seconds that the value of a `Max-Age` attribute states: digits with or without a minus sign
before them. Where nothing is stated, it is the greatest lifetime. -/
def seconds? (value : List Char) : Option Int :=
  match value with
  | [] => some maxMaxAge
  | c :: cs =>
    if c = '-' then if cs.all Char.isDigit then some (-(extend 0 cs : Int)) else none
    else if (c :: cs).all Char.isDigit then some (extend 0 (c :: cs) : Int)
    else none

/-- A lifetime within the bounds of the reader. -/
def bounded (seconds : Int) : Nat := min seconds.toNat maxMaxAge

/-- A lifetime is zero when what is stated is zero or less. -/
theorem bounded_eq_zero_iff (n : Int) : bounded n = 0 ↔ n ≤ 0 := by
  unfold bounded maxMaxAge
  omega

/-- The reader knows the number that is stated, within its bounds. -/
theorem lifetime?_eq (value : List Char) : lifetime? value = (seconds? value).map bounded := by
  rcases value with _ | ⟨c, cs⟩
  · rfl
  · by_cases hc : c = '-'
    · subst hc
      have hzero : bounded (-(extend 0 cs : Int)) = 0 := (bounded_eq_zero_iff _).2 (by omega)
      by_cases hdigits : cs.all Char.isDigit = true
      · simp [lifetime?, seconds?, hdigits, hzero]
      · simp [lifetime?, seconds?, hdigits]
    · by_cases hdigits : (c :: cs).all Char.isDigit = true
      · have hnumber : readDigits? (c :: cs) = some (extend 0 (c :: cs)) :=
          digitsValue?_digits (List.all_eq_true.1 hdigits)
        simp [lifetime?, seconds?, hc, hdigits, hnumber, bounded]
      · simp [lifetime?, seconds?, hc, hdigits]

/-- The seconds that the last of the parts states which is a `Max-Age` with a number. -/
def lastAge? (parts : List (List Char)) : Option Int :=
  (parts.filterMap fun part => (maxAge? part).bind seconds?).getLast?

theorem addLifetime_eq (age : Option Nat) (part : List Char) :
    addLifetime age part = (((maxAge? part).bind seconds?).map bounded).or age := by
  unfold addLifetime maxAge?
  rcases splitFirst? '=' part with _ | ⟨name, value⟩
  · rfl
  · dsimp only
    rw [lifetime?_eq]
    by_cases hnamed : isNamed "max-age" name = true
    · simp only [Option.bind_some, hnamed, if_true]
      rcases seconds? (trim value) with _ | n <;> rfl
    · simp [hnamed]

/-- The lifetime that is read is that of the last attribute that states one. -/
theorem foldl_addLifetime (parts : List (List Char)) :
    parts.foldl addLifetime none = (lastAge? parts).map bounded := by
  have hstep : ∀ (age : Option Nat) (part : List Char), addLifetime age part =
      (((maxAge? part).bind seconds?).map fun n => some (bounded n)).getD age := by
    intro age part
    rw [addLifetime_eq]
    rcases (maxAge? part).bind seconds? with _ | n <;> rfl
  have hlast := foldl_last_write id hstep none parts
  have hwrites :
      (parts.filterMap fun part => ((maxAge? part).bind seconds?).map
        fun n => some (bounded n)) = (parts.filterMap fun part => (maxAge? part).bind seconds?).map
          fun n => some (bounded n) := by
    rw [List.map_filterMap]
  rw [hwrites, List.getLast?_map] at hlast
  refine hlast.trans ?_
  unfold lastAge?
  rcases (parts.filterMap fun part => (maxAge? part).bind seconds?).getLast? with _ | n <;> rfl

/-! ## Settings of a cookie -/

/-- The parts of a `Set-Cookie` text behind the pair. -/
def attributes (raw : String) : List (List Char) := (splitAll ';' raw.toList).tail

/-- The cookie of a `Set-Cookie` text, if its first part has something before an equals sign: the
name with its value, or with none if the cookie ends, because the value is blank or the last
lifetime is zero or less. -/
def setting? (raw : String) : Option (String × Option String) :=
  (splitFirst? '=' ((splitAll ';' raw.toList).headD [])).bind fun cut =>
    if cut.1.all isBlank then none
    else some (String.ofList (trim cut.1),
      if cut.2.all isBlank || (lastAge? (attributes raw)).any
        (· ≤ 0) then none else some (String.ofList (trim cut.2)))

/-- The reader finds the cookie, and what it takes for its end is its end. -/
theorem setting?_eq (raw : String) :
    setting? raw = (parse? raw).map
      fun c => (c.1, if c.2.1.isEmpty || c.2.2 == some 0 then none else some c.2.1) := by
  have hblank : ∀ cs, (trim cs).isEmpty = cs.all isBlank := by
    intro cs
    rw [Bool.eq_iff_iff, List.isEmpty_iff, trim_eq_nil_iff]
  have hend : ∀ parts, (parts.foldl addLifetime none == some 0) = (lastAge? parts).any (· ≤ 0) := by
    intro parts
    rw [foldl_addLifetime]
    rcases lastAge? parts with _ | n
    · rfl
    · rw [Bool.eq_iff_iff]
      simp [bounded_eq_zero_iff]
  unfold setting? attributes parse?
  rcases hcut : splitAll ';' raw.toList with _ | ⟨part, parts⟩
  · exact absurd hcut (splitAll_ne_nil _ _)
  · rw [List.headD_cons, List.tail_cons]
    dsimp only
    unfold pair?
    rcases splitFirst? '=' part with _ | ⟨name, value⟩
    · rfl
    · have hvalue : (String.ofList (trim value)).isEmpty = value.all isBlank := by
        rw [← hblank, Bool.eq_iff_iff, String.isEmpty_iff, List.isEmpty_iff, ← String.ofList_nil,
          String.ofList_inj]
      rw [Option.bind_some]
      dsimp only
      rw [hblank]
      by_cases hname : name.all isBlank = true
      · rw [if_pos hname, if_pos hname]
        rfl
      · rw [if_neg hname, if_neg hname, ← hend, ← hvalue]
        rfl

end Cookie

end SigningConsole
