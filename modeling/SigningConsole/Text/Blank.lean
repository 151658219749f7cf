/-!
Blanks: the characters of Unicode's `White_Space` property, and removing them from the ends of a
text.
-/

namespace SigningConsole.Text

/-- Whether Unicode counts the character as white space. -/
def isBlank (c : Char) : Bool :=
  let n := c.toNat
  (0x09 ≤ n && n ≤ 0x0D) || n == 0x20 || n == 0x85 || n == 0xA0 || n == 0x1680 ||
    (0x2000 ≤ n && n ≤ 0x200A) || n == 0x2028 || n == 0x2029 || n == 0x202F ||
    n == 0x205F || n == 0x3000

/-- Drops the longest suffix whose members all satisfy `p`. -/
def dropSuffixWhile (p : Char → Bool) (cs : List Char) : List Char :=
  (cs.reverse.dropWhile p).reverse

theorem dropSuffixWhile_nil (p : Char → Bool) : dropSuffixWhile p [] = [] := rfl

/-- The text without leading blanks. -/
def trimStart (cs : List Char) : List Char := cs.dropWhile isBlank

/-- The text without trailing blanks. -/
def trimEnd (cs : List Char) : List Char := dropSuffixWhile isBlank cs

/-- The text without blanks at either end. -/
def trim (cs : List Char) : List Char := trimEnd (trimStart cs)

/-- Whether the text has no character but blanks. -/
def allBlank (s : String) : Bool := s.toList.all isBlank

/-- `trim` on strings. -/
def trimmed (s : String) : String := String.ofList (trim s.toList)

/-! ## Where characters of a class end -/

theorem dropWhile_of_head? {p : Char → Bool} {cs : List Char} (h : ∀ c ∈ cs.head?, p c = false) :
    cs.dropWhile p = cs := by
  cases cs with
  | nil => rfl
  | cons c cs =>
    rw [List.dropWhile_cons, h c rfl]
    rfl

theorem head?_dropWhile {p : Char → Bool} {cs : List Char} :
    ∀ c ∈ (cs.dropWhile p).head?, p c = false := by
  intro c hc
  have h := List.head?_dropWhile_not p cs
  rw [Option.mem_def.1 hc] at h
  exact h

/-- Characters of a class are taken, or dropped, as far as they go. -/
theorem cut_append {p : Char → Bool} {front rest : List Char} (hfront : ∀ c ∈ front, p c = true)
    (hrest : ∀ c ∈ rest.head?, p c = false) :
    (front ++ rest).takeWhile p = front ∧ (front ++ rest).dropWhile p = rest := by
  have htake : rest.takeWhile p = [] := by
    cases rest with
    | nil => rfl
    | cons c rest => exact List.takeWhile_cons_of_neg (Bool.eq_false_iff.1 (hrest c rfl))
  rw [List.takeWhile_append_of_pos hfront, List.dropWhile_append_of_pos hfront, htake,
    List.append_nil, dropWhile_of_head? hrest]
  exact ⟨rfl, rfl⟩

theorem takeWhile_eq_iff {p : Char → Bool} {cs front : List Char} :
    cs.takeWhile p = front ↔
      (∀ c ∈ front, p c = true) ∧ ∃ rest, cs = front ++ rest ∧ ∀ c ∈ rest.head?, p c = false := by
  constructor
  · rintro rfl
    exact ⟨List.all_eq_true.1 List.all_takeWhile, cs.dropWhile p,
      List.takeWhile_append_dropWhile.symm, head?_dropWhile⟩
  · rintro ⟨hfront, rest, rfl, hrest⟩
    exact (cut_append hfront hrest).1

theorem dropSuffixWhile_eq_iff {p : Char → Bool} {cs front : List Char} :
    dropSuffixWhile p cs = front ↔
      (∀ c ∈ front.getLast?, p c = false) ∧ ∃ tail, cs = front ++ tail ∧
        ∀ c ∈ tail, p c = true := by
  unfold dropSuffixWhile
  constructor
  · rintro rfl
    rw [List.getLast?_reverse]
    refine ⟨head?_dropWhile, (cs.reverse.takeWhile p).reverse, ?_, fun c hc => ?_⟩
    · rw [← List.reverse_append, List.takeWhile_append_dropWhile, List.reverse_reverse]
    · exact List.all_eq_true.1 List.all_takeWhile c (List.mem_reverse.1 hc)
  · rintro ⟨hlast, tail, rfl, htail⟩
    rw [List.reverse_append, List.dropWhile_append_of_pos
      fun c hc => htail c (List.mem_reverse.1 hc), dropWhile_of_head? (by rwa [List.head?_reverse]),
        List.reverse_reverse]

/-! ## Trimmed texts -/

/-- No blank stands at either end. -/
structure Trimmed (cs : List Char) : Prop where
  head : ∀ c ∈ cs.head?, isBlank c = false
  last : ∀ c ∈ cs.getLast?, isBlank c = false

theorem Trimmed.trim_eq {cs : List Char} (h : Trimmed cs) : trim cs = cs := by
  unfold trim trimEnd trimStart
  rw [dropWhile_of_head? h.head]
  exact dropSuffixWhile_eq_iff.2 ⟨h.last, [], (List.append_nil cs).symm, nofun⟩

/-- What trimming takes off at the end is blank. -/
theorem trimStart_eq_append (cs : List Char) :
    (∀ c ∈ (trim cs).getLast?, isBlank c = false) ∧
      ∃ tail, trimStart cs = trim cs ++ tail ∧ ∀ c ∈ tail, isBlank c = true :=
  dropSuffixWhile_eq_iff.1 rfl

theorem trimmed_trim (cs : List Char) : Trimmed (trim cs) := by
  obtain ⟨hlast, tail, hstart, -⟩ := trimStart_eq_append cs
  refine ⟨fun c hc => ?_, hlast⟩
  have hhead : c ∈ (trimStart cs).head? := by
    rw [hstart, List.head?_append, Option.mem_def.1 hc]
    rfl
  exact head?_dropWhile c hhead

theorem mem_of_mem_trim {c : Char} {cs : List Char} (h : c ∈ trim cs) : c ∈ cs := by
  obtain ⟨-, tail, hstart, -⟩ := trimStart_eq_append cs
  have hmem : c ∈ trimStart cs := hstart ▸ List.mem_append_left tail h
  exact (List.dropWhile_sublist _).subset hmem

theorem trim_cons_blank {c : Char} (h : isBlank c = true) (cs : List Char) :
    trim (c :: cs) = trim cs := by
  unfold trim trimStart
  rw [List.dropWhile_cons, if_pos h]

/-- Nothing is left of a text just when it is blank. -/
theorem trim_eq_nil_iff {cs : List Char} : trim cs = [] ↔ cs.all isBlank = true := by
  have hstart : trimStart cs = [] ↔ cs.all isBlank = true := by
    unfold trimStart
    induction cs with
    | nil => simp
    | cons c cs ih => by_cases hc : isBlank c <;> simp [hc, ih]
  rw [← hstart]
  constructor
  · intro h
    obtain ⟨-, tail, htail, hblank⟩ := trimStart_eq_append cs
    rw [h, List.nil_append] at htail
    cases tail with
    | nil => exact htail
    | cons c rest =>
      -- what is left at the start does not begin with a blank
      have hc : isBlank c = false :=
        head?_dropWhile c (by rw [show cs.dropWhile isBlank = _ from htail]; rfl)
      exact absurd (hblank c List.mem_cons_self) (Bool.eq_false_iff.1 hc)
  · intro h
    unfold trim trimEnd
    rw [h, dropSuffixWhile_nil]

/-- A text is empty without the blanks around it just when it is blank. -/
theorem isEmpty_trimmed (s : String) : (trimmed s).isEmpty = allBlank s := by
  have hnil : (trimmed s).isEmpty = true ↔ trim s.toList = [] := by
    rw [String.isEmpty_iff, trimmed, ← String.ofList_nil, String.ofList_inj]
  rw [Bool.eq_iff_iff, hnil, trim_eq_nil_iff, allBlank]

end SigningConsole.Text
