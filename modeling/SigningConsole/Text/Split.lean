/-!
Cutting a text at a separator, and joining pieces again.
-/

namespace SigningConsole.Text

/-- The pieces between the separators, in order; a text without separators is one piece. -/
def splitAll (sep : Char) : List Char → List (List Char)
  | [] => [[]]
  | c :: cs =>
    if c = sep then [] :: splitAll sep cs
    else
      match splitAll sep cs with
      | [] => [[c]]
      | piece :: pieces => (c :: piece) :: pieces

theorem splitAll_ne_nil (sep : Char) (cs : List Char) : splitAll sep cs ≠ [] := by
  cases cs with
  | nil => simp [splitAll]
  | cons c cs =>
    rw [splitAll]
    split
    · simp
    · split <;> simp

/-- What stands before and after the first separator, if there is one. -/
def splitFirst? (sep : Char) : List Char → Option (List Char × List Char)
  | [] => none
  | c :: cs =>
    if c = sep then some ([], cs)
    else (splitFirst? sep cs).map fun (before, after) => (c :: before, after)

/-- The pieces with the separator between each two of them. -/
def joinAll (sep : List Char) : List (List Char) → List Char
  | [] => []
  | [piece] => piece
  | piece :: pieces => piece ++ sep ++ joinAll sep pieces

/-- Whether a text occurs inside another. -/
def occursIn (part : List Char) : List Char → Bool
  | [] => part.isEmpty
  | c :: cs => part.isPrefixOf (c :: cs) || occursIn part cs

theorem splitFirst?_eq_none {sep : Char} {cs : List Char} :
    splitFirst? sep cs = none ↔ sep ∉ cs := by
  induction cs with
  | nil => simp [splitFirst?]
  | cons c cs ih =>
    by_cases h : c = sep
    · simp [splitFirst?, h]
    · have h' : ¬sep = c := fun e => h e.symm
      simp [splitFirst?, h, h', ih]

/-! ## Where a text is cut -/

/-- A text is cut at the first separator, whatever stands behind it. -/
theorem splitFirst?_append {sep : Char} {before : List Char} (h : sep ∉ before)
    (after : List Char) :
    splitFirst? sep (before ++ sep :: after) = some (before, after) := by
  induction before with
  | nil => simp [splitFirst?]
  | cons c cs ih =>
    obtain ⟨hc, hcs⟩ := not_or.1 (mt List.mem_cons.2 h)
    rw [List.cons_append, splitFirst?, if_neg (Ne.symm hc), ih hcs]
    rfl

theorem not_mem_of_splitFirst? {sep : Char} {cs before after : List Char}
    (h : splitFirst? sep cs = some (before, after)) :
    sep ∉ before ∧ cs = before ++ sep :: after := by
  induction cs generalizing before with
  | nil => cases h
  | cons c cs ih =>
    rw [splitFirst?] at h
    split at h
    · rename_i hc
      cases h
      exact ⟨List.not_mem_nil, by rw [hc]; rfl⟩
    · rename_i hc
      obtain ⟨⟨b, a⟩, hb, heq⟩ := Option.map_eq_some_iff.1 h
      cases heq
      obtain ⟨hnot, rfl⟩ := ih hb
      exact ⟨by simpa [Ne.symm hc] using hnot, rfl⟩

theorem splitAll_of_not_mem {sep : Char} {cs : List Char} (h : sep ∉ cs) :
    splitAll sep cs = [cs] := by
  induction cs with
  | nil => rfl
  | cons c cs ih =>
    have hc : ¬c = sep := fun hc => h (hc ▸ List.mem_cons_self)
    rw [splitAll, if_neg hc, ih fun hm => h (List.mem_cons_of_mem _ hm)]

theorem splitAll_append {sep : Char} {piece : List Char} (h : sep ∉ piece) (rest : List Char) :
    splitAll sep (piece ++ sep :: rest) = piece :: splitAll sep rest := by
  induction piece with
  | nil => simp [splitAll]
  | cons c cs ih =>
    obtain ⟨hc, hcs⟩ := not_or.1 (mt List.mem_cons.2 h)
    rw [List.cons_append, splitAll, if_neg (Ne.symm hc), ih hcs]

/-- Where a separator stands, the pieces before it end and those behind it begin. -/
theorem splitAll_append_sep (sep : Char) (before after : List Char) :
    splitAll sep (before ++ sep :: after) = splitAll sep before ++ splitAll sep after := by
  induction before with
  | nil => simp [splitAll]
  | cons c cs ih =>
    obtain ⟨piece, pieces, hcut⟩ := List.exists_cons_of_ne_nil (splitAll_ne_nil sep cs)
    rw [List.cons_append, splitAll, splitAll, ih, hcut]
    by_cases hc : c = sep <;> simp [hc]

theorem not_mem_of_mem_splitAll {sep : Char} {cs piece : List Char} (h : piece ∈ splitAll sep cs) :
    sep ∉ piece := by
  induction cs generalizing piece with
  | nil =>
    rw [List.mem_singleton.1 h]
    exact List.not_mem_nil
  | cons c cs ih =>
    rw [splitAll] at h
    split at h
    · obtain rfl | h := List.mem_cons.1 h
      · exact List.not_mem_nil
      · exact ih h
    · rename_i hc
      obtain ⟨first, rest, hsplit⟩ := List.exists_cons_of_ne_nil (splitAll_ne_nil sep cs)
      rw [hsplit] at h ih
      obtain rfl | h := List.mem_cons.1 h
      · simpa [Ne.symm hc] using ih List.mem_cons_self
      · exact ih (List.mem_cons_of_mem _ h)

theorem mem_of_mem_splitAll {sep c : Char} {cs piece : List Char} (h : piece ∈ splitAll sep cs)
    (hc : c ∈ piece) :
    c ∈ cs := by
  induction cs generalizing piece with
  | nil =>
    rw [List.mem_singleton.1 h] at hc
    cases hc
  | cons d cs ih =>
    rw [splitAll] at h
    split at h
    · obtain rfl | h := List.mem_cons.1 h
      · cases hc
      · exact List.mem_cons_of_mem d (ih h hc)
    · obtain ⟨first, rest, hsplit⟩ := List.exists_cons_of_ne_nil (splitAll_ne_nil sep cs)
      rw [hsplit] at h ih
      obtain rfl | h := List.mem_cons.1 h
      · obtain rfl | hc := List.mem_cons.1 hc
        · exact List.mem_cons_self
        · exact List.mem_cons_of_mem d (ih List.mem_cons_self hc)
      · exact List.mem_cons_of_mem d (ih (List.mem_cons_of_mem _ h) hc)

theorem mem_of_mem_joinAll {sep : List Char} {pieces : List (List Char)} {c : Char}
    (h : c ∈ joinAll sep pieces) :
    c ∈ sep ∨ ∃ piece ∈ pieces, c ∈ piece := by
  induction pieces with
  | nil => cases h
  | cons piece pieces ih =>
    cases pieces with
    | nil => exact .inr ⟨piece, List.mem_cons_self, h⟩
    | cons second pieces =>
      obtain h | h := List.mem_append.1 h
      · obtain h | h := List.mem_append.1 h
        · exact .inr ⟨piece, List.mem_cons_self, h⟩
        · exact .inl h
      · obtain h | ⟨p, hp, hc⟩ := ih h
        · exact .inl h
        · exact .inr ⟨p, List.mem_cons_of_mem _ hp, hc⟩

theorem joinAll_eq_intercalate (sep : List Char) (pieces : List (List Char)) :
    joinAll sep pieces = sep.intercalate pieces := by
  induction pieces with
  | nil => rfl
  | cons piece pieces ih =>
    cases pieces with
    | nil => exact (List.intercalate_singleton).symm
    | cons second pieces =>
      rw [List.intercalate_cons_cons, ← ih]
      rfl

/-- Pieces that are joined by the separator, with a text behind it, are cut apart there
and keep that text. -/
theorem splitAll_joinAll {sep : Char} {lead : List Char} (hl : sep ∉ lead) {piece : List Char}
    {pieces : List (List Char)} (h : ∀ p ∈ piece :: pieces, sep ∉ p) :
    splitAll sep (joinAll (sep :: lead) (piece :: pieces)) = piece :: pieces.map (lead ++ ·) := by
  -- the induction is on the pieces that follow, with the text in front of the first one or not
  induction pieces generalizing piece with
  | nil => exact splitAll_of_not_mem (h piece List.mem_cons_self)
  | cons second pieces ih =>
    obtain ⟨hpiece, hrest⟩ := List.forall_mem_cons.1 h
    obtain ⟨hsecond, hpieces⟩ := List.forall_mem_cons.1 hrest
    have hled : sep ∉ lead ++ second := mt List.mem_append.1 (not_or.2 ⟨hl, hsecond⟩)
    have hjoin : joinAll (sep :: lead) (piece :: second :: pieces) =
        piece ++ sep :: joinAll (sep :: lead) ((lead ++ second) :: pieces) := by
      cases pieces <;> simp [joinAll]
    rw [hjoin, splitAll_append hpiece, ih (List.forall_mem_cons.2 ⟨hled, hpieces⟩)]
    rfl

end SigningConsole.Text
