/-!
Finite maps from strings, kept as entries in increasing order of key, so that equal maps
have equal entries.

`get?_insert` and `get?_erase` say what the two writing operations do to a look-up, and `ext_get?`
that the look-ups determine the map.
-/

namespace SigningConsole

/-- A finite map from strings; the order of keys is that of their code points, which is
that of their bytes. -/
structure StringMap (α : Type) where
  entries : List (String × α)
  sorted : entries.Pairwise fun a b => a.1 < b.1

namespace StringMap

variable {α : Type}

/-! ## Entries -/

/-- The value at a key in a list of entries, the first one winning. -/
def lookup (k : String) : List (String × α) → Option α
  | [] => none
  | (k', v) :: es => if k = k' then some v else lookup k es

/-- Puts a value at a key of sorted entries. -/
def insertEntry (k : String) (v : α) : List (String × α) → List (String × α)
  | [] => [(k, v)]
  | (k', v') :: es =>
    if k < k' then (k, v) :: (k', v') :: es
    else if k = k' then (k, v) :: es
    else (k', v') :: insertEntry k v es

/-- Takes a key out of a list of entries. -/
def eraseEntry (k : String) (es : List (String × α)) : List (String × α) := es.filter (·.1 ≠ k)

theorem mem_insertEntry {k : String} {v : α} {es : List (String × α)} {e : String × α}
    (h : e ∈ insertEntry k v es) : e = (k, v) ∨ e ∈ es := by
  induction es with
  | nil => simpa [insertEntry] using h
  | cons e' es ih =>
    rw [insertEntry] at h
    split at h
    · simpa using h
    · split at h
      · simp only [List.mem_cons] at h ⊢
        exact h.imp_right Or.inr
      · simp only [List.mem_cons] at h ⊢
        rcases h with h | h
        · exact Or.inr (Or.inl h)
        · exact (ih h).imp_right Or.inr

theorem sorted_insertEntry {k : String} {v : α} {es : List (String × α)}
    (h : es.Pairwise fun a b => a.1 < b.1) :
    (insertEntry k v es).Pairwise fun a b => a.1 < b.1 := by
  induction es with
  | nil => simp [insertEntry]
  | cons e es ih =>
    obtain ⟨k', v'⟩ := e
    rw [List.pairwise_cons] at h
    rw [insertEntry]
    split
    · next hlt =>
      refine List.pairwise_cons.2 ⟨fun e he => ?_, List.pairwise_cons.2 h⟩
      rcases List.mem_cons.1 he with he | he
      · subst he; exact hlt
      · exact String.lt_trans hlt (h.1 e he)
    · split
      · next heq => subst heq; exact List.pairwise_cons.2 h
      · next hlt hne =>
        refine List.pairwise_cons.2 ⟨fun e he => ?_, ih h.2⟩
        rcases mem_insertEntry he with he | he
        · subst he; show k' < k; grind
        · exact h.1 e he

theorem lookup_insertEntry (k k' : String) (v : α) (es : List (String × α)) :
    lookup k (insertEntry k' v es) = if k = k' then some v else lookup k es := by
  induction es with
  | nil => simp [insertEntry, lookup]
  | cons e es ih =>
    obtain ⟨j, w⟩ := e
    rw [insertEntry]
    split
    · simp [lookup]
    · split
      · next heq => subst heq; by_cases h : k = k' <;> simp [lookup, h]
      · simp only [lookup, ih]; grind

theorem lookup_eraseEntry (k k' : String) (es : List (String × α)) :
    lookup k (eraseEntry k' es) = if k = k' then none else lookup k es := by
  induction es with
  | nil => simp [eraseEntry, lookup]
  | cons e es ih =>
    obtain ⟨j, w⟩ := e
    simp only [eraseEntry] at ih
    simp only [eraseEntry, List.filter_cons, lookup]
    split <;> simp only [lookup, ih] <;> grind

theorem lookup_eq_none_of_lt {k : String} {es : List (String × α)} (h : ∀ e ∈ es, k < e.1) :
    lookup k es = none := by
  induction es with
  | nil => rfl
  | cons e es ih =>
    obtain ⟨j, w⟩ := e
    have hj : k < j := h (j, w) List.mem_cons_self
    rw [lookup, if_neg (by intro e; subst e; exact String.lt_irrefl _ hj)]
    exact ih fun e he => h e (List.mem_cons_of_mem _ he)

theorem eq_of_lookup_eq {es fs : List (String × α)} (he : es.Pairwise fun a b => a.1 < b.1)
    (hf : fs.Pairwise fun a b => a.1 < b.1) (h : ∀ k, lookup k es = lookup k fs) : es = fs := by
  induction es generalizing fs with
  | nil =>
    cases fs with
    | nil => rfl
    | cons f fs => have := h f.1; simp [lookup] at this
  | cons e es ih =>
    cases fs with
    | nil => have := h e.1; simp [lookup] at this
    | cons f fs =>
      obtain ⟨j, v⟩ := e
      obtain ⟨k, w⟩ := f
      rw [List.pairwise_cons] at he hf
      have hjk : j = k := by
        -- the smaller head would be missing in the other list
        have h₁ : ¬j < k := fun hlt => by
          have := h j
          rw [lookup, if_pos rfl, lookup,
            if_neg (by intro e; subst e; exact String.lt_irrefl _ hlt), lookup_eq_none_of_lt
              fun e he' => String.lt_trans hlt (hf.1 e he')] at this
          simp at this
        have h₂ : ¬k < j := fun hlt => by
          have := h k
          rw [lookup, if_neg (by intro e; subst e; exact String.lt_irrefl _ hlt),
            lookup_eq_none_of_lt fun e he' => String.lt_trans hlt (he.1 e he'), lookup,
              if_pos rfl] at this
          simp at this
        grind
      subst hjk
      have hv : v = w := by have := h j; simpa [lookup] using this
      subst hv
      congr 1
      refine ih he.2 hf.2 fun k => ?_
      by_cases hk : k = j
      · subst hk
        rw [lookup_eq_none_of_lt he.1, lookup_eq_none_of_lt hf.1]
      · have := h k
        simpa [lookup, hk] using this

/-! ## Maps -/

/-- The map without entries. -/
def empty : StringMap α := ⟨[], List.Pairwise.nil⟩

instance : EmptyCollection (StringMap α) := ⟨empty⟩

instance : Inhabited (StringMap α) := ⟨empty⟩

/-- Puts a value at a key, in place of the one that stands there. -/
def insert (m : StringMap α) (k : String) (v : α) : StringMap α :=
  ⟨insertEntry k v m.entries, sorted_insertEntry m.sorted⟩

/-- Takes a key out. -/
def erase (m : StringMap α) (k : String) : StringMap α :=
  ⟨eraseEntry k m.entries, m.sorted.filter _⟩

/-- The value at a key. -/
def get? (m : StringMap α) (k : String) : Option α := lookup k m.entries

/-- Whether the map has no entry. -/
def isEmpty (m : StringMap α) : Bool := m.entries.isEmpty

/-- The map of a list of pairs; of several values at one key the last one counts. -/
def ofList (es : List (String × α)) : StringMap α := es.foldl (fun m e => m.insert e.1 e.2) empty

@[simp] theorem get?_empty (k : String) : (∅ : StringMap α).get? k = none := rfl

@[simp] theorem get?_insert (m : StringMap α) (k k' : String) (v : α) :
    (m.insert k' v).get? k = if k = k' then some v else m.get? k :=
  lookup_insertEntry k k' v m.entries

@[simp] theorem get?_erase (m : StringMap α) (k k' : String) :
    (m.erase k').get? k = if k = k' then none else m.get? k :=
  lookup_eraseEntry k k' m.entries

theorem ext_entries {m n : StringMap α} (h : m.entries = n.entries) : m = n := by
  cases m; cases n; simp_all

theorem ext_get? {m n : StringMap α} (h : ∀ k, m.get? k = n.get? k) : m = n :=
  ext_entries (eq_of_lookup_eq m.sorted n.sorted h)

theorem insert_of_get? {m : StringMap α} {k : String} {v : α} (h : m.get? k = some v) :
    m.insert k v = m := by
  refine ext_get? fun k' => ?_
  rw [get?_insert]
  split
  · next heq => rw [heq, h]
  · rfl

theorem erase_of_get?_eq_none {m : StringMap α} {k : String} (h : m.get? k = none) :
    m.erase k = m := by
  refine ext_get? fun k' => ?_
  rw [get?_erase]
  split
  · next heq => rw [heq, h]
  · rfl

/-- Putting in a value makes a difference unless it is there. -/
theorem insert_eq_iff {m : StringMap α} {k : String} {v : α} :
    m.insert k v = m ↔ m.get? k = some v := by
  refine ⟨fun h => ?_, insert_of_get?⟩
  rw [← h, get?_insert, if_pos rfl]

/-- Taking out a key makes a difference unless nothing is there. -/
theorem erase_eq_iff {m : StringMap α} {k : String} : m.erase k = m ↔ m.get? k = none := by
  refine ⟨fun h => ?_, erase_of_get?_eq_none⟩
  rw [← h, get?_erase, if_pos rfl]

instance [DecidableEq α] : DecidableEq (StringMap α) := fun m n =>
  if h : m.entries = n.entries then isTrue (ext_entries h) else isFalse fun e => h (e ▸ rfl)

end StringMap

end SigningConsole
