import SigningConsole.Json.Decode
/-!
Decoding what was encoded.

Objects are lists of members, and so are maps. A look-up in a list whose names are all different
does not depend on the order of its entries. A record is read back from an object whose members it
takes (`Record.Takes`): each has the name of a field and a value that the field's check passes, and
no two have the same name. What is found is then what the members say (`Record.read_obj`). Members
that a value may lack are `optional`.

Main statements: `StringMap.get?_ofList`, `Json.toTextMap_ofTextMap`, `Json.Record.read_obj`.
-/

namespace SigningConsole

/-! ## Look-ups -/

section Lookup

variable {α : Type} {es : List (String × α)} {k : String}

theorem lookup_cons_eq (k k' : String) (v : α) (es : List (String × α)) :
    List.lookup k ((k', v) :: es) = if k = k' then some v else es.lookup k := by
  rw [List.lookup_cons]
  by_cases h : k = k'
  · rw [beq_iff_eq.2 h, if_pos h]
  · rw [beq_eq_false_iff_ne.2 h, if_neg h]

theorem lookup_eq_none (h : k ∉ es.map (·.1)) : es.lookup k = none := by
  rw [List.lookup_eq_none_iff]
  intro e he
  have hne : k ≠ e.1 := by
    rintro rfl
    exact h (List.mem_map_of_mem he)
  simpa using hne

/-- Where no name occurs twice, the order of entries does not matter to a look-up. -/
theorem lookup_reverse (hn : (es.map (·.1)).Nodup) (k : String) :
    es.reverse.lookup k = es.lookup k := by
  induction es with
  | nil => rfl
  | cons e es ih =>
    rw [List.map_cons, List.nodup_cons] at hn
    obtain ⟨k', v⟩ := e
    rw [List.reverse_cons, List.lookup_append, ih hn.2, lookup_cons_eq, lookup_cons_eq]
    by_cases hk : k = k'
    · subst hk
      rw [lookup_eq_none hn.1]
      simp
    · simp [hk]

theorem mem_of_lookup {v : α} (h : es.lookup k = some v) : (k, v) ∈ es := by
  obtain ⟨before, after, rfl, -⟩ := List.lookup_eq_some_iff.1 h
  exact List.mem_append_right _ List.mem_cons_self

theorem lookup_of_mem (hn : (es.map (·.1)).Nodup) {v : α} (h : (k, v) ∈ es) :
    es.lookup k = some v := by
  induction es with
  | nil => cases h
  | cons e es ih =>
    obtain ⟨k', w⟩ := e
    rw [List.map_cons, List.nodup_cons] at hn
    rw [lookup_cons_eq]
    obtain heq | hm := List.mem_cons.1 h
    · cases heq
      rw [if_pos rfl]
    · have hne : k ≠ k' := by
        rintro rfl
        exact hn.1 (List.mem_map.2 ⟨_, hm, rfl⟩)
      rw [if_neg hne]
      exact ih hn.2 hm

end Lookup

/-! ## Maps -/

namespace StringMap

variable {α : Type}

theorem lookup_eq (k : String) (es : List (String × α)) : lookup k es = es.lookup k := by
  induction es with
  | nil => rfl
  | cons e es ih =>
    obtain ⟨k', v⟩ := e
    rw [lookup, lookup_cons_eq, ih]

/-- Of entries with one name the map has the last. -/
theorem get?_ofList (es : List (String × α)) (k : String) :
    (ofList es).get? k = es.reverse.lookup k := by
  have hfold : ∀ m : StringMap α,
      (es.foldl (fun m e => m.insert e.1 e.2) m).get? k = (es.reverse.lookup k).or (m.get? k) := by
    induction es with
    | nil => exact fun m => rfl
    | cons e es ih =>
      intro m
      obtain ⟨k', v⟩ := e
      rw [List.foldl_cons, ih, get?_insert, List.reverse_cons, List.lookup_append, lookup_cons_eq]
      by_cases hk : k = k'
      · simp [hk]
      · simp [hk]
  rw [ofList, hfold, show (empty : StringMap α).get? k = none from rfl, Option.or_none]

theorem nodup_keys (m : StringMap α) : (m.entries.map (·.1)).Nodup := by
  refine List.pairwise_map.2 (m.sorted.imp ?_)
  rintro a b hlt heq
  exact String.lt_irrefl _ (heq ▸ hlt)

/-- Entering the entries of a map one after the other gives the map. -/
theorem ofList_entries (m : StringMap α) : ofList m.entries = m := by
  refine ext_get? fun k => ?_
  rw [get?_ofList, lookup_reverse m.nodup_keys, ← lookup_eq]
  rfl

end StringMap

namespace Json

/-! ## Plain values -/

theorem toInt32_ofInt32 (n : Int32) : toInt32 (ofInt32 n) = .ok n := by
  have hbounds : Int32.minValue.toInt ≤ n.toInt ∧ n.toInt ≤ Int32.maxValue.toInt :=
    ⟨n.minValue_le_toInt, n.toInt_le⟩
  unfold toInt32 ofInt32
  dsimp only
  rw [if_pos hbounds, Int32.ofInt_toInt]

theorem addTexts_map (m : StringMap String) (es : List (String × String)) :
    addTexts m (es.map fun (k, v) => (k, str v)) =
      .ok (es.foldl (fun m e => m.insert e.1 e.2) m) := by
  induction es generalizing m with
  | nil => rfl
  | cons e es ih => exact ih (m.insert e.1 e.2)

/-- A map of texts is read back from its object. -/
theorem toTextMap_ofTextMap (m : StringMap String) : toTextMap (ofTextMap m) = .ok m := by
  unfold toTextMap ofTextMap
  dsimp only
  rw [addTexts_map]
  exact congrArg Except.ok m.ofList_entries

/-! ## Members -/

/-- The members for a value that may be lacking. -/
def optional (key : String) (v : Option Json) : List (String × Json) :=
  (v.map fun v => (key, v)).toList

theorem mem_optional {key : String} {v : Option Json} {m : String × Json} :
    m ∈ optional key v ↔ ∃ w, v = some w ∧ m = (key, w) := by
  cases v with
  | none => simp [optional]
  | some w => simp [optional]

theorem lookup_optional (key key' : String) (v : Option Json) :
    (optional key v).lookup key' = if key' = key then v else none := by
  cases v with
  | none => simp [optional]
  | some w => exact lookup_cons_eq key' key w []

theorem keys_optional (key : String) (v : Option Json) :
    ((optional key v).map (·.1)).Sublist [key] := by
  cases v with
  | none => exact List.nil_sublist _
  | some w => exact List.Sublist.refl _

/-! ## Records -/

/-- The record takes a member: the key is a field's name, and the value passes its check. -/
def Record.Takes (r : Record) (m : String × Json) : Prop :=
  ∃ f, r.field? m.1 = some f ∧ f.name = m.1 ∧ f.check m.2 = .ok ()

namespace Record

variable {r : Record} {ms : List (String × Json)}

/-- What a record takes is found. -/
theorem visit_takes {found : Found} (h : ∀ m ∈ ms, r.Takes m) (hn : (ms.map (·.1)).Nodup)
    (hf : ∀ m ∈ ms, found.lookup m.1 = none) : r.visit found ms = .ok (ms.reverse ++ found) := by
  induction ms generalizing found with
  | nil => rfl
  | cons m ms ih =>
    rw [List.map_cons, List.nodup_cons] at hn
    obtain ⟨k, v⟩ := m
    obtain ⟨f, hfield, hname, hcheck⟩ := h (k, v) List.mem_cons_self
    have hname : f.name = k := hname
    have hnew : found.lookup k = none := hf (k, v) List.mem_cons_self
    have hothers : ∀ m ∈ ms, List.lookup m.1 ((k, v) :: found) = none := by
      intro m hm
      have hne : ¬ m.1 = k := fun heq => hn.1 (List.mem_map.2 ⟨m, hm, heq⟩)
      rw [lookup_cons_eq, if_neg hne]
      exact hf m (List.mem_cons_of_mem _ hm)
    have hvisit := ih (fun m hm => h m (List.mem_cons_of_mem _ hm)) hn.2 hothers
    have hcheck : f.check v = .ok () := hcheck
    rw [visit, hfield]
    dsimp only
    rw [hname, hnew, if_neg (by decide), hcheck]
    show r.visit ((k, v) :: found) ms = _
    rw [hvisit, List.reverse_cons, List.append_assoc]
    rfl

theorem demand_found {found : Found} {fs : List Field}
    (h : ∀ f ∈ fs, f.presence = .required → (found.lookup f.name).isSome) :
    demand found fs = .ok () := by
  induction fs with
  | nil => rfl
  | cons f fs ih =>
    have hfirst : ¬ (f.presence = .required ∧ (found.lookup f.name).isNone) := by
      rintro ⟨hr, hnone⟩
      have hsome := h f List.mem_cons_self hr
      rw [Option.isNone_iff_eq_none.1 hnone] at hsome
      cases hsome
    rw [demand, if_neg hfirst]
    exact ih fun f hf => h f (List.mem_cons_of_mem _ hf)

/-- A record is read from members that it takes, if they are all it demands. -/
theorem read_obj (h : ∀ m ∈ ms, r.Takes m) (hn : (ms.map (·.1)).Nodup)
    (hr : ∀ f ∈ r.fields, f.presence = .required → (ms.lookup f.name).isSome) :
    r.read (obj ms) = .ok ms.reverse := by
  have hvisit : r.visit [] ms = .ok ms.reverse := by
    rw [visit_takes h hn fun m hm => rfl, List.append_nil]
  have hdemand : demand ms.reverse r.fields = .ok () := by
    refine demand_found fun f hf hp => ?_
    rw [lookup_reverse hn]
    exact hr f hf hp
  unfold read
  dsimp only
  rw [hvisit]
  show (demand ms.reverse r.fields >>= _) = _
  rw [hdemand]
  rfl

end Record

end Json

end SigningConsole
