import SigningConsole.Proofs.RecordCodec
import SigningConsole.Report.Records
/-!
The counts of a statistics answer, and the numbers beside its records.

The records of an answer are an array, at any depth below members that may hold them (`RecordsIn`).
A record that has a label and an unsigned count gives an entry (`Counted`); in a flat object each
member that is an unsigned number does (`Numbered`). The flat reading is tried first and takes any
object that has such a member of its own, so that the records of an answer are counted just when
nothing beside them is an unsigned number.

Main statements: `Report.records_counted_iff`, `Report.number_beside_records_counted`.
-/

namespace SigningConsole.Report

variable {α β : Type}

/-! ## The first of several names -/

/-- The name is the first among the names that has the property. -/
def IsFirst (names : List String) (p : String → Prop) (name : String) : Prop :=
  ∃ before after, names = before ++ name :: after ∧ p name ∧ ∀ k ∈ before, ¬ p k

theorem findSome?_eq_some_iff_isFirst {names : List String} {f : String → Option β}
    {p : String → Prop} (hp : ∀ k, p k ↔ ∃ b, f k = some b) {b : β} :
    names.findSome? f = some b ↔ ∃ name, IsFirst names p name ∧ f name = some b := by
  have hnot (k : String) : f k = none ↔ ¬ p k := by
    rw [hp, not_exists]
    exact Option.eq_none_iff_forall_ne_some
  rw [List.findSome?_eq_some_iff]
  constructor
  · rintro ⟨before, name, after, hnames, hb, hbefore⟩
    exact ⟨name,
      ⟨before, after, hnames, (hp name).2 ⟨b, hb⟩, fun k hk => (hnot k).1 (hbefore k hk)⟩, hb⟩
  · rintro ⟨name, ⟨before, after, hnames, -, hbefore⟩, hb⟩
    exact ⟨before, name, after, hnames, hb, fun k hk => (hnot k).2 (hbefore k hk)⟩

/-! ## The records inside an answer -/

/-- The members that may hold records. -/
def listMembers : List String := ["data", "list", "records", "rows"]

/-- The records inside a value: the value itself, or those inside the first of its members
that may hold records. -/
inductive RecordsIn : Json → List Json → Prop where
  | array (items : List Json) : RecordsIn (.arr items) items
  | member {members : List (String × Json)} {name : String} {v : Json} {items : List Json}
    (hname : IsFirst listMembers (fun k => ∃ w, members.lookup k = some w) name)
    (hv : members.lookup name = some v) (h : RecordsIn v items) : RecordsIn (.obj members) items

theorem memberRecords?_eq (name : String) (members : List (String × Json)) :
    memberRecords? name members = (members.lookup name).map records? := by
  induction members with
  | nil => rfl
  | cons m members ih =>
    obtain ⟨k, v⟩ := m
    rw [memberRecords?, lookup_cons_eq, ih]
    by_cases hk : k = name
    · rw [if_pos hk, if_pos hk.symm, Option.map_some]
    · rw [if_neg hk, if_neg (Ne.symm hk)]

theorem records?_obj (members : List (String × Json)) :
    records? (.obj members) = (listMembers.findSome? (List.lookup · members)).bind records? := by
  rw [records?, memberRecords?_eq, memberRecords?_eq, memberRecords?_eq, memberRecords?_eq]
  simp only [listMembers, List.findSome?_cons, List.findSome?_nil]
  cases List.lookup "data" members with
  | some v => rfl
  | none =>
    cases List.lookup "list" members with
    | some v => rfl
    | none =>
      cases List.lookup "records" members with
      | some v => rfl
      | none => cases List.lookup "rows" members <;> rfl

theorem sizeOf_lt_of_lookup {members : List (String × Json)} {name : String} {v : Json}
    (h : members.lookup name = some v) : sizeOf v < sizeOf (Json.obj members) := by
  have hmem := List.sizeOf_lt_of_mem (mem_of_lookup h)
  rw [Prod.mk.sizeOf_spec] at hmem
  rw [Json.obj.sizeOf_spec]
  omega

theorem recordsIn_of_records? {items : List Json} :
    ∀ {v : Json}, records? v = some items → RecordsIn v items
  | .arr items', h => by
    rw [records?] at h
    cases h
    exact .array items
  | .obj members, h => by
    rw [records?_obj, Option.bind_eq_some_iff] at h
    obtain ⟨w, hw, hitems⟩ := h
    obtain ⟨name, hname, hlookup⟩ := (findSome?_eq_some_iff_isFirst fun k => Iff.rfl).1 hw
    exact .member hname hlookup (recordsIn_of_records? hitems)
  | .null, h | .bool _, h | .int _, h | .double _, h | .str _, h => by cases h
termination_by v => sizeOf v
decreasing_by exact sizeOf_lt_of_lookup hlookup

/-! ## Entries -/

/-- The readings of those items that have one, in order. -/
inductive Gathered (reads : α → β → Prop) : List α → List β → Prop where
  | nil : Gathered reads [] []
  | taken {a : α} {b : β} {as : List α} {bs : List β} (h : reads a b) (hs : Gathered reads as bs) :
    Gathered reads (a :: as) (b :: bs)
  | passed {a : α} {as : List α} {bs : List β} (h : ∀ b, ¬ reads a b) (hs : Gathered reads as bs) :
    Gathered reads (a :: as) bs

theorem gathered_iff {reads : α → β → Prop} {f : α → Option β}
    (hf : ∀ a b, f a = some b ↔ reads a b) {as : List α} {bs : List β} :
    Gathered reads as bs ↔ as.filterMap f = bs := by
  constructor
  · intro h
    induction h with
    | nil => rfl
    | taken h _ ih => rw [List.filterMap_cons_some ((hf _ _).2 h), ih]
    | @passed a as bs h _ ih =>
      have hnone : f a = none := Option.eq_none_iff_forall_ne_some.2 fun b hb => h b ((hf a b).1 hb)
      rw [List.filterMap_cons_none hnone, ih]
  · rintro rfl
    induction as with
    | nil => exact .nil
    | cons a as ih =>
      cases ha : f a with
      | none =>
        rw [List.filterMap_cons_none ha]
        exact .passed (fun b hb => Option.some_ne_none b (((hf a b).2 hb).symm.trans ha)) ih
      | some b =>
        rw [List.filterMap_cons_some ha]
        exact .taken ((hf a b).1 ha) ih

/-- The member is an unsigned number. -/
def Numbered (m : String × Json) (entry : String × Nat) : Prop := m = (entry.1, .int entry.2)

/-- The record has a label, in the first of its members that may hold one, and a count, in the first
that may hold one and is an unsigned number. -/
structure Counted (item : Json) (entry : String × Nat) : Prop where
  label : ∃ name v, IsFirst labelMembers (fun k => ∃ w, item.get? k = some w) name ∧
    item.get? name = some v ∧ entry.1 = cell v
  count : ∃ name, IsFirst countMembers (fun k => ∃ n : Nat, item.get? k = some (.int n)) name ∧
    item.get? name = some (.int entry.2)

theorem natural?_eq_some_iff {v : Json} {n : Nat} : v.natural? = some n ↔ v = .int n := by
  cases v with
  | int i =>
    rw [Json.natural?, Json.int.injEq]
    split <;> simp <;> omega
  | _ => exact iff_of_false nofun nofun

theorem natural?_member_eq_some_iff {item : Json} {k : String} {n : Nat} :
    (item.get? k).bind Json.natural? = some n ↔ item.get? k = some (.int n) := by
  simp only [Option.bind_eq_some_iff, natural?_eq_some_iff, exists_eq_right]

theorem label?_eq_some_iff {item v : Json} : labelMembers.findSome? item.get? = some v ↔
    ∃ name, IsFirst labelMembers (fun k => ∃ w, item.get? k = some w) name ∧
      item.get? name = some v :=
  findSome?_eq_some_iff_isFirst fun _ => Iff.rfl

theorem count?_eq_some_iff {item : Json} {n : Nat} :
    (countMembers.findSome? fun k => (item.get? k).bind Json.natural?) = some n ↔
      ∃ name, IsFirst countMembers (fun k => ∃ n : Nat, item.get? k = some (.int n)) name ∧
        item.get? name = some (.int n) := by
  have hfirst :=
    @findSome?_eq_some_iff_isFirst Nat countMembers (fun k => (item.get? k).bind Json.natural?)
      (fun k => ∃ n : Nat, item.get? k = some (.int n))
    (fun k => exists_congr fun n => natural?_member_eq_some_iff.symm) n
  simpa only [natural?_member_eq_some_iff] using hfirst

theorem countOf?_eq_some_iff {item : Json} {entry : String × Nat} :
    countOf? item = some entry ↔ Counted item entry := by
  obtain ⟨label, n⟩ := entry
  unfold countOf?
  simp only [Option.bind_eq_bind, Option.bind_eq_some_iff, label?_eq_some_iff, count?_eq_some_iff,
    Option.pure_def, Option.some.injEq, Prod.mk.injEq]
  constructor
  · rintro ⟨v, ⟨name, hname, hv⟩, m, hcount, rfl, rfl⟩
    exact ⟨⟨name, v, hname, hv, rfl⟩, hcount⟩
  · rintro ⟨⟨name, v, hname, hv, rfl⟩, hcount⟩
    exact ⟨v, ⟨name, hname, hv⟩, n, hcount, rfl, rfl⟩

theorem gathered_numbered_iff {members : List (String × Json)} {numbers : List (String × Nat)} :
    Gathered Numbered members numbers ↔ flatCounts (.obj members) = numbers := by
  refine gathered_iff fun m entry => ?_
  obtain ⟨k, v⟩ := m
  obtain ⟨label, n⟩ := entry
  simp only [Numbered, Option.map_eq_some_iff, natural?_eq_some_iff, Prod.mk.injEq]
  constructor
  · rintro ⟨m, rfl, rfl, rfl⟩
    exact ⟨rfl, rfl⟩
  · rintro ⟨rfl, rfl⟩
    exact ⟨n, rfl, rfl, rfl⟩

/-! ## Counts -/

theorem counts_of_flat {v : Json} {numbers : List (String × Nat)} (h : flatCounts v = numbers)
    (hne : numbers ≠ []) :
    counts v = numbers := by
  cases numbers with
  | nil => exact absurd rfl hne
  | cons number numbers =>
    unfold counts
    rw [h]

theorem counts_of_records {v : Json} {items : List Json} (hflat : flatCounts v = [])
    (h : records? v = some items) :
    counts v = items.filterMap countOf? := by
  unfold counts
  rw [hflat, h]
  rfl

/-- The records of an object are those that are shown as a table. They are counted just when no
member of the object itself is an unsigned number, or when these members give the same entries by
chance; if there are such members, they are counted in place of the records. -/
theorem records_counted_iff {members : List (String × Json)} {items : List Json}
    {records numbers : List (String × Nat)} (hitems : records? (.obj members) = some items)
    (hrecords : Gathered Counted items records) (hnumbers : Gathered Numbered members numbers) :
    RecordsIn (.obj members) items ∧
      (counts (.obj members) = records ↔ numbers = [] ∨ numbers = records) ∧
      (numbers ≠ [] → counts (.obj members) = numbers) ∧
      ∀ first rest, items = .obj first :: rest →
        valueText? (.obj members) = (recordTable (first.map (·.1)) items).text? := by
  have hflat : flatCounts (.obj members) = numbers := gathered_numbered_iff.1 hnumbers
  have hlisted : items.filterMap countOf? = records :=
    (gathered_iff fun _ _ => countOf?_eq_some_iff).1 hrecords
  refine ⟨recordsIn_of_records? hitems, ?_, counts_of_flat hflat, ?_⟩
  · by_cases hnone : numbers = []
    · rw [hnone] at hflat
      exact iff_of_true ((counts_of_records hflat hitems).trans hlisted) (.inl hnone)
    · rw [counts_of_flat hflat hnone]
      exact (or_iff_right hnone).symm
  · rintro first rest rfl
    unfold valueText?
    rw [hitems]
    rfl

/-- Records two members deep, the second without a label and the third with its count behind
a member that is none; the numbers beside them are negative or no integers, so that the
records are counted. -/
theorem nested_records_counted :
    let items : List Json :=
      [.obj [("name", .str "acme"), ("total", .int 3)], .obj [("total", .int 5)],
        .obj [("count", .str "many"), ("date", .null), ("num", .int 7)]]
    let members : List (String × Json) :=
      [("code", .int (-1)), ("data", .obj [("rows", .arr items)]), ("message", .str "ok")]
    records? (.obj members) = some items ∧ Gathered Counted items [("acme", 3), ("-", 7)] ∧
      Gathered Numbered members [] ∧ counts (.obj members) = [("acme", 3), ("-", 7)] := by
  intro items members
  have hitems : records? (.obj members) = some items := by rfl
  have hrecords : Gathered Counted items [("acme", 3), ("-", 7)] :=
    (gathered_iff fun _ _ => countOf?_eq_some_iff).2 (by rfl)
  have hnumbers : Gathered Numbered members [] := gathered_numbered_iff.2 (by rfl)
  obtain ⟨-, hcounts, -, -⟩ := records_counted_iff hitems hrecords hnumbers
  exact ⟨hitems, hrecords, hnumbers, hcounts.2 (.inl rfl)⟩

/-- A number beside the records is counted in place of them. -/
theorem number_beside_records_counted :
    ¬ ∀ (members : List (String × Json)) (items : List Json) (records : List (String × Nat)),
      records? (.obj members) = some items → Gathered Counted items records → records ≠ [] →
        counts (.obj members) = records := by
  intro h
  let items : List Json := [.obj [("count", .int 3), ("name", .str "acme")]]
  have hrecords : Gathered Counted items [("acme", 3)] :=
    (gathered_iff fun _ _ => countOf?_eq_some_iff).2 (by rfl)
  have hcounts := h [("code", .int 200), ("data", .arr items)] items [("acme", 3)] (by rfl)
    hrecords nofun
  have hshown : counts (.obj [("code", .int 200), ("data", .arr items)]) = [("code", 200)] := by rfl
  exact absurd (hshown.symm.trans hcounts) (by decide)

end SigningConsole.Report
