import SigningConsole.Proofs.CompactJson
import SigningConsole.Proofs.RecordCodec
/-!
Records that are written as a value or none for each of their fields.

`Record.write` makes an object of such values. A record whose fields take the values
(`Record.Fills`) finds them again in either order of the members (`Record.read_write`): as they were
written, or sorted, as in every body that is sent and every answer that is taken in. A type that is
written so is read back (`Record.Writes`). The other way round, `Record.lookup_of_read` says what
was found of an object that is read, whatever its members are.

Main statements: `Record.read_write`, `Record.Writes.decode_arrange`, `Record.lookup_of_read`.
-/

namespace SigningConsole

namespace Json

/-! ## Orders of members -/

/-- How the members of the objects in a value are ordered. -/
inductive MemberOrder where
  /-- As they were written. -/
  | written
  /-- By key. -/
  | sorted

/-- The value with its members in an order. -/
def MemberOrder.arrange : MemberOrder → Json → Json
  | written, v => v
  | sorted, v => v.normalize

section Arrange

variable (order : MemberOrder)

@[simp] theorem arrange_null : order.arrange null = null := by cases order <;> rfl

@[simp] theorem arrange_str (s : String) : order.arrange (str s) = str s := by cases order <;> rfl

@[simp] theorem arrange_ofInt32 (n : Int32) :
    order.arrange (ofInt32 n) = ofInt32 n := by cases order <;> rfl

@[simp] theorem arrange_ofUInt64 (n : UInt64) :
    order.arrange (ofUInt64 n) = ofUInt64 n := by cases order <;> rfl

@[simp] theorem arrange_arr (vs : List Json) :
    order.arrange (arr vs) = arr (vs.map order.arrange) := by
  cases order with
  | written =>
    show arr vs = arr (vs.map id)
    rw [List.map_id]
  | sorted =>
    show arr (normalizeItems vs) = _
    rw [normalizeItems_eq]
    rfl

/-- The entries of a map are in order as they are. -/
@[simp] theorem arrange_ofTextMap (m : StringMap String) :
    order.arrange (ofTextMap m) = ofTextMap m := by
  cases order with
  | written => rfl
  | sorted =>
    let texts : StringMap Json :=
      ⟨m.entries.map fun e => (e.1, str e.2), List.pairwise_map.2 m.sorted⟩
    have hplain : normalizeMembers texts.entries = texts.entries := by
      rw [normalizeMembers_eq, List.map_map]
      rfl
    show obj (sortMembers (normalizeMembers texts.entries)) = obj texts.entries
    rw [hplain, sortMembers, StringMap.ofList_entries]

end Arrange

/-! ## Values that can be read as they are printed -/

namespace Parser

theorem fits_toInt (n : Int32) : Fits n.toInt := by
  have hlow := n.minValue_le_toInt
  have hhigh := n.toInt_le
  have hmin : Int32.minValue.toInt = -2147483648 := by decide
  have hmax : Int32.maxValue.toInt = 2147483647 := by decide
  have hsize : UInt64.size = 18446744073709551616 := rfl
  constructor <;> omega

theorem fits_toNat (n : UInt64) : Fits n.toNat := by
  have hhigh := n.toNat_lt_size
  have hsize : UInt64.size = 18446744073709551616 := rfl
  constructor <;> omega

namespace Readable

variable {depth : Nat}

theorem arrange {v : Json} (h : Readable depth v) (order : MemberOrder) :
    Readable depth (order.arrange v) := by
  cases order with
  | written => exact h
  | sorted => exact h.normalize

@[simp] theorem of_str (s : String) : Readable depth (Json.str s) := .str s

@[simp] theorem ofInt32 (n : Int32) : Readable depth (Json.ofInt32 n) := .int (fits_toInt n)

@[simp] theorem ofInt32? (n : Option Int32) : Readable depth (n.elim Json.null Json.ofInt32) := by
  cases n with
  | none => exact .null
  | some n => exact .ofInt32 n

@[simp] theorem ofUInt64 (n : UInt64) : Readable depth (Json.ofUInt64 n) := .int (fits_toNat n)

@[simp] theorem ofText? (s : Option String) : Readable depth (Json.ofText? s) := by
  cases s with
  | none => exact .null
  | some s => exact .str s

@[simp] theorem ofTextMap (m : StringMap String) : Readable (depth + 1) (Json.ofTextMap m) := by
  refine .obj fun e he => ?_
  obtain ⟨⟨k, v⟩, -, rfl⟩ := List.mem_map.1 he
  exact .str v

end Readable

end Parser

/-! ## Results -/

section Results

variable {α β : Type} (a : α)

@[simp] theorem ok_bind (k : α → Except DecodeError β) : (Except.ok a >>= k) = k a := rfl

@[simp] theorem ok_functorMap (f : α → β) :
    f <$> (Except.ok a : Except DecodeError α) = .ok (f a) := rfl

/-- A step succeeds if the steps before it did. -/
theorem bind_eq_ok {x : Except DecodeError α} {k : α → Except DecodeError β} {b : β} :
    (x >>= k) = .ok b ↔ ∃ a, x = .ok a ∧ k a = .ok b := by
  cases x with
  | error e => exact ⟨nofun, nofun⟩
  | ok a => exact ⟨fun h => ⟨a, rfl, h⟩, fun ⟨_, ha, h⟩ => (Except.ok.inj ha) ▸ h⟩

@[simp] theorem ok_map (f : α → β) : (Except.ok a : Except DecodeError α).map f = .ok (f a) := rfl

end Results

/-! ## Plain values -/

@[simp] theorem toText_str (s : String) : toText (str s) = .ok s := rfl

attribute [simp] toInt32_ofInt32 toTextMap_ofTextMap

@[simp] theorem toUInt64_ofUInt64 (n : UInt64) : toUInt64 (ofUInt64 n) = .ok n := by
  have hbounds : (0 : Int) ≤ n.toNat ∧ (n.toNat : Int) < UInt64.size :=
    ⟨Int.natCast_nonneg _, Int.ofNat_lt.2 n.toNat_lt_size⟩
  unfold toUInt64 ofUInt64
  dsimp only
  rw [if_pos hbounds, Int.toNat_natCast, UInt64.ofNat_toNat]

@[simp] theorem toOption_null {α : Type} (decode : Decoder α) :
    toOption decode null = .ok none := rfl

@[simp] theorem toOption_str {α : Type} (decode : Decoder α) (s : String) :
    toOption decode (str s) = (decode (str s)).map some := rfl

@[simp] theorem toOption_ofInt32 {α : Type} (decode : Decoder α) (n : Int32) :
    toOption decode (ofInt32 n) = (decode (ofInt32 n)).map some := rfl

@[simp] theorem toOption_ofText? (order : MemberOrder) (s : Option String) :
    toOption toText (order.arrange (ofText? s)) = .ok s := by
  cases s with
  | none => rw [show ofText? none = null from rfl, arrange_null, toOption_null]
  | some s =>
    rw [show ofText? (some s) = str s from rfl, arrange_str]
    rfl

@[simp] theorem toOption_ofInt32? (order : MemberOrder) (n : Option Int32) :
    toOption toInt32 (order.arrange (n.elim null ofInt32)) = .ok n := by
  cases n with
  | none => rw [Option.elim_none, arrange_null, toOption_null]
  | some n =>
    rw [Option.elim_some, arrange_ofInt32, toOption_ofInt32, toInt32_ofInt32]
    rfl

/-- A map of texts, if it has entries. -/
def ofTextMap? (m : StringMap String) : Option Json :=
  if m.isEmpty then none else some (ofTextMap m)

@[simp] theorem ofTextMap?_eq_some {m : StringMap String} {v : Json} :
    ofTextMap? m = some v ↔ m.isEmpty = false ∧ ofTextMap m = v := by
  unfold ofTextMap?
  cases m.isEmpty <;> simp

theorem ofTextMap?_eq_none {m : StringMap String} (h : ofTextMap? m = none) : m = ∅ := by
  unfold ofTextMap? at h
  split at h
  · rename_i hempty
    exact StringMap.ext_entries (List.isEmpty_iff.1 hempty)
  · cases h

/-- A list is read back if each of its items is. -/
theorem toList_arr {α : Type} {decode : Decoder α} {encode : α → Json}
    (h : ∀ a, decode (encode a) = .ok a) (as : List α) :
    toList decode (arr (as.map encode)) = .ok as := by
  show (as.map encode).mapM decode = .ok as
  induction as with
  | nil => rfl
  | cons a as ih =>
    rw [List.map_cons, List.mapM_cons, h a, ih]
    rfl

/-! ## Fields -/

namespace Field

section Fields

variable {α : Type} (name : String) (decode : Decoder α) (v : Json)

@[simp] theorem name_required : (required name decode).name = name := rfl

@[simp] theorem name_nullable : (nullable name decode).name = name := rfl

@[simp] theorem name_defaulted : (defaulted name decode).name = name := rfl

@[simp] theorem name_alsoNamed (f : Field) (other : String) :
    (f.alsoNamed other).name = f.name := rfl

@[simp] theorem aliases_required : (required name decode).aliases = [] := rfl

@[simp] theorem aliases_nullable : (nullable name decode).aliases = [] := rfl

@[simp] theorem aliases_defaulted : (defaulted name decode).aliases = [] := rfl

@[simp] theorem aliases_alsoNamed (f : Field) (other : String) :
    (f.alsoNamed other).aliases = other :: f.aliases := rfl

@[simp] theorem presence_nullable : (nullable name decode).presence = .nullable := rfl

@[simp] theorem presence_defaulted : (defaulted name decode).presence = .defaulted := rfl

@[simp] theorem check_required : (required name decode).check v = (decode v).map fun _ => () := rfl

@[simp] theorem check_nullable :
    (nullable name decode).check v = (toOption decode v).map fun _ => () := rfl

@[simp] theorem check_defaulted : (defaulted name decode).check v = (decode v).map fun _ => () :=
  rfl

@[simp] theorem check_alsoNamed (f : Field) (other : String) :
    (f.alsoNamed other).check v = f.check v := rfl

end Fields

end Field

/-! ## Members that are arranged -/

section Members

variable {ms : List (String × Json)} {name : String}

theorem get?_obj (hn : (ms.map (·.1)).Nodup) (name : String) :
    (obj ms).get? name = ms.lookup name :=
  (StringMap.get?_ofList ms name).trans (lookup_reverse hn name)

/-- In either order an object has the members it was written with, with the values in that order. -/
theorem arrange_obj (hn : (ms.map (·.1)).Nodup) (order : MemberOrder) :
    ∃ ms', order.arrange (obj ms) = obj ms' ∧ (ms'.map (·.1)).Nodup ∧
      ∀ name, ms'.lookup name = (ms.lookup name).map order.arrange := by
  cases order with
  | written => exact ⟨ms, rfl, hn, fun name => by cases ms.lookup name <;> rfl⟩
  | sorted =>
    have hkeys : ((normalizeMembers ms).map (·.1)).Nodup := by
      rw [normalizeMembers_eq, List.map_map]
      exact hn
    refine ⟨_, rfl, ?_, fun name => ?_⟩
    · exact (StringMap.ofList (normalizeMembers ms)).nodup_keys
    · have hget := get?_obj hkeys name
      rw [sortMembers, ← StringMap.lookup_eq]
      refine hget.trans ?_
      rw [normalizeMembers_eq]
      clear hkeys hget hn
      induction ms with
      | nil => rfl
      | cons m ms ih =>
        obtain ⟨k, v⟩ := m
        rw [List.map_cons, lookup_cons_eq, lookup_cons_eq, ih]
        split <;> rfl

end Members

/-! ## Writing a record -/

/-- The members of those names that have a value. -/
def present (es : List (String × Option Json)) : List (String × Json) :=
  es.flatMap fun e => optional e.1 e.2

theorem keys_present (es : List (String × Option Json)) :
    ((present es).map (·.1)).Sublist (es.map (·.1)) := by
  induction es with
  | nil => exact List.Sublist.refl _
  | cons e es ih =>
    rw [present, List.flatMap_cons, List.map_append]
    exact (keys_optional e.1 e.2).append ih

theorem lookup_present {es : List (String × Option Json)} (hn : (es.map (·.1)).Nodup)
    (name : String) :
    (present es).lookup name = (es.lookup name).join := by
  induction es with
  | nil => rfl
  | cons e es ih =>
    obtain ⟨k, v⟩ := e
    rw [List.map_cons, List.nodup_cons] at hn
    have hrest : (present es).lookup name = (es.lookup name).join := ih hn.2
    rw [present, List.flatMap_cons, List.lookup_append, lookup_optional, List.lookup_cons]
    by_cases hk : name = k
    · have hnone : (present es).lookup name = none :=
        lookup_eq_none fun h => hn.1 (hk ▸ (keys_present es).mem h)
      show (if name = k then v else none).or ((present es).lookup name) = _
      rw [hnone, Option.or_none, if_pos hk, beq_iff_eq.2 hk]
      rfl
    · rw [if_neg hk, Option.none_or, beq_eq_false_iff_ne.2 hk]
      exact hrest

namespace Record

variable {r : Record} {order : MemberOrder} {values : List (Option Json)}

/-- The fields' names with their values. -/
def slots (r : Record) (values : List (Option Json)) : List (String × Option Json) :=
  (r.fields.map (·.name)).zip values

/-- The object with the values that the fields have. -/
def write (r : Record) (values : List (Option Json)) : Json := obj (present (r.slots values))

/-- A name names one field alone. -/
def Named (r : Record) : Prop := (r.fields.flatMap fun f => f.name :: f.aliases).Nodup

/-- The fields take the values, and none that is demanded goes without. -/
def Fills (order : MemberOrder) : List Field → List (Option Json) → Prop
  | [], [] => True
  | f :: fs, v :: vs =>
    (∀ w, v = some w → f.check (order.arrange w) = .ok ()) ∧ (v = none → f.presence ≠ .required) ∧
    Fills order fs vs
  | _, _ => False

theorem Fills.keys {fs : List Field} (h : Fills order fs values) :
    ((fs.map (·.name)).zip values).map (·.1) = fs.map (·.name) := by
  induction fs generalizing values with
  | nil => rfl
  | cons f fs ih =>
    cases values with
    | nil => cases h
    | cons v vs =>
      obtain ⟨-, -, hrest⟩ := h
      rw [List.map_cons, List.zip_cons_cons, List.map_cons, ih hrest]

theorem Fills.check {fs : List Field} (h : Fills order fs values) {name : String} {v : Json}
    (hv : (name, some v) ∈ (fs.map (·.name)).zip values) :
    ∃ f ∈ fs, f.name = name ∧ f.check (order.arrange v) = .ok () := by
  induction fs generalizing values with
  | nil => cases hv
  | cons f fs ih =>
    cases values with
    | nil => cases h
    | cons w vs =>
      obtain ⟨hcheck, -, hrest⟩ := h
      obtain hv | hv := List.mem_cons.1 hv
      · cases hv
        exact ⟨f, List.mem_cons_self, rfl, hcheck v rfl⟩
      · obtain ⟨f', hf', hname, hcheck⟩ := ih hrest hv
        exact ⟨f', List.mem_cons_of_mem _ hf', hname, hcheck⟩

theorem Fills.demanded {fs : List Field} (h : Fills order fs values) {f : Field} (hf : f ∈ fs)
    (hp : f.presence = .required) : ∃ v, (f.name, some v) ∈ (fs.map (·.name)).zip values := by
  induction fs generalizing values with
  | nil => cases hf
  | cons f' fs ih =>
    cases values with
    | nil => cases h
    | cons w vs =>
      obtain ⟨-, hdemanded, hrest⟩ := h
      obtain rfl | hf := List.mem_cons.1 hf
      · cases w with
        | none => exact absurd hp (hdemanded rfl)
        | some v => exact ⟨v, List.mem_cons_self⟩
      · obtain ⟨v, hv⟩ := ih hrest hf
        exact ⟨v, List.mem_cons_of_mem _ hv⟩

theorem Named.nodup_names (h : r.Named) : (r.fields.map (·.name)).Nodup := by
  have hsub :
      ∀ fs : List Field, (fs.map (·.name)).Sublist (fs.flatMap fun f => f.name :: f.aliases) := by
    intro fs
    induction fs with
    | nil => exact List.Sublist.refl _
    | cons f fs ih => exact (ih.trans (List.sublist_append_right f.aliases _)).cons_cons f.name
  exact (hsub r.fields).nodup h

/-- A field is the one that its name names. -/
theorem Named.field?_name (h : r.Named) {f : Field} (hf : f ∈ r.fields) :
    r.field? f.name = some f := by
  unfold Named at h
  unfold field?
  generalize r.fields = fields at h hf ⊢
  induction fields with
  | nil => cases hf
  | cons g fs ih =>
    rw [List.flatMap_cons, List.nodup_append] at h
    obtain ⟨-, hrest, hapart⟩ := h
    obtain rfl | hf := List.mem_cons.1 hf
    · exact List.find?_cons_of_pos (by simp)
    · -- the fields before it have other names
      have hother : f.name ∉ g.name :: g.aliases := fun hm =>
        hapart _ hm _ (List.mem_flatMap.2 ⟨f, hf, List.mem_cons_self⟩) rfl
      obtain ⟨hname, haliases⟩ := not_or.1 (mt List.mem_cons.2 hother)
      rw [List.find?_cons_of_neg (by simp [Ne.symm hname, haliases])]
      exact ih hrest hf

/-- What is found in either order of the members is what the fields were given. -/
theorem read_write (hr : r.Named) (h : Fills order r.fields values) :
    ∃ found, r.read (order.arrange (r.write values)) = .ok found ∧
      ∀ name, found.lookup name = ((r.slots values).lookup name).join.map order.arrange := by
  have hslots : ((r.slots values).map (·.1)).Nodup := by
    rw [slots, h.keys]
    exact hr.nodup_names
  have hn : ((present (r.slots values)).map (·.1)).Nodup := (keys_present _).nodup hslots
  obtain ⟨ms, hms, hkeys, hlookup⟩ := arrange_obj hn order
  have hlookup : ∀ name, ms.lookup name = ((r.slots values).lookup name).join.map order.arrange :=
    fun name =>
    (hlookup name).trans (congrArg _ (lookup_present hslots name))
  have hslot : ∀ {name v}, ((r.slots values).lookup name).join = some v →
      (name, some v) ∈ r.slots values :=
    fun hv => mem_of_lookup (Option.join_eq_some_iff.1 hv)
  have htakes : ∀ m ∈ ms, r.Takes m := by
    rintro ⟨name, w⟩ hm
    have hw := (hlookup name).symm.trans (lookup_of_mem hkeys hm)
    obtain ⟨v, hv, rfl⟩ := Option.map_eq_some_iff.1 hw
    obtain ⟨f, hf, rfl, hcheck⟩ := h.check (hslot hv)
    exact ⟨f, hr.field?_name hf, rfl, hcheck⟩
  have hdemanded : ∀ f ∈ r.fields, f.presence = .required → (ms.lookup f.name).isSome := by
    intro f hf hp
    obtain ⟨v, hv⟩ := h.demanded hf hp
    rw [hlookup, lookup_of_mem hslots hv]
    rfl
  refine ⟨ms.reverse, ?_, fun name => (lookup_reverse hkeys name).trans (hlookup name)⟩
  show r.read (order.arrange (obj _)) = _
  rw [hms]
  exact read_obj htakes hkeys hdemanded

/-- Every member that is written has the name of a field. -/
theorem isSome_field? (hr : r.Named) {m : String × Json} (hm : m ∈ present (r.slots values)) :
    (r.field? m.1).isSome = true := by
  obtain ⟨e, he, hm⟩ := List.mem_flatMap.1 hm
  obtain ⟨w, hw, rfl⟩ := mem_optional.1 hm
  obtain ⟨f, hf, hname⟩ := List.mem_map.1 (List.of_mem_zip he).1
  have hname : f.name = e.1 := hname
  show (r.field? e.1).isSome = true
  rw [← hname, hr.field?_name hf]
  rfl

/-- An object can be read as it is printed if the values in it can. -/
theorem readable_write {depth : Nat} (h : ∀ v ∈ values, ∀ w, v = some w → Parser.Readable depth w) :
    Parser.Readable (depth + 1) (r.write values) := by
  refine .obj fun m hm => ?_
  obtain ⟨e, he, hm⟩ := List.mem_flatMap.1 hm
  obtain ⟨w, hw, rfl⟩ := mem_optional.1 hm
  exact h e.2 (List.of_mem_zip he).2 w hw

/-- How the values of a type are written as a record, and read from what is found of it. -/
structure Writes {α : Type} (r : Record) (decode : Decoder α) (toJson : α → Json)
    (values : α → List (Option Json)) : Prop where
  named : r.Named
  written : ∀ a, toJson a = r.write (values a)
  fills : ∀ a order, Fills order r.fields (values a)
  reads : ∀ a (order : MemberOrder) v (found : Found), r.read v = .ok found →
    (∀ name, found.lookup name = ((r.slots (values a)).lookup name).join.map order.arrange) →
    decode v = .ok a
  readable : ∀ a depth, ∀ v ∈ values a, ∀ w, v = some w → Parser.Readable (depth + 3) w

namespace Writes

variable {α : Type} {decode : Decoder α} {toJson : α → Json} {values : α → List (Option Json)}

/-- What is written is read back, in either order of its members. -/
theorem decode_arrange (h : r.Writes decode toJson values) (a : α) (order : MemberOrder) :
    decode (order.arrange (toJson a)) = .ok a := by
  obtain ⟨found, hread, hfound⟩ := read_write h.named (h.fills a order)
  rw [h.written]
  exact h.reads a order _ found hread hfound

/-- The member of a field's name is the value of the field. -/
theorem get?_toJson (h : r.Writes decode toJson values) (a : α) (name : String) :
    (toJson a).get? name = ((r.slots (values a)).lookup name).join := by
  have hslots : ((r.slots (values a)).map (·.1)).Nodup := by
    rw [slots, (h.fills a .written).keys]
    exact h.named.nodup_names
  rw [h.written]
  exact (get?_obj ((keys_present _).nodup hslots) name).trans (lookup_present hslots name)

theorem readable_toJson (h : r.Writes decode toJson values) (a : α) (depth : Nat) :
    Parser.Readable (depth + 4) (toJson a) := by
  rw [h.written]
  exact readable_write (h.readable a depth)

end Writes

/-! ## Reading a record -/

/-- A member that is visited is passed over, or its value is kept for a field that had none. -/
theorem visit_cons_cases {k : String} {w : Json} {ms : List (String × Json)} {found found' : Found}
    (h : r.visit found ((k, w) :: ms) = .ok found') :
    (r.field? k = none ∧ r.visit found ms = .ok found') ∨
      ∃ f, r.field? k = some f ∧ found.lookup f.name = none ∧
        r.visit ((f.name, w) :: found) ms = .ok found' := by
  rw [visit] at h
  cases hf : r.field? k with
  | none =>
    rw [hf] at h
    exact .inl ⟨rfl, h⟩
  | some f =>
    rw [hf] at h
    dsimp only at h
    split at h
    · cases h
    · next hnew =>
      cases hcheck : f.check w with
      | error e =>
        rw [hcheck] at h
        cases h
      | ok _ =>
        rw [hcheck] at h
        exact .inr ⟨f, rfl, Option.not_isSome_iff_eq_none.1 hnew, h⟩

/-- A member says the value of a field if its key names the field. -/
def Says (r : Record) (ms : List (String × Json)) (name : String) (v : Json) : Prop :=
  ∃ k f, (k, v) ∈ ms ∧ r.field? k = some f ∧ f.name = name

theorem says_cons_iff {k : String} {w : Json} {ms : List (String × Json)}
    {name : String} {v : Json} :
    r.Says ((k, w) :: ms) name v ↔ (v = w ∧ ∃ f, r.field? k = some f ∧ f.name = name) ∨
    r.Says ms name v := by
  constructor
  · rintro ⟨k', f, hm, hfield⟩
    obtain hm | hm := List.mem_cons.1 hm
    · cases hm
      exact .inl ⟨rfl, f, hfield⟩
    · exact .inr ⟨k', f, hm, hfield⟩
  · rintro (⟨rfl, f, hfield⟩ | ⟨k', f, hm, hfield⟩)
    · exact ⟨k, f, List.mem_cons_self, hfield⟩
    · exact ⟨k', f, List.mem_cons_of_mem _ hm, hfield⟩

/-- What is found beside what was found before is what the members say. -/
theorem lookup_of_visit {ms : List (String × Json)} {found found' : Found}
    (h : r.visit found ms = .ok found') (name : String) (v : Json) :
    found'.lookup name = some v ↔ found.lookup name = some v ∨ r.Says ms name v := by
  induction ms generalizing found with
  | nil =>
    cases h
    simp [Says]
  | cons m ms ih =>
    obtain ⟨k, w⟩ := m
    obtain ⟨hf, hvisit⟩ | ⟨f, hf, hnew, hvisit⟩ := visit_cons_cases h
    · rw [ih hvisit, says_cons_iff, hf]
      simp
    · rw [ih hvisit, says_cons_iff, hf, lookup_cons_eq]
      by_cases hname : name = f.name
      · subst hname
        simp [hnew, eq_comm]
      · simp [hname, Ne.symm hname]

/-- What is found of an object is what its members say that name a field. -/
theorem lookup_of_read {ms : List (String × Json)} {found : Found} (h : r.read (obj ms) = .ok found)
    (name : String) (v : Json) : found.lookup name = some v ↔ r.Says ms name v := by
  unfold read at h
  dsimp only at h
  cases hvisit : r.visit [] ms with
  | error e =>
    rw [hvisit] at h
    cases h
  | ok found' =>
    rw [hvisit] at h
    have hdemand : (demand found' r.fields >>= fun _ => .ok found') = .ok found := h
    cases hd : demand found' r.fields with
    | error e =>
      rw [hd] at hdemand
      cases hdemand
    | ok _ =>
      rw [hd] at hdemand
      cases hdemand
      rw [lookup_of_visit hvisit]
      simp

theorem field?_eq_some {key : String} {f : Field} (h : r.field? key = some f) :
    f ∈ r.fields ∧ (f.name = key ∨ key ∈ f.aliases) := by
  refine ⟨List.mem_of_find?_eq_some h, ?_⟩
  have hkey := List.find?_some h
  simpa using hkey

/-- A field of one name is found only under that name. -/
theorem null_of_lacking {ms : List (String × Json)} {found : Found} {name : String}
    (h : r.read (obj ms) = .ok found) (hname : ∀ f ∈ r.fields, f.name = name → f.aliases = [])
    (hnull : ∀ v, (name, v) ∈ ms → v = null) {v : Json} (hv : found.lookup name = some v) :
    v = null := by
  obtain ⟨k, f, hm, hfield, rfl⟩ := (lookup_of_read h name v).1 hv
  obtain ⟨hf, hk | hk⟩ := field?_eq_some hfield
  · exact hnull v (hk ▸ hm)
  · rw [hname f hf rfl] at hk
    cases hk

namespace Found

variable {α : Type} {found : Found} {name : String} {decode : Decoder α}

/-- A value that may be lacking is found as it was written. -/
theorem get?_of_lookup {encode : α → Json} {a : Option α}
    (hv : found.lookup name = (a.map encode).map order.arrange)
    (hd : ∀ b, a = some b → toOption decode (order.arrange (encode b)) = .ok (some b)) :
    found.get? name decode = .ok a := by
  unfold Found.get? Found.getD
  rw [hv]
  cases a with
  | none => rfl
  | some b => exact hd b rfl

/-- A map of texts that is not written is empty. -/
theorem getD_of_lookup_ofTextMap? {m : StringMap String}
    (hv : found.lookup name = (ofTextMap? m).map order.arrange) :
    found.getD name toTextMap ∅ = .ok m := by
  unfold Found.getD
  rw [hv]
  cases hm : ofTextMap? m with
  | none =>
    rw [ofTextMap?_eq_none hm]
    rfl
  | some v =>
    obtain ⟨-, rfl⟩ := ofTextMap?_eq_some.1 hm
    show toTextMap (order.arrange (ofTextMap m)) = .ok m
    rw [arrange_ofTextMap, toTextMap_ofTextMap]

/-- A value that may be lacking is none where nothing else than null is found. -/
theorem get?_of_null {a : Option α} (hnull : ∀ {v}, found.lookup name = some v → v = null)
    (h : found.get? name decode = .ok a) : a = none := by
  unfold Found.get? Found.getD at h
  cases hv : found.lookup name with
  | none =>
    rw [hv] at h
    cases h
    rfl
  | some v =>
    rw [hv, hnull hv] at h
    cases h
    rfl

theorem get_of_lookup {v : Json} (hv : found.lookup name = some v) :
    found.get name decode = decode v := by
  unfold Found.get
  rw [hv]

theorem getD_of_lookup {v : Json} (hv : found.lookup name = some v) (default : α) :
    found.getD name decode default = decode v := by
  unfold Found.getD
  rw [hv]

end Found

end Record

end Json

end SigningConsole
