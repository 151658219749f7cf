import SigningConsole.Account
import SigningConsole.Json.Read
import SigningConsole.Key.Record
import SigningConsole.Proofs.RecordValues
/-!
The records that go over the wire are read back as they were written.

Each type is written as a value for each field of its record (`values`), which the fields take and
from which they are read again (`Record.Writes`). Where a field may be left out, its value is none.

Main statements: `Record.Writes.readsBack`, and `writes` for each type.
-/

namespace SigningConsole

open Json

variable {α : Type}

/-- Whatever is written is read as it was: from the value and from its text on one line or on
several, with its members in either order. So to read, to write and to read again is to read
once. -/
structure ReadsBack (decode : Decoder α) (toJson : α → Json) : Prop where
  value : ∀ a (order : MemberOrder), decode (order.arrange (toJson a)) = .ok a
  line : ∀ a (order : MemberOrder), Json.read decode (order.arrange (toJson a)).compact = .ok a
  lines : ∀ a (order : MemberOrder), Json.read decode (order.arrange (toJson a)).pretty = .ok a
  settles :
    ∀ v (order : MemberOrder), (decode v >>= fun a => decode (order.arrange (toJson a))) = decode v

theorem Json.Record.Writes.readsBack {r : Record} {decode : Decoder α} {toJson : α → Json}
    {values : α → List (Option Json)} (h : r.Writes decode toJson values) :
    ReadsBack decode toJson where
  value := h.decode_arrange
  line a order := by
    unfold Json.read decodeAs
    rw [parse?_compact ((h.readable_toJson a _).arrange order)]
    dsimp only
    rw [h.decode_arrange]
    rfl
  lines a order := by
    unfold Json.read decodeAs
    rw [parse?_pretty ((h.readable_toJson a _).arrange order)]
    dsimp only
    rw [h.decode_arrange]
    rfl
  settles v order := by
    cases hv : decode v with
    | error e => rfl
    | ok a => exact h.decode_arrange a order

/-! ## Names of states and scopes -/

namespace Visibility

@[simp] theorem decode_arrange (order : MemberOrder) (v : Visibility) :
    decode (order.arrange v.toJson) = .ok v := by
  unfold toJson
  rw [arrange_str]
  cases v <;> rfl

@[simp] theorem toOption_arrange (order : MemberOrder) (v : Visibility) :
    toOption decode (order.arrange v.toJson) = .ok (some v) := by
  unfold toJson
  rw [arrange_str]
  cases v <;> rfl

@[simp] theorem readable_toJson {depth : Nat} (v : Visibility) :
    Parser.Readable depth v.toJson := .str _

end Visibility

namespace KeyStatus

@[simp] theorem decode_arrange (order : MemberOrder) (s : KeyStatus) :
    decode (order.arrange s.toJson) = .ok s := by
  unfold toJson
  rw [arrange_str]
  cases s <;> rfl

@[simp] theorem readable_toJson {depth : Nat} (s : KeyStatus) :
    Parser.Readable depth s.toJson := .str _

/-- A name is read as the state that has it, or else as the unknown state. -/
theorem decode_str (name : String) :
    decode (str name) = .ok ((names.lookup name).getD unknown) := by
  unfold decode toVariant
  cases h : names.lookup name <;> simp [h]

end KeyStatus

/-! ## Keys -/

namespace KeyRecord

/-- The values of the fields. -/
def values (k : KeyRecord) : List (Option Json) :=
  [some (ofInt32 k.id), some (str k.name), some (str k.description), some k.visibility.toJson,
    some (ofInt32 k.user), some (ofTextMap k.attributes), some (str k.keyType),
    some (k.parentId.elim null ofInt32), some (str k.fingerprint), some (ofText? k.serialNumber),
    some (str k.createdAt), some (str k.expiresAt), some k.state.toJson, some (ofText? k.userEmail),
    some (ofText? k.deleteRequestedBy), some (ofText? k.revokeRequestedBy)]

theorem readable_values (k : KeyRecord) (depth : Nat) :
    ∀ v ∈ k.values, ∀ w, v = some w → Parser.Readable (depth + 1) w := by
  simp [values]

theorem writes : record.Writes decode toJson values where
  named := by simp [Record.Named, record]
  written _ := rfl
  fills k order := by simp [Record.Fills, record, values]
  reads k order v found hread hfound := by
    unfold decode
    rw [hread]
    simp [Record.Found.get, Record.Found.get?, Record.Found.getD, hfound, Record.slots,
      record, values, List.lookup_cons]
  readable k depth := k.readable_values _

end KeyRecord

namespace PageMeta

/-- The values of the fields. -/
def values (m : PageMeta) : List (Option Json) := [some (ofUInt64 m.totalCount)]

theorem writes : record.Writes decode toJson values where
  named := by simp [Record.Named, record]
  written _ := rfl
  fills m order := by simp [Record.Fills, record, values]
  reads m order v found hread hfound := by
    unfold decode
    rw [hread]
    simp [Record.Found.get, hfound, Record.slots, record, values]
  readable m depth := by simp [values]

end PageMeta

namespace KeyPage

/-- The values of the fields. -/
def values (p : KeyPage) : List (Option Json) :=
  [some (arr (p.keys.map KeyRecord.toJson)), some p.info.toJson]

/-- The keys of a page are read one by one. -/
theorem toList_arrange (keys : List KeyRecord) (order : MemberOrder) :
    toList KeyRecord.decode (order.arrange (arr (keys.map KeyRecord.toJson))) = .ok keys := by
  rw [arrange_arr, List.map_map]
  exact toList_arr (fun k => KeyRecord.writes.decode_arrange k order) keys

theorem readable_keys (keys : List KeyRecord) (depth : Nat) :
    Parser.Readable (depth + 3) (arr (keys.map KeyRecord.toJson)) := by
  refine .arr fun v hv => ?_
  obtain ⟨k, -, rfl⟩ := List.mem_map.1 hv
  rw [KeyRecord.writes.written]
  exact Record.readable_write (k.readable_values depth)

theorem readable_info (m : PageMeta) (depth : Nat) : Parser.Readable (depth + 1) m.toJson := by
  rw [PageMeta.writes.written]
  exact Record.readable_write (by simp [PageMeta.values])

theorem writes : record.Writes decode toJson values where
  named := by simp [Record.Named, record]
  written _ := rfl
  fills p order := by
    simp [Record.Fills, record, values, toList_arrange,
      PageMeta.writes.decode_arrange, -arrange_arr]
  reads p order v found hread hfound := by
    unfold decode
    rw [hread]
    simp [Record.Found.get, Record.Found.getD, hfound, Record.slots, record, values,
      List.lookup_cons, toList_arrange, PageMeta.writes.decode_arrange, -arrange_arr]
  readable p depth := by simp [values, readable_keys, readable_info]

end KeyPage

namespace NewKey

/-- The values of the fields. -/
def values (r : NewKey) : List (Option Json) :=
  [some (str r.name), some (str r.description), r.visibility.map Visibility.toJson,
    some (ofTextMap r.attributes), some (str r.keyType), r.parentId.map ofInt32,
    some (str r.expiresAt)]

theorem writes : record.Writes decode toJson values where
  named := by simp [Record.Named, record]
  written r := by
    obtain ⟨_, _, visibility, _, _, parentId, _⟩ := r
    cases visibility <;> cases parentId <;> rfl
  fills r order := by simp [Record.Fills, record, values]
  reads r order v found hread hfound := by
    have hvisibility : found.get? "visibility" Visibility.decode = .ok r.visibility :=
      Record.Found.get?_of_lookup (hfound "visibility")
        fun b _ => Visibility.toOption_arrange order b
    have hparent : found.get? "parent_id" toInt32 = .ok r.parentId :=
      Record.Found.get?_of_lookup (hfound "parent_id") (by simp)
    unfold decode
    rw [hread]
    simp [Record.Found.get, hvisibility, hparent, hfound, Record.slots, record, values,
      List.lookup_cons]
  readable r depth := by simp [values]

end NewKey

namespace ImportedKey

/-- The values of the fields. -/
def values (r : ImportedKey) : List (Option Json) :=
  [some (str r.name), some (str r.description), r.visibility.map Visibility.toJson,
    some (ofTextMap r.attributes), some (str r.keyType), some (str r.privateKey),
    some (str r.publicKey), some (str r.certificate)]

theorem writes : record.Writes decode toJson values where
  named := by simp [Record.Named, record]
  written r := by
    obtain ⟨_, _, visibility, _, _, _, _, _⟩ := r
    cases visibility <;> rfl
  fills r order := by simp [Record.Fills, record, values]
  reads r order v found hread hfound := by
    have hvisibility : found.get? "visibility" Visibility.decode = .ok r.visibility :=
      Record.Found.get?_of_lookup (hfound "visibility")
        fun b _ => Visibility.toOption_arrange order b
    unfold decode
    rw [hread]
    simp [Record.Found.get, hvisibility, hfound, Record.slots, record, values, List.lookup_cons]
  readable r depth := by simp [values]

end ImportedKey

namespace KeyExport

/-- The values of the fields. -/
def values (e : KeyExport) : List (Option Json) :=
  [some (str e.privateKey), some (str e.publicKey), some (str e.certificate)]

theorem writes : record.Writes decode toJson values where
  named := by simp [Record.Named, record]
  written _ := rfl
  fills e order := by simp [Record.Fills, record, values]
  reads e order v found hread hfound := by
    unfold decode
    rw [hread]
    simp [Record.Found.getD, hfound, Record.slots, record, values, List.lookup_cons]
  readable e depth := by simp [values]

end KeyExport

/-! ## Users and tokens -/

namespace ApiToken

/-- The values of the fields. -/
def values (t : ApiToken) : List (Option Json) :=
  [some (ofInt32 t.id), some (ofInt32 t.userId), some (str t.token), some (str t.description),
    some (str t.createdAt), some (str t.expiresAt)]

theorem writes : record.Writes decode toJson values where
  named := by simp [Record.Named, record]
  written _ := rfl
  fills t order := by simp [Record.Fills, record, values]
  reads t order v found hread hfound := by
    unfold decode
    rw [hread]
    simp [Record.Found.get, Record.Found.getD, hfound, Record.slots, record, values,
      List.lookup_cons]
  readable t depth := by simp [values]

end ApiToken

namespace NewToken

/-- The values of the fields. -/
def values (r : NewToken) : List (Option Json) := [some (str r.description)]

theorem writes : record.Writes decode toJson values where
  named := by simp [Record.Named, record]
  written _ := rfl
  fills r order := by simp [Record.Fills, record, values]
  reads r order v found hread hfound := by
    unfold decode
    rw [hread]
    simp [Record.Found.get, hfound, Record.slots, record, values]
  readable r depth := by simp [values]

end NewToken

namespace Identity

/-- The values of the fields. -/
def values (u : Identity) : List (Option Json) := [some (ofInt32 u.id), some (str u.email)]

theorem writes : record.Writes decode toJson values where
  named := by simp [Record.Named, record]
  written _ := rfl
  fills u order := by simp [Record.Fills, record, values]
  reads u order v found hread hfound := by
    unfold decode
    rw [hread]
    simp [Record.Found.get, hfound, Record.slots, record, values, List.lookup_cons]
  readable u depth := by simp [values]

end Identity

namespace Grant

/-- The values of the fields. -/
def values (g : Grant) : List (Option Json) :=
  [some (str g.token), some (ofText? g.email), some (g.id.elim null ofInt32), ofTextMap? g.cookies]

theorem writes : record.Writes decode toJson values where
  named := by simp [Record.Named, record]
  written g := by
    unfold toJson values ofTextMap?
    cases g.cookies.isEmpty <;> rfl
  fills g order := by simp [Record.Fills, record, values]
  reads g order v found hread hfound := by
    have hcookies : found.getD "cookies" toTextMap ∅ = .ok g.cookies :=
      Record.Found.getD_of_lookup_ofTextMap? (hfound "cookies")
    unfold decode
    rw [hread]
    simp only [ok_bind, hcookies]
    simp [Record.Found.get?, Record.Found.getD, hfound, Record.slots, record, values,
      List.lookup_cons]
  readable g depth := by simp [values]

end Grant

end SigningConsole
