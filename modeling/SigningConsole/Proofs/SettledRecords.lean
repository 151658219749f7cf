import SigningConsole.Proofs.WireRecords
/-!
What is read of any object settles when it is written again.

What a record reads of an object is what its members say (`Record.lookup_of_read`). So an
unknown state, a token under its other name and a field that is lacking are written in one way
only from then on.

Main statements: `Record.Writes.lacking`, `KeyRecord.state_of_decode`, `Grant.token_of_decode`,
`wire_records_read_back`.
-/

namespace SigningConsole

open Json

variable {α : Type}

/-- A field that an object lacks, or has null for, is written as `shown` from then on. -/
def WritesLacking (decode : Decoder α) (toJson : α → Json) (name : String) (shown : Option Json) :
    Prop :=
  ∀ ms a, decode (obj ms) = .ok a → (∀ v, (name, v) ∈ ms → v = null) → (toJson a).get? name = shown

/-- A field with one name is written, where it is lacking, as the value it has if nothing but
null is found for it. -/
theorem Json.Record.Writes.lacking {r : Record} {decode : Decoder α} {toJson : α → Json}
    {values : α → List (Option Json)} (h : r.Writes decode toJson values) {name : String}
    {shown : Option Json} (hname : ∀ f ∈ r.fields, f.name = name → f.aliases = [])
    (hshown : ∀ v a, decode v = .ok a → ∃ found : Record.Found, r.read v = .ok found ∧
      ((∀ {w}, found.lookup name = some w → w = null) →
        ((r.slots (values a)).lookup name).join = shown)) :
    WritesLacking decode toJson name shown := by
  intro ms a hdecode hnull
  obtain ⟨found, hread, hshown⟩ := hshown _ a hdecode
  rw [h.get?_toJson]
  exact hshown fun hv => Record.null_of_lacking hread hname hnull hv

namespace KeyRecord

theorem found_of_decode {v : Json} {k : KeyRecord} (h : decode v = .ok k) :
    ∃ found : Record.Found, record.read v = .ok found ∧
      found.get "key_state" KeyStatus.decode = .ok k.state ∧
      found.get? "parent_id" toInt32 = .ok k.parentId ∧
      found.get? "serial_number" toText = .ok k.serialNumber ∧
      found.get? "user_email" toText = .ok k.userEmail ∧
      found.get? "request_delete_users" toText = .ok k.deleteRequestedBy ∧
      found.get? "request_revoke_users" toText = .ok k.revokeRequestedBy := by
  unfold decode at h
  simp only [bind_eq_ok] at h
  obtain ⟨found, hread, _, -, _, -, _, -, _, -, _, -, _, -, _, -, _, hparent, _, -, _, hserial, _,
    -, _, -, _, hstate, _, hemail, _, hdelete, _, hrevoke, ⟨⟩⟩ := h
  exact ⟨found, hread, hstate, hparent, hserial, hemail, hdelete, hrevoke⟩

/-- A state is written under its name, and under the name of the unknown state if it has none. -/
theorem state_of_decode {ms : List (String × Json)} {k : KeyRecord} {name : String}
    (h : decode (obj ms) = .ok k) (hm : ("key_state", str name) ∈ ms) :
    k.toJson.get? "key_state" = some (str ((KeyStatus.names.lookup name).getD .unknown).text) := by
  obtain ⟨found, hread, hstate, -⟩ := found_of_decode h
  have hfound := (Record.lookup_of_read hread "key_state" (str name)).2 ⟨_, _, hm, rfl, rfl⟩
  rw [Record.Found.get_of_lookup hfound, KeyStatus.decode_str, Except.ok.injEq] at hstate
  rw [writes.get?_toJson, hstate]
  rfl

/-- What a key lacks is written as null. -/
theorem writes_lacking :
    ∀ name ∈ ["parent_id", "serial_number", "user_email", "request_delete_users",
      "request_revoke_users"], WritesLacking decode toJson name (some null) := by
  intro name hname
  have haliases : ∀ f ∈ record.fields, f.aliases = [] := by simp [record]
  refine writes.lacking (fun f hf _ => haliases f hf) fun v k h => ?_
  obtain ⟨found, hread, -, hparent, hserial, hemail, hdelete, hrevoke⟩ := found_of_decode h
  refine ⟨found, hread, fun hnull => ?_⟩
  simp only [List.mem_cons, List.not_mem_nil, or_false] at hname
  obtain rfl | rfl | rfl | rfl | rfl := hname
  · simp [values, Record.slots, record, List.lookup_cons, Record.Found.get?_of_null hnull hparent]
  · simp [values, Record.slots, record, List.lookup_cons, Record.Found.get?_of_null hnull
      hserial, ofText?]
  · simp [values, Record.slots, record, List.lookup_cons, Record.Found.get?_of_null hnull
      hemail, ofText?]
  · simp [values, Record.slots, record, List.lookup_cons, Record.Found.get?_of_null hnull
      hdelete, ofText?]
  · simp [values, Record.slots, record, List.lookup_cons, Record.Found.get?_of_null hnull
      hrevoke, ofText?]

end KeyRecord

/-- What the request for a key lacks is not written. -/
theorem NewKey.writes_lacking :
    ∀ name ∈ ["visibility", "parent_id"], WritesLacking decode toJson name none := by
  intro name hname
  have haliases : ∀ f ∈ record.fields, f.aliases = [] := by simp [record]
  refine writes.lacking (fun f hf _ => haliases f hf) fun v r h => ?_
  unfold decode at h
  simp only [bind_eq_ok] at h
  obtain ⟨found, hread, _, -, _, -, _, hvisibility, _, -, _, -, _, hparent, _, -, ⟨⟩⟩ := h
  refine ⟨found, hread, fun hnull => ?_⟩
  simp only [List.mem_cons, List.not_mem_nil, or_false] at hname
  obtain rfl | rfl := hname
  · simp [values, Record.slots, record, List.lookup_cons,
      Record.Found.get?_of_null hnull hvisibility]
  · simp [values, Record.slots, record, List.lookup_cons, Record.Found.get?_of_null hnull hparent]

/-- An import that lacks its scope is written without it. -/
theorem ImportedKey.writes_lacking : WritesLacking decode toJson "visibility" none := by
  have haliases : ∀ f ∈ record.fields, f.aliases = [] := by simp [record]
  refine writes.lacking (fun f hf _ => haliases f hf) fun v r h => ?_
  unfold decode at h
  simp only [bind_eq_ok] at h
  obtain ⟨found, hread, _, -, _, -, _, hvisibility, _, -, _, -, _, -, _, -, _, -, ⟨⟩⟩ := h
  refine ⟨found, hread, fun hnull => ?_⟩
  simp [values, Record.slots, record, List.lookup_cons, Record.Found.get?_of_null hnull hvisibility]

namespace Grant

theorem found_of_decode {v : Json} {g : Grant} (h : decode v = .ok g) :
    ∃ found : Record.Found, record.read v = .ok found ∧ found.getD "token" toText "" = .ok g.token ∧
      found.get? "email" toText = .ok g.email ∧ found.get? "id" toInt32 = .ok g.id ∧
      found.getD "cookies" toTextMap ∅ = .ok g.cookies := by
  unfold decode at h
  simp only [bind_eq_ok] at h
  obtain ⟨found, hread, _, htoken, _, hemail, _, hid, _, hcookies, ⟨⟩⟩ := h
  exact ⟨found, hread, htoken, hemail, hid, hcookies⟩

/-- A token is read under either of its names and written under one. -/
theorem token_of_decode {ms : List (String × Json)} {g : Grant} {t : String}
    (h : decode (obj ms) = .ok g) (hm : ("token", str t) ∈ ms ∨ ("csrf_token", str t) ∈ ms) :
    g.toJson.get? "token" = some (str t) ∧ g.toJson.get? "csrf_token" = none := by
  obtain ⟨found, hread, htoken, -⟩ := found_of_decode h
  have hfound : found.lookup "token" = some (str t) := by
    refine (Record.lookup_of_read hread "token" (str t)).2 ?_
    obtain hm | hm := hm
    · exact ⟨_, _, hm, rfl, rfl⟩
    · exact ⟨_, _, hm, rfl, rfl⟩
  rw [Record.Found.getD_of_lookup hfound, toText_str, Except.ok.injEq] at htoken
  rw [writes.get?_toJson, writes.get?_toJson, htoken]
  exact ⟨rfl, rfl⟩

/-- Who a token was granted to is written as null where it is lacking, and cookies are not
written. -/
theorem writes_lacking : (∀ name ∈ ["email", "id"], WritesLacking decode toJson name (some null)) ∧
    WritesLacking decode toJson "cookies" none := by
  have haliases : ∀ name, name ≠ "token" → ∀ f ∈ record.fields, f.name = name → f.aliases = [] := by
    intro name hname
    simp [record, Ne.symm hname]
  constructor
  · intro name hname
    simp only [List.mem_cons, List.not_mem_nil, or_false] at hname
    obtain rfl | rfl := hname
    · refine writes.lacking (haliases "email" (by decide)) fun v g h => ?_
      obtain ⟨found, hread, -, hemail, -⟩ := found_of_decode h
      refine ⟨found, hread, fun hnull => ?_⟩
      simp [values, Record.slots, record, List.lookup_cons, Record.Found.get?_of_null hnull
        hemail, ofText?]
    · refine writes.lacking (haliases "id" (by decide)) fun v g h => ?_
      obtain ⟨found, hread, -, -, hid, -⟩ := found_of_decode h
      refine ⟨found, hread, fun hnull => ?_⟩
      simp [values, Record.slots, record, List.lookup_cons, Record.Found.get?_of_null hnull hid]
  · refine writes.lacking (haliases "cookies" (by decide)) fun v g h => ?_
    obtain ⟨found, hread, -, -, -, hcookies⟩ := found_of_decode h
    refine ⟨found, hread, fun hnull => ?_⟩
    have hnone : g.cookies = ∅ := by
      unfold Record.Found.getD at hcookies
      cases hv : found.lookup "cookies" with
      | none =>
        rw [hv] at hcookies
        exact (Except.ok.inj hcookies).symm
      | some w =>
        -- null is no map of texts
        rw [hv, hnull hv] at hcookies
        cases hcookies
    simp [values, Record.slots, record, List.lookup_cons, ofTextMap?, hnone]
    rfl

end Grant

/-- Every type of the wire is read back as it was written. What is read of another object is written
in one way from then on: an unknown state as `unknown`, a token under its first name, and what is
lacking as null or not at all. -/
theorem wire_records_read_back :
    (ReadsBack KeyRecord.decode KeyRecord.toJson ∧ ReadsBack KeyPage.decode KeyPage.toJson ∧
      ReadsBack NewKey.decode NewKey.toJson ∧ ReadsBack ImportedKey.decode ImportedKey.toJson ∧
      ReadsBack KeyExport.decode KeyExport.toJson ∧ ReadsBack ApiToken.decode ApiToken.toJson ∧
      ReadsBack NewToken.decode NewToken.toJson ∧ ReadsBack Identity.decode Identity.toJson ∧
      ReadsBack Grant.decode Grant.toJson) ∧
    (∀ ms k name, KeyRecord.decode (obj ms) = .ok k → ("key_state", str name) ∈ ms →
      k.toJson.get? "key_state" = some (str ((KeyStatus.names.lookup name).getD .unknown).text)) ∧
    (∀ ms g t, Grant.decode (obj ms) = .ok g → ("token", str t) ∈ ms ∨ ("csrf_token", str t) ∈ ms →
      g.toJson.get? "token" = some (str t) ∧ g.toJson.get? "csrf_token" = none) ∧
    (∀ name ∈ ["parent_id", "serial_number", "user_email", "request_delete_users",
        "request_revoke_users"],
      WritesLacking KeyRecord.decode KeyRecord.toJson name (some null)) ∧
    (∀ name ∈ ["email", "id"], WritesLacking Grant.decode Grant.toJson name (some null)) ∧
    WritesLacking Grant.decode Grant.toJson "cookies" none ∧
    (∀ name ∈ ["visibility", "parent_id"], WritesLacking NewKey.decode NewKey.toJson name none) ∧
    WritesLacking ImportedKey.decode ImportedKey.toJson "visibility" none := by
  refine ⟨⟨KeyRecord.writes.readsBack, KeyPage.writes.readsBack, NewKey.writes.readsBack,
    ImportedKey.writes.readsBack, KeyExport.writes.readsBack, ApiToken.writes.readsBack,
    NewToken.writes.readsBack, Identity.writes.readsBack, Grant.writes.readsBack⟩, ?_, ?_,
    KeyRecord.writes_lacking, Grant.writes_lacking.1,
    Grant.writes_lacking.2, NewKey.writes_lacking, ImportedKey.writes_lacking⟩
  · exact fun ms k name h hm => KeyRecord.state_of_decode h hm
  · exact fun ms g t h hm => Grant.token_of_decode h hm

end SigningConsole
