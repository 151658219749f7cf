import SigningConsole.Proofs.ReadInstants
import SigningConsole.Proofs.RecordValues
import SigningConsole.Proofs.Store
import SigningConsole.Proofs.WrittenInstants
import SigningConsole.Session.Codec
/-!
The text of a session file is read as the session that was written, unless its expiry
cannot be written.

A session is written as a value for each field of its record, or none for what it lacks, and every
value decodes to what it was made of (`Session.decode_toJson`); of the expiry that is so where its
text names it (`Session.Writable`). The values can all be read as they are printed, so nothing is
lost on the way through the text.
-/

namespace SigningConsole

open Calendar Json Text

@[simp] theorem Calendar.Instant.arrange_toJson (order : MemberOrder) (t : Instant) :
    order.arrange t.toJson = t.toJson := arrange_str order _

theorem Calendar.Instant.Regular.toOption_toJson {t : Instant} (h : t.Regular) :
    toOption Instant.decode t.toJson = .ok (some t) := by
  have hread : Instant.decode t.toJson = .ok t := by
    unfold Instant.decode Instant.toJson
    dsimp only
    rw [String.toList_ofList, Reader.relaxed_rfc3339 h]
  show (Instant.decode t.toJson).map some = _
  rw [hread]
  rfl

/-- An instant that is read from a field lies in no leap second that does not end a minute. -/
theorem Calendar.Instant.regular_of_get? {found : Record.Found} {name : String} {t : Instant}
    (h : found.get? name Instant.decode = .ok (some t)) : t.Regular := by
  have hread : ∀ v, Instant.decode v = .ok t → t.Regular := by
    intro v hv
    unfold Instant.decode at hv
    split at hv
    · split at hv
      · next u hu =>
        cases hv
        exact Reader.regular_of_relaxed hu
      · cases hv
    · cases hv
  unfold Record.Found.get? Record.Found.getD at h
  split at h
  · next v _ =>
    unfold toOption at h
    split at h
    · cases h
    · obtain ⟨u, hu, hut⟩ := exists_of_map_eq_ok h
      cases hut
      exact hread v hu
  · cases h

@[simp] theorem Calendar.Instant.readable_toJson {depth : Nat} (t : Instant) :
    Parser.Readable depth t.toJson :=
  .str _

@[simp] theorem CredentialKind.decode_text (k : CredentialKind) :
    CredentialKind.decode (str k.text) = .ok k := by
  cases k <;> rfl

namespace Session

/-- The values of the fields. -/
def values (s : Session) : List (Option Json) :=
  [some (str s.token), some (str s.kind.text), ofTextMap? s.cookies, s.email.map str,
    s.userId.map ofInt32, s.expiresAt.map Instant.toJson]

/-- The members stand in the order of the fields. -/
theorem members_eq (s : Session) : s.members = present (record.slots s.values) := by
  obtain ⟨token, kind, cookies, email, userId, expiresAt⟩ := s
  unfold members values ofTextMap?
  dsimp only
  cases cookies.isEmpty <;> cases email <;> cases userId <;> cases expiresAt <;> rfl

theorem record_named : record.Named := by simp [Record.Named, record]

theorem Writable.fills {s : Session} (h : s.Writable) :
    Record.Fills .written record.fields s.values := by
  have hexpires : ∀ stop, s.expiresAt = some stop →
      toOption Instant.decode stop.toJson = .ok (some stop) :=
    fun stop hstop => (h stop hstop).toOption_toJson
  simp +contextual [Record.Fills, record, values, hexpires]

/-- What is written is read back. -/
theorem Writable.decode_toJson {s : Session} (h : s.Writable) : decode s.toJson = .ok s := by
  obtain ⟨found, hread, hfound⟩ := Record.read_write record_named h.fills
  have hread : record.read s.toJson = .ok found := by
    rw [toJson, members_eq]
    exact hread
  have hcookies : found.getD "cookies" toTextMap ∅ = .ok s.cookies :=
    Record.Found.getD_of_lookup_ofTextMap? (hfound "cookies")
  have hemail : found.get? "email" toText = .ok s.email :=
    Record.Found.get?_of_lookup (hfound "email") (by simp)
  have huser : found.get? "user_id" toInt32 = .ok s.userId :=
    Record.Found.get?_of_lookup (hfound "user_id") (by simp)
  have hexpires : found.get? "expires_at" Instant.decode = .ok s.expiresAt :=
    Record.Found.get?_of_lookup (hfound "expires_at") fun stop hstop =>
      (h stop hstop).toOption_toJson
  unfold decode
  rw [hread]
  simp only [ok_bind, hcookies, hemail, huser, hexpires]
  simp [Record.Found.get, hfound, Record.slots, record, values, List.lookup_cons]

theorem readable_toJson (s : Session) (depth : Nat) : Parser.Readable (depth + 4) s.toJson := by
  rw [toJson, members_eq]
  exact Record.readable_write (by simp [values])

/-- What is read can be written again. -/
theorem writable_of_decode {s : Session} {v : Json} (h : decode v = .ok s) : s.Writable := by
  unfold decode at h
  obtain ⟨found, -, h⟩ := exists_of_bind_eq_ok h
  obtain ⟨token, -, h⟩ := exists_of_bind_eq_ok h
  obtain ⟨kind, -, h⟩ := exists_of_bind_eq_ok h
  obtain ⟨cookies, -, h⟩ := exists_of_bind_eq_ok h
  obtain ⟨email, -, h⟩ := exists_of_bind_eq_ok h
  obtain ⟨userId, -, h⟩ := exists_of_bind_eq_ok h
  obtain ⟨expiresAt, hexpires, h⟩ := exists_of_bind_eq_ok h
  cases h
  rintro stop rfl
  exact Calendar.Instant.regular_of_get? hexpires

theorem writable_of_ofFileText {s : Session} {text : String} (h : ofFileText text = .ok (some s)) :
    s.Writable := by
  unfold ofFileText at h
  split at h
  · cases h
  · obtain ⟨s', hs', hss'⟩ := exists_of_map_eq_ok h
    cases hss'
    unfold readRecord decodeAs at hs'
    split at hs'
    · cases hs'
    · next v _ =>
      cases hd : decode v with
      | ok s'' =>
        rw [hd] at hs'
        cases hs'
        exact writable_of_decode hd
      | error e =>
        rw [hd] at hs'
        cases hs'

theorem allBlank_fileText (s : Session) : allBlank s.fileText = false := by
  have hbrace : ∃ cs, prettyChars 0 s.toJson = '{' :: cs := by
    unfold toJson
    cases s.members with
    | nil => exact ⟨_, rfl⟩
    | cons m ms => exact ⟨_, rfl⟩
  obtain ⟨cs, hcs⟩ := hbrace
  unfold allBlank fileText pretty
  rw [String.toList_ofList, hcs, List.all_cons]
  rfl

/-- The text of a session file is read as the session. -/
theorem Writable.ofFileText_fileText {s : Session} (h : s.Writable) :
    ofFileText s.fileText = .ok (some s) := by
  have hreadable : Parser.Readable Parser.maxDepth s.toJson := s.readable_toJson _
  have hwanted : ∀ m ∈ s.members, (record.field? m.1).isSome = true := by
    intro m hm
    rw [members_eq] at hm
    exact Record.isSome_field? record_named hm
  have hparse :
      parseSelected? (fun key => (record.field? key).isSome) s.toJson.pretty = some s.toJson :=
    parseSelected?_pretty hreadable hwanted
  have hread : Json.readRecord record decode s.fileText = .ok s := by
    unfold readRecord fileText
    rw [hparse]
    show (decode s.toJson).mapError _ = _
    rw [h.decode_toJson]
    rfl
  unfold ofFileText
  rw [allBlank_fileText, if_neg (by decide), hread]
  rfl

end Session

end SigningConsole
