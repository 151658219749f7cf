import SigningConsole.Console.Keys
import SigningConsole.Proofs.RecordCodec
import SigningConsole.Proofs.ShownTimestamps
/-!
The request for a key that is valid for some days: when there is one, and what it says.

The days are added to the current second, which the calendar must have
(`KeyDescription.expiry?_eq_some`). The expiry is sent in the plain UTC form, with as many digits of
the fraction and of the year as it takes, and the reader of the backend's timestamps takes it as the
same instant (`Report.readTimestamp?_utcText`), which lies in no leap second; only its local time
may be past the last date.

Main statement: `KeyDescription.created_until_expiry`.
-/

namespace SigningConsole

open Calendar Text Calendar.Instant Calendar.Reader

/-- The plain UTC form of an instant is read as the instant. -/
theorem Report.readTimestamp?_utcText {t : Instant} (h : t.Regular) :
    Report.readTimestamp? (String.ofList t.utcText) = some t := by
  have hc := h.civil_denotes
  have hfraction := isFraction_fractionText hc.nanos_lt
  rw [utcText_eq]
  exact readTimestamp?_of_plain (strict_utcZone hc hfraction) (plain_utcZone hc hfraction)

/-- The last of the values at a key. -/
def LastValue (key value : String) (pairs : List (String × String)) : Prop :=
  ∃ before after, pairs = before ++ (key, value) :: after ∧ ∀ e ∈ after, e.1 ≠ key

theorem StringMap.get?_ofList_eq_some_iff {key value : String} {pairs : List (String × String)} :
    (StringMap.ofList pairs).get? key = some value ↔ LastValue key value pairs := by
  rw [StringMap.get?_ofList, List.lookup_eq_some_iff]
  constructor
  · rintro ⟨after, before, hpairs, hafter⟩
    refine ⟨before.reverse, after.reverse, ?_, fun e he => ?_⟩
    · rw [← List.reverse_reverse pairs, hpairs]
      simp
    · simpa [ne_comm] using hafter e (List.mem_reverse.1 he)
  · rintro ⟨before, after, rfl, hafter⟩
    refine ⟨after.reverse, before.reverse, by simp, fun e he => ?_⟩
    simpa [ne_comm] using hafter e (List.mem_reverse.1 he)

namespace KeyDescription

variable {now expiry : Instant} {days : Int} {d : KeyDescription} {parentId : Option Int32}

theorem expiry?_eq_some :
    expiry? now days = some expiry ↔ 0 < days ∧ now.add? (days * 86400) = some expiry := by
  unfold expiry?
  by_cases hpos : 0 < days
  · rw [if_neg (by omega), spanOfDays?]
    constructor
    · intro h
      obtain ⟨span, hspan, h⟩ := Option.bind_eq_some_iff.1 h
      have hlength := eq_of_spanOfSeconds? hspan
      subst hlength
      exact ⟨hpos, h⟩
    · rintro ⟨-, h⟩
      rw [spanOfSeconds?_of_add? h rfl]
      exact h
  · rw [if_pos (by omega)]
    exact iff_of_false nofun fun h => hpos h.1

theorem expiry?_eq_none_iff :
    expiry? now days = none ↔ days ≤ 0 ∨ maxSecond < now.seconds + days * 86400 := by
  have hexists : (∃ expiry, expiry? now days = some expiry) ↔
      0 < days ∧ now.seconds + days * 86400 ≤ maxSecond := by
    constructor
    · rintro ⟨expiry, h⟩
      obtain ⟨hpos, hadd⟩ := expiry?_eq_some.1 h
      exact ⟨hpos, (exists_add?_iff (by omega) now).1 ⟨expiry, hadd⟩⟩
    · rintro ⟨hpos, hle⟩
      obtain ⟨expiry, hadd⟩ := (exists_add?_iff (by omega) now).2 hle
      exact ⟨expiry, expiry?_eq_some.2 ⟨hpos, hadd⟩⟩
  rw [Option.eq_none_iff_forall_ne_some, ← not_exists, hexists]
  omega

theorem toCreate_eq_error_iff {failure : Failure} : d.toCreate now parentId days = .error failure ↔
    failure = .badValidity days ∧ expiry? now days = none := by
  unfold toCreate
  cases expiry? now days with
  | none =>
    exact ⟨fun h => ⟨(Except.error.inj h).symm, rfl⟩, fun h => congrArg Except.error h.1.symm⟩
  | some expiry => exact iff_of_false nofun nofun

/-- There is a request unless no day is asked for or the calendar does not have the expiry.
What it says of the expiry is read as the expiry and shown as its local time, which is there up
to a day before the last instant at least; of each attribute it has the last value, and the
rest as it was given. -/
theorem created_until_expiry (d : KeyDescription) (now : Instant) (parentId : Option Int32)
    (days : Int) :
    ((∃ failure, d.toCreate now parentId days = .error failure) ↔
      days ≤ 0 ∨ maxSecond < now.seconds + days * 86400) ∧
    (∀ failure, d.toCreate now parentId days = .error failure → failure = .badValidity days) ∧
    ∀ body, d.toCreate now parentId days = .ok body →
      (∃ expiry, now.add? (days * 86400) = some expiry ∧
        expiry.seconds = now.seconds + days * 86400 ∧
        Report.readTimestamp? body.expiresAt = some expiry ∧
        Report.timestamp? body.expiresAt = expiry.consoleText?.map String.ofList ∧
        (expiry.seconds + 86400 ≤ maxSecond → ∃ text, expiry.consoleText? = some text ∧
          Report.timestamp? body.expiresAt = some (String.ofList text))) ∧
      (∀ key value, body.attributes.get? key = some value ↔ LastValue key value d.attributes) ∧
      body.name = d.name ∧ body.description = d.description ∧ body.visibility = d.visibility ∧
      body.keyType = d.keyType ∧ body.parentId = parentId := by
  refine ⟨?_, fun failure h => (toCreate_eq_error_iff.1 h).1, fun body h => ?_⟩
  · simp only [toCreate_eq_error_iff, exists_eq_left, expiry?_eq_none_iff]
  · cases hexpiry : expiry? now days with
    | none =>
      rw [toCreate, hexpiry] at h
      cases h
    | some expiry =>
      rw [toCreate, hexpiry] at h
      cases h
      obtain ⟨hpos, hadd⟩ := expiry?_eq_some.1 hexpiry
      obtain ⟨hseconds, hnanos⟩ := add?_parts (by omega) hadd
      have hleap : expiry.Regular :=
        fun h => absurd h (Nat.not_le.2 (hnanos ▸ Nat.mod_lt _ (by decide)))
      have hread := Report.readTimestamp?_utcText hleap
      have hshown := Report.timestamp?_of_read hread
      refine ⟨⟨expiry, hadd, hseconds, hread, hshown, fun hearly => ?_⟩,
        fun key value => StringMap.get?_ofList_eq_some_iff, rfl, rfl, rfl, rfl, rfl⟩
      have hoffset : displayOffset = 28800 := rfl
      have hlocal : expiry.consoleText? = some expiry.localText := by
        rw [consoleText?_eq, if_pos (by omega)]
      exact ⟨expiry.localText, hlocal, by rw [hshown, hlocal]; rfl⟩

/-- A key that is created in a leap second, and whose expiry is the first in a year of five
digits. -/
theorem created_past_four_digits :
    let now : Instant := ⟨253402300799, 1999999999, by decide, by decide⟩
    let d : KeyDescription :=
      { name := "release", description := "", visibility := some .priv, keyType := "pgp"
        attributes := [("key_length", "2048"), ("key_length", "3072")] }
    ∃ body, d.toCreate now none 1 = .ok body ∧ body.attributes.get? "key_length" = some "3072" ∧
      Report.timestamp? body.expiresAt = some "+10000-01-02 07:59:59+08:00" := by
  intro now d
  obtain ⟨hfails, -, hcreated⟩ := created_until_expiry d now none 1
  cases hbody : d.toCreate now none 1 with
  | error failure => exact absurd (hfails.1 ⟨failure, hbody⟩) (by decide)
  | ok body =>
    obtain ⟨⟨expiry, hadd, -, -, hshown, -⟩, hattributes, -⟩ := hcreated body hbody
    have hlocal : (now.add? (1 * 86400)).bind (·.consoleText?) =
        some "+10000-01-02 07:59:59+08:00".toList := by
      decide +kernel
    rw [hadd, Option.bind_some] at hlocal
    refine ⟨body, rfl, (hattributes _ _).2 ⟨[("key_length", "2048")], [], rfl, nofun⟩, ?_⟩
    rw [hshown, hlocal]
    rfl

end KeyDescription

end SigningConsole
