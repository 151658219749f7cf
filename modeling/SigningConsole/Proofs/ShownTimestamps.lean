import SigningConsole.Proofs.ReadInstants
import SigningConsole.Report.Timestamp
/-!
Timestamps as they are shown, and shown timestamps that are shown again.

The text in the display zone is that of the second in which an instant lies, on a clock that is
eight hours ahead (`Instant.consoleText?_eq`); there is none for the last eight hours of the
calendar. Where its year has four digits it is itself RFC 3339 and is read as that second; with a
sign before the year neither reader takes it (`Report.readTimestamp?_localText`). Either way it
is shown as it is.

Main statement: `Report.timestamp_shown_again`.
-/

namespace SigningConsole

open Calendar Text Calendar.Reader

namespace Calendar.Instant

variable {t : Instant}

/-! ## The text in the display zone -/

/-- The beginning of the second in which an instant lies; a leap second counts to the second before
it. -/
def wholeSecond (t : Instant) : Instant :=
  ⟨t.seconds, 0, t.seconds_mem, Nat.zero_lt_of_lt t.nanos_lt⟩

theorem wholeSecond_regular (t : Instant) : t.wholeSecond.Regular :=
  fun h => absurd h (Nat.not_succ_le_zero 999999999)

/-- The date and time of an instant in the display zone. -/
def localText (t : Instant) : List Char :=
  (t.wholeSecond.civilAt displayOffset).written ' ' [] (zoneText 480)

/-- The text in the display zone is that of the whole second, unless the local time is
past the last date. -/
theorem consoleText?_eq (t : Instant) :
    t.consoleText? = if t.seconds + displayOffset ≤ maxSecond then some t.localText else none := by
  have hpos : 0 < displayOffset := by decide
  have hzone : zoneText 480 = ['+', '0', '8', ':', '0', '0'] := by
    show '+' :: (zeroPad 2 (decimal 8) ++ ':' :: zeroPad 2 (decimal 0)) = _
    rw [decimal_of_lt (by decide), decimal_of_lt (by decide)]
    rfl
  unfold consoleText?
  by_cases h : t.seconds + displayOffset ≤ maxSecond
  · obtain ⟨u, hu⟩ := (exists_add?_iff hpos t).2 h
    obtain ⟨hseconds, hnanos⟩ := add?_parts hpos hu
    have hsecond : u.nanos / nanosPerSecond = t.wholeSecond.nanos / nanosPerSecond := by
      rw [hnanos, Nat.div_eq_of_lt (Nat.mod_lt _ (by decide))]
      exact (Nat.zero_div _).symm
    have hdate : u.civil.date = (t.wholeSecond.civilAt displayOffset).date := by
      unfold civil civilAt
      dsimp only
      rw [hseconds]
      rfl
    have hclock : u.civil.clock = (t.wholeSecond.civilAt displayOffset).clock := by
      unfold civil civilAt Civil.clock
      dsimp only
      rw [hseconds, hsecond]
      rfl
    rw [hu, if_pos h]
    show some (u.civil.date.text ++ ' ' :: (u.civil.clock ++ ['+', '0', '8', ':', '0', '0'])) = _
    rw [hdate, hclock, localText, hzone]
    rfl
  · have hnone : t.add? displayOffset = none := by
      refine Option.eq_none_iff_forall_ne_some.2 fun u hu => h ?_
      exact (exists_add?_iff hpos t).1 ⟨u, hu⟩
    rw [hnone, if_neg h]
    rfl

theorem consoleText?_eq_none_iff :
    t.consoleText? = none ↔ maxSecond < t.seconds + displayOffset := by
  rw [consoleText?_eq]
  split <;> simp <;> omega

theorem consoleText?_eq_some {text : List Char} (h : t.consoleText? = some text) :
    t.seconds + displayOffset ≤ maxSecond ∧ text = t.localText := by
  rw [consoleText?_eq] at h
  split at h
  · next hle => exact ⟨hle, (Option.some.inj h).symm⟩
  · cases h

theorem localText_ne_nil (t : Instant) : t.localText ≠ [] := by
  simp [localText, Civil.written]

/-- The local date and time denotes the whole second. -/
theorem localCivil_denotes (h : t.seconds + displayOffset ≤ maxSecond) :
    (t.wholeSecond.civilAt displayOffset).Denotes t.wholeSecond (60 * 480) := by
  have hoffset : displayOffset = 28800 := rfl
  have hmin := t.seconds_mem.1
  exact t.wholeSecond_regular.civilAt_denotes rfl
    ⟨show minSecond ≤ t.seconds + displayOffset by omega, h⟩

theorem strict_localText (h : t.seconds + displayOffset ≤ maxSecond)
    (hyear : 0 ≤ (t.wholeSecond.civilAt displayOffset).date.year ∧
      (t.wholeSecond.civilAt displayOffset).date.year ≤ 9999) : strict
        t.localText = .ok t.wholeSecond :=
  strict_zoneText (localCivil_denotes h) (by decide) hyear (by decide) .none

theorem ofRfc3339?_ofList (cs : List Char) :
    ofRfc3339? (String.ofList cs) = (strict cs).toOption := by
  rw [ofRfc3339?, String.toList_ofList]

theorem ofUtcText?_ofList (cs : List Char) :
    ofUtcText? (String.ofList cs) = (plain cs).toOption := by
  rw [ofUtcText?, String.toList_ofList]

end Calendar.Instant

namespace Report

open Calendar.Instant

variable {raw shown : String} {t : Instant} {cs : List Char}

/-! ## Texts of the backend -/

theorem readTimestamp?_of_strict (h : strict cs = .ok t) :
    readTimestamp? (String.ofList cs) = some t := by
  rw [readTimestamp?, ofRfc3339?_ofList, h]
  rfl

theorem readTimestamp?_of_plain {fault : TimeFault} (hstrict : strict cs = .error fault)
    (h : plain cs = .ok t) :
    readTimestamp? (String.ofList cs) = some t := by
  rw [readTimestamp?, ofRfc3339?_ofList, ofUtcText?_ofList, hstrict, h]
  rfl

theorem timestamp?_of_read (h : readTimestamp? raw = some t) :
    timestamp? raw = t.consoleText?.map String.ofList := by
  have hne : ¬ raw.isEmpty := by
    rw [String.isEmpty_iff]
    rintro rfl
    cases h
  unfold timestamp?
  rw [if_neg hne, h]

theorem timestamp?_of_not_read (hne : raw ≠ "") (h : readTimestamp? raw = none) :
    timestamp? raw = some raw := by
  unfold timestamp?
  rw [if_neg (mt String.isEmpty_iff.1 hne), h]

/-- What is shown: a dash for nothing, a text that is no timestamp as it is, or the local
time of an instant. -/
theorem timestamp?_cases (h : timestamp? raw = some shown) :
    raw = "" ∧ shown = "-" ∨ (raw ≠ "" ∧ readTimestamp? raw = none ∧ shown = raw) ∨
      ∃ t, readTimestamp? raw = some t ∧ t.seconds + displayOffset ≤ maxSecond ∧
        shown = String.ofList t.localText := by
  by_cases hempty : raw = ""
  · subst hempty
    exact .inl ⟨rfl, (Option.some.inj h).symm⟩
  · cases hread : readTimestamp? raw with
    | none =>
      rw [timestamp?_of_not_read hempty hread] at h
      exact .inr (.inl ⟨hempty, rfl, (Option.some.inj h).symm⟩)
    | some t =>
      rw [timestamp?_of_read hread] at h
      obtain ⟨text, htext, rfl⟩ := Option.map_eq_some_iff.1 h
      obtain ⟨hle, rfl⟩ := consoleText?_eq_some htext
      exact .inr (.inr ⟨t, rfl, hle, rfl⟩)

/-! ## Shown texts -/

/-- A shown text is read as the second that it shows, or not at all. -/
theorem readTimestamp?_localText (h : t.seconds + displayOffset ≤ maxSecond) :
    readTimestamp? (String.ofList t.localText) = some t.wholeSecond ∨
      readTimestamp? (String.ofList t.localText) = none := by
  by_cases hyear : 0 ≤ (t.wholeSecond.civilAt displayOffset).date.year ∧
      (t.wholeSecond.civilAt displayOffset).date.year ≤ 9999
  · exact .inl (readTimestamp?_of_strict (strict_localText h hyear))
  · have hstrict : strict t.localText = .error .invalid := strict_signed hyear
    have hplain : plain t.localText = .error .invalid := plain_zoneText (localCivil_denotes h) .none
    refine .inr ?_
    rw [readTimestamp?, ofRfc3339?_ofList, ofUtcText?_ofList, hstrict, hplain]
    rfl

theorem timestamp?_localText (h : t.seconds + displayOffset ≤ maxSecond) :
    timestamp? (String.ofList t.localText) = some (String.ofList t.localText) := by
  obtain hread | hread := readTimestamp?_localText h
  · have hconsole : t.wholeSecond.consoleText? = some t.localText := by
      rw [consoleText?_eq]
      exact if_pos h
    rw [timestamp?_of_read hread, hconsole]
    rfl
  · have hne : String.ofList t.localText ≠ "" := by
      rw [← String.ofList_nil]
      exact fun hnil => localText_ne_nil t (String.ofList_inj.1 hnil)
    exact timestamp?_of_not_read hne hread

/-- What is shown is shown as it is. -/
theorem timestamp_shown_again (h : timestamp? raw = some shown) :
    timestamp? shown = some shown := by
  obtain ⟨-, rfl⟩ | ⟨-, -, rfl⟩ | ⟨t, -, hle, rfl⟩ := timestamp?_cases h
  · rfl
  · exact h
  · exact timestamp?_localText hle

/-- A leap second at the end of the last year of four digits is shown in a year with a sign, and
that text as it is. -/
theorem leap_second_shown_again :
    timestamp? "9999-12-31T23:59:60.5Z" = some "+10000-01-01 07:59:59+08:00" ∧
      timestamp? "+10000-01-01 07:59:59+08:00" = some "+10000-01-01 07:59:59+08:00" := by
  have hshown : timestamp? "9999-12-31T23:59:60.5Z" = some "+10000-01-01 07:59:59+08:00" := by
    decide +kernel
  exact ⟨hshown, timestamp_shown_again hshown⟩

end Report

end SigningConsole
