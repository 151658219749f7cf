import SigningConsole.Proofs.ShownTimestamps
/-!
The texts that name one instant, and what is shown for them.

An instant is named by its date and time at some offset from UTC, with that offset or, in UTC, with
`Z`; or in the plain UTC form (`Instant.Spelled`). At any offset of less than a day its year still
has four digits if it is one of 1 … 9998 in UTC, so that each of the texts is read as the instant
(`Report.readTimestamp?_of_spelled`), and so is the text that is shown, up to the fraction.

Main statement: `Report.spellings_shown_alike`. A leap second at the end of a minute is covered; it
is shown as the second before.
-/

namespace SigningConsole

open Calendar Text Calendar.Reader

namespace Calendar.Instant

variable {t u : Instant} {raw raw' : List Char}

/-! ## Spellings -/

/-- The texts that name an instant. A fraction may have any number of digits. -/
inductive Spelled (t : Instant) : List Char → Prop where
  /-- RFC 3339 at an offset of whole minutes. -/
  | atOffset {minutes : Int} {separator : Char} {fraction : List Char}
      (hminutes : minutes.natAbs < 24 * 60) (hseparator : separator = 'T' ∨ separator = ' ')
      (hfraction : IsFraction (t.civilAt (60 * minutes)).nanos fraction) :
      Spelled t ((t.civilAt (60 * minutes)).written separator fraction (zoneText minutes))
  /-- RFC 3339 in UTC. -/
  | zulu {separator : Char} {fraction : List Char} (hseparator : separator = 'T' ∨ separator = ' ')
      (hfraction : IsFraction t.civil.nanos fraction) :
      Spelled t (t.civil.written separator fraction ['Z'])
  /-- The plain UTC form. -/
  | utc {fraction : List Char} (hfraction : IsFraction t.civil.nanos fraction) :
      Spelled t (t.civil.written ' ' fraction utcZone)

theorem civil_nanos_lt (t : Instant) : t.civil.nanos < nanosPerSecond := Nat.mod_lt _ (by decide)

theorem spelled_rfc3339 (t : Instant) : t.Spelled t.rfc3339 := by
  have htext : t.rfc3339 = t.civil.written 'T' (fractionText t.civil.nanos) ['Z'] := by
    simp [rfc3339, Civil.written]
  rw [htext]
  exact .zulu (.inl rfl) (isFraction_fractionText t.civil_nanos_lt)

theorem spelled_utcText (t : Instant) : t.Spelled t.utcText := by
  rw [utcText_eq]
  exact .utc (isFraction_fractionText t.civil_nanos_lt)

theorem isDateTimeSeparator_of {separator : Char} (h : separator = 'T' ∨ separator = ' ') :
    isDateTimeSeparator separator = true := by
  obtain rfl | rfl := h
  · rfl
  · rfl

/-! ## Years of four digits -/

/-- The year in UTC has four digits, and so has the year of every day around. -/
def FourDigits (t : Instant) : Prop := 1 ≤ t.civil.date.year ∧ t.civil.date.year ≤ 9998

instance (t : Instant) : Decidable t.FourDigits :=
  inferInstanceAs (Decidable (1 ≤ t.civil.date.year ∧ t.civil.date.year ≤ 9998))

theorem FourDigits.seconds_bounds (h : t.FourDigits) :
    yearStart 1 * 86400 ≤ t.seconds ∧ t.seconds < yearStart 9999 * 86400 := by
  have hdiv : t.seconds.fdiv 86400 = t.seconds / 86400 := Int.fdiv_eq_ediv_of_nonneg _ (by decide)
  have hyear : 1 ≤ (Date.ofDays (t.seconds.fdiv 86400)).year ∧
      ¬ 9999 ≤ (Date.ofDays (t.seconds.fdiv 86400)).year :=
    ⟨h.1, Int.not_le.2 (Int.lt_add_one_of_le h.2)⟩
  rw [Date.le_year_ofDays_iff, Date.le_year_ofDays_iff, hdiv] at hyear
  omega

section Offset

variable {offset : Int}

theorem FourDigits.mem_range (h : t.FourDigits) (hoffset : offset.natAbs < 86400) :
    minSecond ≤ t.seconds + offset ∧ t.seconds + offset ≤ maxSecond := by
  have hmin : minSecond = -8334601228800 := rfl
  have hmax : maxSecond = 8210266876799 := rfl
  have hfirst : yearStart 1 = -719162 := by decide
  have hlast : yearStart 9999 = 2932532 := by decide
  have hseconds := h.seconds_bounds
  omega

theorem FourDigits.year_civilAt (h : t.FourDigits) (hoffset : offset.natAbs < 86400) :
    0 ≤ (t.civilAt offset).date.year ∧ (t.civilAt offset).date.year ≤ 9999 := by
  have hfirst : yearStart 0 + 366 = yearStart 1 := by decide
  have hlast : yearStart 9999 + 365 = yearStart 10000 := by decide
  have hdiv : (t.seconds + offset).fdiv 86400 = (t.seconds + offset) / 86400 :=
    Int.fdiv_eq_ediv_of_nonneg _ (by decide)
  have hseconds := h.seconds_bounds
  have hyear : 0 ≤ (t.civilAt offset).date.year ∧ ¬ 10000 ≤ (t.civilAt offset).date.year := by
    show 0 ≤ (Date.ofDays _).year ∧ ¬ 10000 ≤ (Date.ofDays _).year
    rw [Date.le_year_ofDays_iff, Date.le_year_ofDays_iff, hdiv]
    omega
  exact ⟨hyear.1, by omega⟩

end Offset

/-! ## Whole seconds -/

theorem wholeSecond_eq_iff : t.wholeSecond = u.wholeSecond ↔ t.seconds = u.seconds := by
  constructor
  · intro h
    show t.wholeSecond.seconds = u.wholeSecond.seconds
    rw [h]
  · intro h
    unfold wholeSecond
    simp only [h]

/-- The text that is shown is read as the whole second. -/
theorem FourDigits.strict_localText (h : t.FourDigits) :
    strict t.localText = .ok t.wholeSecond := by
  have hlocal : t.wholeSecond.FourDigits := h
  exact Instant.strict_localText (h.mem_range (by decide)).2 (hlocal.year_civilAt (by decide))

theorem FourDigits.consoleText? (h : t.FourDigits) : t.consoleText? = some t.localText := by
  rw [consoleText?_eq, if_pos (h.mem_range (by decide)).2]

/-- Two instants have the same text just when they lie in the same second. -/
theorem FourDigits.localText_eq_iff (ht : t.FourDigits) (hu : u.FourDigits) :
    t.localText = u.localText ↔ t.seconds = u.seconds := by
  rw [← wholeSecond_eq_iff]
  constructor
  · intro h
    have hread := ht.strict_localText
    rw [h, hu.strict_localText] at hread
    exact (Except.ok.inj hread).symm
  · intro h
    unfold localText
    rw [h]

end Calendar.Instant

namespace Report

open Calendar.Instant

variable {t : Instant}

/-- Each of its spellings is read as the instant. -/
theorem readTimestamp?_of_spelled (ht : t.FourDigits) (hleap : t.Regular) {raw : List Char}
    (h : t.Spelled raw) :
    readTimestamp? (String.ofList raw) = some t := by
  cases h with
  | @atOffset minutes _ _ hminutes hseparator hfraction =>
    have hoffset : (60 * minutes).natAbs < 86400 := by omega
    have hdenotes :=
      hleap.civilAt_denotes (show 60 * minutes % 60 = 0 by omega) (ht.mem_range hoffset)
    exact readTimestamp?_of_strict
      (strict_zoneText hdenotes hminutes (ht.year_civilAt hoffset)
        (isDateTimeSeparator_of hseparator) hfraction)
  | zulu hseparator hfraction =>
    have hyear := ht.year_civilAt (show (0 : Int).natAbs < 86400 by decide)
    rw [civilAt_zero] at hyear
    exact readTimestamp?_of_strict
      (strict_zulu hleap.civil_denotes hyear (isDateTimeSeparator_of hseparator) hfraction)
  | utc hfraction =>
    exact readTimestamp?_of_plain (strict_utcZone hleap.civil_denotes hfraction)
      (plain_utcZone hleap.civil_denotes hfraction)

theorem timestamp?_of_spelled (ht : t.FourDigits) (hleap : t.Regular) {raw : List Char}
    (h : t.Spelled raw) :
    timestamp? (String.ofList raw) = some (String.ofList t.localText) := by
  rw [timestamp?_of_read (readTimestamp?_of_spelled ht hleap h), ht.consoleText?]
  rfl

/-- All spellings of an instant are shown as its local time, which is read as its whole second. Two
instants are shown alike, in whatever spellings, just when they lie in the same second. -/
theorem spellings_shown_alike (ht : t.FourDigits) (hleap : t.Regular) :
    (t.Spelled t.rfc3339 ∧ t.Spelled t.utcText) ∧
    (∃ text, t.consoleText? = some text ∧
      Instant.ofRfc3339? (String.ofList text) = some t.wholeSecond ∧
      ∀ raw, t.Spelled raw → timestamp? (String.ofList raw) = some (String.ofList text)) ∧
    ∀ u : Instant, u.FourDigits → (t.consoleText? = u.consoleText? ↔ t.seconds = u.seconds) ∧
      (u.Regular → ∀ raw raw', t.Spelled raw → u.Spelled raw' →
        (timestamp? (String.ofList raw) = timestamp? (String.ofList raw') ↔
          t.seconds = u.seconds)) := by
  refine ⟨⟨t.spelled_rfc3339, t.spelled_utcText⟩,
    ⟨t.localText, ht.consoleText?, ?_, fun raw => timestamp?_of_spelled ht hleap⟩,
    fun u hu => ⟨?_, fun huleap raw raw' hraw hraw' => ?_⟩⟩
  · rw [ofRfc3339?_ofList, ht.strict_localText]
    rfl
  · rw [ht.consoleText?, hu.consoleText?, Option.some_inj]
    exact ht.localText_eq_iff hu
  · rw [timestamp?_of_spelled ht hleap hraw, timestamp?_of_spelled hu huleap hraw', Option.some_inj,
      String.ofList_inj]
    exact ht.localText_eq_iff hu

/-- A quarter of a second into the year 1, as a clock shows it that is almost a day behind, and a
fraction with more digits than are counted. -/
theorem first_year_shown_alike :
    let t : Instant := ⟨-62135596800, 250000000, by decide, by decide⟩
    t.FourDigits ∧ t.Regular ∧ t.Spelled "0000-12-31 00:01:00.2500000009-23:59".toList ∧
      timestamp? "0000-12-31 00:01:00.2500000009-23:59" =
        timestamp? "0001-01-01 00:00:00.250 UTC" := by
  intro t
  have ht : t.FourDigits := by decide +kernel
  have hleap : t.Regular := by decide
  have htext : "0000-12-31 00:01:00.2500000009-23:59".toList =
      (t.civilAt (60 * -1439)).written ' ' ('.' :: "2500000009".toList)
        (zoneText (-1439)) := by decide +kernel
  have hnanos :
      (t.civilAt (60 * -1439)).nanos = fractionNanos "2500000009".toList := by decide +kernel
  have hspelled : t.Spelled "0000-12-31 00:01:00.2500000009-23:59".toList := by
    rw [htext]
    refine .atOffset (by decide) (.inr rfl) ?_
    rw [hnanos]
    exact .digits (by decide) (List.all_eq_true.1 (by decide))
  have hutc : t.utcText = "0001-01-01 00:00:00.250 UTC".toList := by decide +kernel
  obtain ⟨⟨-, hplain⟩, -, halike⟩ := spellings_shown_alike ht hleap
  rw [hutc] at hplain
  refine ⟨ht, hleap, hspelled, ?_⟩
  have hshown := ((halike t ht).2 hleap _ _ hspelled hplain).2 rfl
  rwa [String.ofList_toList, String.ofList_toList] at hshown

end Report

end SigningConsole
