import SigningConsole.Proofs.After
import SigningConsole.Proofs.InstantSums
import SigningConsole.Proofs.WrittenInstants
/-!
Written dates and times as the strict and the plain reader find them.

A date and time is written with a character between its two halves, a fraction and a zone
(`Civil.written`). The strict reader takes all of it up to the zone, if the year has four digits,
and no year with a sign; the zone is then either an offset or none (`Reader.strict_written`). The
plain reader takes every year, and as zone `UTC` only (`Reader.plain_written`). So what one of the
two readers makes of a text depends on nothing but its year and its zone.

The other way round, what the strict reader has read lies within the years of four digits
(`Reader.lt_of_strict`).
-/

namespace SigningConsole.Calendar

open Text

/-- A date and time with what stands between its halves, a fraction and a zone. -/
def Civil.written (c : Civil) (separator : Char) (fraction zone : List Char) : List Char :=
  c.date.text ++ separator :: (c.clock ++ (fraction ++ zone))

/-- The zone of a clock that is some minutes ahead of UTC. -/
def zoneText (minutes : Int) : List Char :=
  (if minutes < 0 then '-' else '+') ::
  (twoDigits (minutes.natAbs / 60) ++ ':' :: twoDigits (minutes.natAbs % 60))

/-- The zone of the plain UTC form. -/
def utcZone : List Char := [' ', 'U', 'T', 'C']

theorem Instant.utcText_eq (t : Instant) :
    t.utcText = t.civil.written ' ' (fractionText t.civil.nanos) utcZone := by
  simp [utcText, Civil.written, utcZone]

namespace Reader

variable {c : Civil} {t : Instant} {minutes ahead : Int} {separator : Char}
  {fraction zone rest : List Char}

/-! ## Offsets -/

theorem endsClock_zoneText (minutes : Int) : EndsClock (zoneText minutes) := by
  unfold zoneText
  split
  · exact endsClock_cons.2 (by decide)
  · exact endsClock_cons.2 (by decide)

theorem endsClock_utcZone : EndsClock utcZone := endsClock_cons.2 (by decide)

theorem offsetDigits_twoDigits (first : Char) {n : Nat} (hfirst : first.toNat ≤ 57)
    (hn : n / 10 + 48 ≤ first.toNat) (rest : List Char) :
    offsetDigits first (twoDigits n ++ rest) = .ok ((n : Int), rest) := by
  have hlength : (twoDigits n).length = 2 :=
    length_zeroPad (length_decimal_le (by decide) (show n < 100 by omega))
  have hvalue : extend 0 (twoDigits n) = n := extend_zeroPad 2 n
  have hdigits : ∀ c ∈ twoDigits n, c.isDigit = true := fun c hc => isDigit_of_mem_zeroPad hc
  match htext : twoDigits n, hlength with
  | [a, b], _ =>
    rw [htext] at hvalue hdigits
    have ha := hdigits a (by simp)
    have hb := hdigits b (by simp)
    have hsum : 10 * (10 * 0 + (a.toNat - 48)) + (b.toNat - 48) = n := hvalue
    have hin : ¬ first < a := by
      have := isDigit_iff.1 hb
      show ¬ first.toNat < a.toNat
      omega
    show (if a.isDigit && b.isDigit then _ else _) = _
    rw [if_pos (by rw [ha, hb]; rfl), if_neg hin]
    congr 2
    omega

/-- A zone is read as its offset in seconds. -/
theorem offset_zoneText (h : minutes.natAbs < 1440) :
    offset (char ':') (zoneText minutes) = .ok (60 * minutes, []) := by
  have hhours := offsetDigits_twoDigits '9' (n := minutes.natAbs / 60) (by decide)
    (show minutes.natAbs / 60 / 10 + 48 ≤ 57 by omega) (':' :: twoDigits (minutes.natAbs % 60))
  have hminutes := offsetDigits_twoDigits '5' (n := minutes.natAbs % 60) (by decide)
    (show minutes.natAbs % 60 / 10 + 48 ≤ 53 by omega) []
  rw [List.append_nil] at hminutes
  unfold zoneText
  by_cases hneg : minutes < 0
  -- the sign stands for both numbers
  · have hseconds :
        -(((minutes.natAbs / 60 : Nat) : Int) * 3600 + ((minutes.natAbs % 60 : Nat) : Int) *
          60) = 60 * minutes := by omega
    rw [if_pos hneg]
    unfold offset signedOffset
    simp only [hhours, char_cons, hminutes, ok_bind, if_true, hseconds]
    rfl
  · have hseconds :
        ((minutes.natAbs / 60 : Nat) : Int) * 3600 + ((minutes.natAbs % 60 : Nat) : Int) * 60 = 60 *
        minutes := by omega
    rw [if_neg hneg]
    unfold offset signedOffset
    simp only [hhours, char_cons, hminutes, ok_bind, Bool.false_eq_true, if_false, hseconds]
    rfl

/-! ## The strict reader -/

/-- With a year of four digits, everything up to the zone is read. -/
theorem strict_written (hc : c.Denotes t ahead) (hyear : 0 ≤ c.date.year ∧ c.date.year ≤ 9999)
    (hseparator : isDateTimeSeparator separator = true) (hfraction : IsFraction c.nanos fraction)
    (hzone : EndsClock zone) :
    strict (c.written separator fraction zone) = offset (char ':') zone >>= fun e =>
      within (-maxOffset) maxOffset e.1 >>= fun o =>
        if e.2.isEmpty then (Fields.ofCivil c).at o else .error .tooLong := by
  obtain ⟨hmonth, hday⟩ := day_le_of_isValid hc.valid
  have hhour := hc.hour_le
  have hminute := hc.minute_le
  have hsecond := hc.second_le
  -- the parts in the order in which they are read
  have htext : c.written separator fraction zone =
      yearText c.date.year ++ '-' :: (twoDigits c.date.month ++ '-' :: (twoDigits c.date.day ++
        separator ::
        (twoDigits c.hour ++ ':' :: (twoDigits c.minute ++ ':' :: (twoDigits c.second ++
          (fraction ++ zone)))))) := by
    simp [Civil.written, Date.text, Civil.clock]
  have hbetween (cs : List Char) : dateTimeSeparator (separator :: cs) = .ok cs := by
    rw [dateTimeSeparator, if_pos hseparator]
  have hmonth' : within 1 12 (c.date.month : Int) = .ok (c.date.month : Int) := within_eq (by omega)
  have hday' : within 1 31 (c.date.day : Int) = .ok (c.date.day : Int) := within_eq (by omega)
  have hhour' : within 0 23 (c.hour : Int) = .ok (c.hour : Int) := within_eq (by omega)
  have hminute' : within 0 59 (c.minute : Int) = .ok (c.minute : Int) := within_eq (by omega)
  have hsecond' : within 0 60 (c.second : Int) = .ok (c.second : Int) := within_eq (by omega)
  unfold strict
  rw [htext, number_yearText hyear (by decide), ok_bind]
  simp only [char_cons, ok_bind, number_twoDigits (Nat.le_refl 2)
    (show c.date.month < 100 by omega), number_twoDigits (Nat.le_refl 2)
      (show c.date.day < 100 by omega),
    number_twoDigits (Nat.le_refl 2) (show c.hour < 100 by omega),
    number_twoDigits (Nat.le_refl 2) (show c.minute < 100 by omega),
    number_twoDigits (Nat.le_refl 2) (show c.second < 100 by omega), hbetween,
    hmonth', hday', hhour', hminute', hsecond', fraction?_append hfraction hzone]
  rfl

/-- A date and time is read at its offset. -/
theorem strict_zoneText (hc : c.Denotes t (60 * minutes)) (hminutes : minutes.natAbs < 1440)
    (hyear : 0 ≤ c.date.year ∧ c.date.year ≤ 9999)
    (hseparator : isDateTimeSeparator separator = true)
    (hfraction : IsFraction c.nanos fraction) :
    strict (c.written separator fraction (zoneText minutes)) = .ok t := by
  have hmax : maxOffset = 86340 := rfl
  have hwithin : within (-maxOffset) maxOffset (60 * minutes) = .ok (60 * minutes) :=
    within_eq (by omega)
  rw [strict_written hc hyear hseparator hfraction (endsClock_zoneText minutes),
    offset_zoneText hminutes, ok_bind]
  dsimp only
  rw [hwithin, ok_bind]
  exact Fields.at_ofCivil hc (by omega)

/-- A date and time in UTC is read with a `Z` after it. -/
theorem strict_zulu (hc : c.Denotes t 0) (hyear : 0 ≤ c.date.year ∧ c.date.year ≤ 9999)
    (hseparator : isDateTimeSeparator separator = true) (hfraction : IsFraction c.nanos fraction) :
    strict (c.written separator fraction ['Z']) = .ok t := by
  rw [strict_written hc hyear hseparator hfraction (endsClock_cons.2 (by decide))]
  exact Fields.at_ofCivil hc (by decide)

/-- A year with a sign is refused. -/
theorem strict_signed (hyear : ¬ (0 ≤ c.date.year ∧ c.date.year ≤ 9999)) :
    strict (c.written separator fraction zone) = .error .invalid := by
  have hsign {sign : Char} (hs : sign.isDigit = false) (cs : List Char) :
      strict (sign :: cs) = .error .invalid := by
    have hnumber : number 4 4 (sign :: cs) = .error .invalid := by
      unfold number
      rw [if_neg (by simp [hs])]
    unfold strict
    rw [hnumber]
    rfl
  unfold Civil.written Date.text yearText
  rw [if_neg hyear]
  split
  · exact hsign (by decide) _
  · exact hsign (by decide) _

/-- The plain form is none of RFC 3339. -/
theorem strict_utcZone (hc : c.Denotes t ahead) (hfraction : IsFraction c.nanos fraction) :
    strict (c.written ' ' fraction utcZone) = .error .invalid := by
  by_cases hyear : 0 ≤ c.date.year ∧ c.date.year ≤ 9999
  · rw [strict_written hc hyear (by decide) hfraction endsClock_utcZone]
    rfl
  · exact strict_signed hyear

/-! ## The plain reader -/

/-- Everything up to the zone is read, which must be `UTC`. -/
theorem plain_written (hc : c.Denotes t ahead) (hfraction : IsFraction c.nanos fraction)
    (hzone : EndsClock zone) :
    plain (c.written ' ' fraction zone) =
      if trimStart zone = ['U', 'T', 'C'] then (Fields.ofCivil c).at 0 else .error .invalid := by
  obtain ⟨hmonth, hday⟩ := day_le_of_isValid hc.valid
  have hhour := hc.hour_le
  have hblank :
      trimStart (' ' :: (c.clock ++ (fraction ++ zone))) = c.clock ++ (fraction ++ zone) := by
    unfold Civil.clock
    rw [List.append_assoc]
    exact trimStart_twoDigits (by omega) _
  have hcolon (cs : List Char) : id (':' :: cs) = ':' :: cs := rfl
  have hhyphen (cs : List Char) : id ('-' :: cs) = '-' :: cs := rfl
  have htime := time_clock hcolon hc.hour_le hc.minute_le hc.second_le hfraction hzone
  unfold plain Civil.written
  rw [date_text hhyphen (isYear_of_isValid hc.valid) hmonth hday, ok_bind]
  show (time id (trimStart (' ' :: (c.clock ++ (fraction ++ zone)))) >>= _) = _
  rw [hblank, htime, ok_bind]
  dsimp only
  split
  · next h =>
    rw [if_pos h]
    rfl
  · next h => rw [if_neg h]

/-- The plain form of an instant is read as the instant. -/
theorem plain_utcZone (hc : c.Denotes t 0) (hfraction : IsFraction c.nanos fraction) :
    plain (c.written ' ' fraction utcZone) = .ok t := by
  rw [plain_written hc hfraction endsClock_utcZone, if_pos (by decide)]
  exact Fields.at_ofCivil hc (by decide)

/-- A zone that is an offset is refused. -/
theorem plain_zoneText (hc : c.Denotes t ahead) (hfraction : IsFraction c.nanos fraction) :
    plain (c.written ' ' fraction (zoneText minutes)) = .error .invalid := by
  have hzone : trimStart (zoneText minutes) ≠ ['U', 'T', 'C'] := by
    unfold zoneText
    split
    · exact fun h => absurd (List.cons.inj h).1 (by decide)
    · exact fun h => absurd (List.cons.inj h).1 (by decide)
  rw [plain_written hc hfraction (endsClock_zoneText minutes), if_neg hzone]

/-! ## What has been read -/

theorem digits_bounds {max : Nat} {n m : Int} {cs : List Char} (hn : 0 ≤ n)
    (h : digits max n cs = .ok (m, rest)) :
    0 ≤ m ∧ m < (n + 1) * (Nat.pow 10 max : Nat) := by
  induction max generalizing n cs with
  | zero =>
    rw [digits] at h
    cases h
    show 0 ≤ m ∧ m < (m + 1) * 1
    omega
  | succ max ih =>
    have hpow : ((Nat.pow 10 (max + 1) : Nat) : Int) = ((Nat.pow 10 max : Nat) : Int) * 10 := rfl
    have hpos : 0 < ((Nat.pow 10 max : Nat) : Int) := Int.natCast_pos.2 (Nat.pow_pos (by decide))
    -- where the digits end early, the number is smaller than it could have become
    have hstop : 0 ≤ n ∧ n < (n + 1) * ((Nat.pow 10 (max + 1) : Nat) : Int) := by
      have hle : (n + 1) * 1 ≤ (n + 1) * ((Nat.pow 10 (max + 1) : Nat) : Int) :=
        Int.mul_le_mul_of_nonneg_left (by omega) (by omega)
      omega
    cases cs with
    | nil =>
      rw [digits] at h
      cases h
      exact hstop
    | cons c cs =>
      rw [digits] at h
      split at h
      · next hc =>
        have hdigit := isDigit_iff.1 hc
        dsimp only at h
        split at h
        · cases h
        · obtain ⟨hm, hlt⟩ := ih (by omega) h
          have hle : (10 * n + ((c.toNat - 48 : Nat) : Int) + 1) * ((Nat.pow 10 max : Nat) : Int) ≤
              ((n + 1) * 10) * ((Nat.pow 10 max : Nat) : Int) :=
            Int.mul_le_mul_of_nonneg_right (by omega) (by omega)
          rw [hpow, Int.mul_comm _ 10, ← Int.mul_assoc]
          omega
      · cases h
        exact hstop

theorem number_bounds {min max : Nat} {n : Int} {cs : List Char}
    (h : number min max cs = .ok (n, rest)) :
    0 ≤ n ∧ n < (Nat.pow 10 max : Nat) := by
  unfold number at h
  split at h
  · split at h
    · cases h
    · have hbounds := digits_bounds (Int.le_refl 0) h
      omega
  · cases h

theorem of_within {low high n m : Int} (h : within low high n = .ok m) : low ≤ m ∧ m ≤ high := by
  unfold within at h
  split at h
  · next hn =>
    cases h
    exact hn
  · cases h

/-- The instant of fields is counted from their date; it lies in a leap second just
when the second is 60. -/
theorem Fields.of_at {f : Fields} (h : f.at ahead = .ok t) :
    ∃ d : Date, d.year = f.year ∧ d.isValid = true ∧ ahead.natAbs < 86400 ∧
      (nanosPerSecond ≤ t.nanos ↔ f.second = 60) ∧
      t.seconds = d.toDays * 86400 + f.hour * 3600 + f.minute * 60 + (if f.second = 60 then 59
        else f.second) - ahead := by
  unfold Fields.at at h
  dsimp only at h
  split at h
  · cases h
  · next hvalid =>
    have hvalid := not_or.1 hvalid
    split at h
    · next u hu =>
      cases h
      obtain ⟨hfraction, hahead⟩ := not_or.1 hvalid.2
      obtain ⟨hseconds, hnanos⟩ := Instant.of?_eq_some hu
      refine ⟨_, rfl, by simpa using hvalid.1, Nat.not_le.1 hahead, ?_, hseconds⟩
      rw [hnanos]
      split <;> omega
    · cases h

/-- A leap second that is read ends a minute, as offsets are of whole minutes. -/
theorem Fields.regular_of_at {f : Fields} (h : f.at ahead = .ok t) (hahead : ahead % 60 = 0) :
    t.Regular := by
  obtain ⟨d, -, -, -, hleap, hseconds⟩ := Fields.of_at h
  intro hnanos
  rw [hseconds, if_pos (hleap.1 hnanos)]
  omega

theorem signedOffset_whole {separator : List Char → Except TimeFault (List Char)} {negative : Bool}
    {cs : List Char} {o : Int} (h : signedOffset separator negative cs = .ok (o, rest)) :
    o % 60 = 0 := by
  unfold signedOffset at h
  obtain ⟨⟨hours, cs⟩, -, h⟩ := exists_of_bind_eq_ok h
  obtain ⟨cs, -, h⟩ := exists_of_bind_eq_ok h
  obtain ⟨⟨minutes, cs⟩, -, h⟩ := exists_of_bind_eq_ok h
  cases h
  cases negative
  · show (hours * 3600 + minutes * 60) % 60 = 0
    omega
  · show -(hours * 3600 + minutes * 60) % 60 = 0
    omega

theorem offset_whole {separator : List Char → Except TimeFault (List Char)}
    {cs : List Char} {o : Int} (h : offset separator cs = .ok (o, rest)) : o % 60 = 0 := by
  unfold offset at h
  split at h
  · cases h
    rfl
  · cases h
    rfl
  · exact signedOffset_whole h
  · exact signedOffset_whole h
  · exact signedOffset_whole h
  · cases h
  · cases h

/-- A leap second in a text of the wider sense ends a minute. -/
theorem regular_of_relaxed {cs : List Char} (h : relaxed cs = .ok t) : t.Regular := by
  unfold relaxed at h
  obtain ⟨⟨⟨year, month, day⟩, cs⟩, -, h⟩ := exists_of_bind_eq_ok h
  obtain ⟨cs, -, h⟩ := exists_of_bind_eq_ok h
  obtain ⟨⟨⟨hour, minute, second, nanos⟩, cs⟩, -, h⟩ := exists_of_bind_eq_ok h
  -- whatever the zone is, what follows it makes an instant of the fields
  have hfields : ∀ ahead : Int, ∀ cs : List Char, ahead % 60 = 0 →
      (if (trimStart cs).isEmpty then
        ({ year, month, day, hour, minute, second, nanos } : Fields).at ahead
        else .error .tooLong) = .ok t → t.Regular := by
    intro ahead cs hahead h
    split at h
    · exact Fields.regular_of_at h hahead
    · cases h
  dsimp only at h
  split at h
  · exact hfields 0 _ rfl h
  · obtain ⟨⟨ahead, cs⟩, hahead, h⟩ := exists_of_bind_eq_ok h
    exact hfields ahead cs (offset_whole hahead) h

/-- The year of a strict text has four digits, and its clock shows a time of day. -/
theorem exists_fields_of_strict {cs : List Char} (h : strict cs = .ok t) :
    ∃ (f : Fields) (ahead : Int), f.at ahead = .ok t ∧ f.year ≤ 9999 ∧ f.hour ≤ 23 ∧ f.minute ≤ 59 ∧
      f.second ≤ 60 := by
  -- one part after the other; month, day and fraction do not matter to the bounds
  unfold strict at h
  obtain ⟨⟨year, cs⟩, hyear, h⟩ := exists_of_bind_eq_ok h
  obtain ⟨cs, -, h⟩ := exists_of_bind_eq_ok h
  obtain ⟨⟨month, cs⟩, -, h⟩ := exists_of_bind_eq_ok h
  obtain ⟨month, -, h⟩ := exists_of_bind_eq_ok h
  obtain ⟨cs, -, h⟩ := exists_of_bind_eq_ok h
  obtain ⟨⟨day, cs⟩, -, h⟩ := exists_of_bind_eq_ok h
  obtain ⟨day, -, h⟩ := exists_of_bind_eq_ok h
  obtain ⟨cs, -, h⟩ := exists_of_bind_eq_ok h
  obtain ⟨⟨hour, cs⟩, -, h⟩ := exists_of_bind_eq_ok h
  obtain ⟨hour, hhour, h⟩ := exists_of_bind_eq_ok h
  obtain ⟨cs, -, h⟩ := exists_of_bind_eq_ok h
  obtain ⟨⟨minute, cs⟩, -, h⟩ := exists_of_bind_eq_ok h
  obtain ⟨minute, hminute, h⟩ := exists_of_bind_eq_ok h
  obtain ⟨cs, -, h⟩ := exists_of_bind_eq_ok h
  obtain ⟨⟨second, cs⟩, -, h⟩ := exists_of_bind_eq_ok h
  obtain ⟨second, hsecond, h⟩ := exists_of_bind_eq_ok h
  obtain ⟨⟨nanos, cs⟩, -, h⟩ := exists_of_bind_eq_ok h
  obtain ⟨⟨o, cs⟩, -, h⟩ := exists_of_bind_eq_ok h
  obtain ⟨o, -, h⟩ := exists_of_bind_eq_ok h
  have hyear : year < (10000 : Nat) := (number_bounds hyear).2
  split at h
  · exact ⟨_, o, h,
      show year ≤ 9999 by omega, (of_within hhour).2, (of_within hminute).2, (of_within hsecond).2⟩
  · cases h

/-- What the strict reader reads comes before the second day of the year 10000. -/
theorem lt_of_strict {cs : List Char} (h : strict cs = .ok t) :
    t.seconds < (yearStart 10000 + 1) * 86400 := by
  obtain ⟨f, o, hat, hyear, hhour, hminute, hsecond⟩ := exists_fields_of_strict h
  obtain ⟨d, hdate, hvalid, ho, -, hseconds⟩ := Fields.of_at hat
  obtain ⟨hmonth, hday⟩ := day_le_of_isValid hvalid
  have hdays := (Date.toDays_mem_year hmonth hday).2
  have hnext := yearStart_mono (show d.year + 1 ≤ 10000 by omega)
  split at hseconds <;> omega

end Reader

end SigningConsole.Calendar
