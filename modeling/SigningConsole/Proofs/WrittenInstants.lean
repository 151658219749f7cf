import SigningConsole.Calendar.Display
import SigningConsole.Calendar.Reader
import SigningConsole.Proofs.CivilDates
import SigningConsole.Proofs.Numerals
/-!
The RFC 3339 text of an instant is read as the instant.

Each reader is shown to take what the writer of its part has written, whatever follows, so that the
parts of a text are read one after the other: the year with its sign, two digits for the other
numbers, and a fraction of any number of digits (`IsFraction`), of which 3, 6 or 9 are written. What
they give is the date and time of the instant at an offset (`Civil.Denotes`), of which `Fields.at`
makes the instant again; a leap second comes back from its second 60, and one that does not end a
minute is written as the second after it and does not come back.
-/

namespace SigningConsole.Calendar

open Text

namespace Reader

variable {rest : List Char}

/-! ## Numbers -/

/-- Digits that are all there is up to `max`, or that end in time, are read as their number. -/
theorem digits_append {ds rest : List Char} {max n : Nat} (hd : ∀ c ∈ ds, c.isDigit = true)
    (hmax : ds.length ≤ max) (hend : ds.length = max ∨ NoDigit rest)
    (hle : (extend n ds : Int) ≤ maxNumber) :
    digits max n (ds ++ rest) = .ok ((extend n ds : Int), rest) := by
  induction ds generalizing max n with
  | nil =>
    show digits max n rest = .ok ((n : Int), rest)
    cases max with
    | zero => rw [digits]
    | succ max =>
      have hrest : NoDigit rest := hend.resolve_left (by simp)
      cases rest with
      | nil => rw [digits]
      | cons c rest =>
        rw [digits, if_neg]
        simp [noDigit_cons.1 hrest]
  | cons c ds ih =>
    rw [List.length_cons] at hmax hend
    obtain ⟨max, rfl⟩ : ∃ m, max = m + 1 := ⟨max - 1, by omega⟩
    rw [extend_cons] at hle ⊢
    have hnext : (10 * (n : Int) + ((c.toNat - 48 : Nat) : Int)) =
        ((10 * n + (c.toNat - 48) : Nat) : Int) := by omega
    have hfits : ¬ maxNumber < ((10 * n + (c.toNat - 48) : Nat) : Int) := by
      have := le_extend (10 * n + (c.toNat - 48)) ds
      omega
    rw [List.cons_append, digits, if_pos (hd c List.mem_cons_self)]
    dsimp only
    rw [hnext, if_neg hfits]
    exact ih (fun d hd' => hd d (List.mem_cons_of_mem _ hd')) (by omega)
      (hend.imp_left (by omega)) hle

theorem number_append {ds rest : List Char} {min max : Nat} (hd : ∀ c ∈ ds, c.isDigit = true)
    (hmin : min ≤ ds.length) (hmax : ds.length ≤ max) (hend : ds.length = max ∨ NoDigit rest)
    (hle : (extend 0 ds : Int) ≤ maxNumber) :
    number min max (ds ++ rest) = .ok ((extend 0 ds : Int), rest) := by
  have hall : ((ds ++ rest).take min).all Char.isDigit = true := by
    rw [List.take_append_of_le_length hmin, List.all_eq_true]
    exact fun c hc => hd c (List.mem_of_mem_take hc)
  have hlong : ¬ (ds ++ rest).length < min := by
    rw [List.length_append]
    omega
  unfold number
  rw [if_pos hall, if_neg hlong]
  exact digits_append hd hmax hend hle

theorem trimStart_cons {c : Char} (h : isBlank c = false) (cs : List Char) :
    trimStart (c :: cs) = c :: cs := by
  unfold trimStart
  rw [List.dropWhile_cons, h]
  rfl

theorem isBlank_of_isDigit {c : Char} (h : c.isDigit = true) : isBlank c = false := by
  have hbounds := isDigit_iff.1 h
  simp only [isBlank, Bool.or_eq_false_iff, Bool.and_eq_false_iff, decide_eq_false_iff_not,
    beq_eq_false_iff_ne]
  omega

/-! ## Two digits -/

theorem twoDigits_spec {n : Nat} (h : n < 100) :
    ∃ a b, twoDigits n = [a, b] ∧ a.isDigit = true := by
  have hlength : (twoDigits n).length = 2 := length_zeroPad (length_decimal_le (by decide) h)
  have hdigits : ∀ c ∈ twoDigits n, c.isDigit = true := fun c hc => isDigit_of_mem_zeroPad hc
  match twoDigits n, hlength, hdigits with
  | [a, b], _, hdigits => exact ⟨a, b, rfl, hdigits a List.mem_cons_self⟩

theorem number_twoDigits {n min : Nat} (hmin : min ≤ 2) (h : n < 100) (rest : List Char) :
    number min 2 (twoDigits n ++ rest) = .ok ((n : Int), rest) := by
  have hmax : maxNumber = 9223372036854775807 := by decide
  have hlength : (twoDigits n).length = 2 := length_zeroPad (length_decimal_le (by decide) h)
  have hvalue : extend 0 (twoDigits n) = n := extend_zeroPad 2 n
  have hnumber : number min 2 (twoDigits n ++ rest) = .ok ((extend 0 (twoDigits n) : Int), rest) :=
    number_append (fun c hc => isDigit_of_mem_zeroPad hc) (by omega) (by omega)
      (.inl hlength) (by omega)
  rw [hvalue] at hnumber
  exact hnumber

theorem trimStart_twoDigits {n : Nat} (h : n < 100) (rest : List Char) :
    trimStart (twoDigits n ++ rest) = twoDigits n ++ rest := by
  obtain ⟨a, b, hab, ha⟩ := twoDigits_spec h
  rw [hab]
  exact trimStart_cons (isBlank_of_isDigit ha) _

theorem unsigned_twoDigits {n : Nat} (h : n < 100) (rest : List Char) :
    unsigned 2 (twoDigits n ++ rest) = .ok ((n : Int), rest) := by
  unfold unsigned
  rw [trimStart_twoDigits h]
  exact number_twoDigits (by decide) h rest

/-! ## Years -/

/-- The years that can be read. -/
def IsYear (y : Int) : Prop := Int32.minValue.toInt ≤ y ∧ y ≤ Int32.maxValue.toInt

theorem within_eq {low high n : Int} (h : low ≤ n ∧ n ≤ high) : within low high n = .ok n := by
  unfold within
  rw [if_pos h]

theorem year_minus {cs : List Char} {n : Int} (hn : number 1 cs.length.succ cs = .ok (n, rest))
    (hy : IsYear (-n)) :
    year ('-' :: cs) = .ok (-n, rest) := by
  unfold year
  rw [trimStart_cons (by decide)]
  show (number 1 cs.length.succ cs).bind _ = _
  rw [hn]
  show (within _ _ (-n)).bind _ = _
  rw [within_eq hy]
  rfl

theorem year_plus {cs : List Char} {n : Int} (hn : number 1 cs.length.succ cs = .ok (n, rest))
    (hy : IsYear n) :
    year ('+' :: cs) = .ok (n, rest) := by
  unfold year
  rw [trimStart_cons (by decide)]
  show (number 1 cs.length.succ cs).bind _ = _
  rw [hn]
  show (within _ _ n).bind _ = _
  rw [within_eq hy]
  rfl

theorem year_digit {c : Char} {cs : List Char} {n : Int} (hc : c.isDigit = true)
    (hn : number 1 4 (c :: cs) = .ok (n, rest)) (hy : IsYear n) :
    year (c :: cs) = .ok (n, rest) := by
  unfold year
  rw [trimStart_cons (isBlank_of_isDigit hc)]
  split
  · rename_i h
    rw [(List.cons.inj h).1] at hc
    exact absurd hc (by decide)
  · rename_i h
    rw [(List.cons.inj h).1] at hc
    exact absurd hc (by decide)
  · rw [hn]
    show (within _ _ n).bind _ = _
    rw [within_eq hy]
    rfl

/-- The digits of a year, four or more. -/
theorem number_yearDigits {n min max : Nat} (hmin : min ≤ 4) (hn : n < 10000000000)
    (hmax : (zeroPad 4 (decimal n)).length ≤ max)
    (hend : (zeroPad 4 (decimal n)).length = max ∨ NoDigit rest) :
    number min max (zeroPad 4 (decimal n) ++ rest) = .ok ((n : Int), rest) := by
  have hlimit : maxNumber = 9223372036854775807 := by decide
  have hlength := le_length_zeroPad 4 (decimal n)
  have hvalue := extend_zeroPad 4 n
  have hnumber : number min max (zeroPad 4 (decimal n) ++ rest) =
      .ok ((extend 0 (zeroPad 4 (decimal n)) : Int), rest) :=
    number_append (fun c hc => isDigit_of_mem_zeroPad hc) (by omega) hmax hend (by omega)
  rw [hvalue] at hnumber
  exact hnumber

/-- A year of four digits, without a sign. -/
theorem number_yearText {y : Int} (h : 0 ≤ y ∧ y ≤ 9999) {min : Nat} (hmin : min ≤ 4)
    (rest : List Char) :
    number min 4 (yearText y ++ rest) = .ok (y, rest) := by
  have hlength : (zeroPad 4 (decimal y.toNat)).length = 4 :=
    length_zeroPad (length_decimal_le (by decide) (show y.toNat < 10000 by omega))
  have hnumber : number min 4 (zeroPad 4 (decimal y.toNat) ++ rest) = .ok ((y.toNat : Int), rest) :=
    number_yearDigits hmin (by omega) (Nat.le_of_eq hlength) (.inl hlength)
  rw [Int.toNat_of_nonneg h.1] at hnumber
  unfold yearText
  rw [if_pos h]
  exact hnumber

/-- A year is read as it is written, with or without a sign. -/
theorem year_yearText {y : Int} (h : IsYear y) (rest : List Char) :
    year (yearText y ++ '-' :: rest) = .ok (y, '-' :: rest) := by
  have hmin : Int32.minValue.toInt = -2147483648 := by decide
  have hmax : Int32.maxValue.toInt = 2147483647 := by decide
  have hbounds : -2147483648 ≤ y ∧ y ≤ 2147483647 := by
    unfold IsYear at h
    omega
  by_cases hfour : 0 ≤ y ∧ y ≤ 9999
  · have hnumber : number 1 4 (yearText y ++ '-' :: rest) = .ok (y, '-' :: rest) :=
      number_yearText hfour (by decide) _
    have hdigits : ∀ c ∈ yearText y, c.isDigit = true := by
      unfold yearText
      rw [if_pos hfour]
      exact fun c hc => isDigit_of_mem_zeroPad hc
    cases hds : yearText y with
    | nil =>
      rw [hds] at hnumber
      cases hnumber
    | cons c ds =>
      rw [hds] at hnumber
      exact year_digit (hdigits c (hds ▸ List.mem_cons_self)) hnumber h
  · have hnumber : number 1 (zeroPad 4 (decimal y.natAbs) ++ '-' :: rest).length.succ
        (zeroPad 4 (decimal y.natAbs) ++ '-' :: rest) = .ok ((y.natAbs : Int), '-' :: rest) := by
      refine number_yearDigits (by decide) (by omega) ?_ (.inr (noDigit_cons.2 (by decide)))
      rw [List.length_append]
      omega
    unfold yearText
    rw [if_neg hfour]
    by_cases hneg : y < 0
    · have hback : -(y.natAbs : Int) = y := by omega
      have hyear := year_minus hnumber (hback.symm ▸ h)
      rw [hback] at hyear
      rw [if_pos hneg]
      exact hyear
    · have hback : (y.natAbs : Int) = y := by omega
      have hyear := year_plus hnumber (hback.symm ▸ h)
      rw [hback] at hyear
      rw [if_neg hneg]
      exact hyear

/-! ## Dates and times of day -/

theorem char_cons (c : Char) (cs : List Char) : char c (c :: cs) = .ok cs := by
  rw [char, if_pos rfl]

/-- A reader that has read goes on with what it has read. -/
theorem ok_bind {α β : Type} (a : α) (k : α → Except TimeFault β) : (Except.ok a >>= k) = k a := rfl

/-- A date is read as it is written, whatever may stand before the hyphens. -/
theorem date_text {gap : List Char → List Char}
    (hgap : ∀ cs, gap ('-' :: cs) = '-' :: cs) {d : Date} (hy : IsYear d.year)
    (hm : 1 ≤ d.month ∧ d.month ≤ 12) (hd : 1 ≤ d.day ∧ d.day ≤ 31) (rest : List Char) :
    date gap (d.text ++ rest) = .ok ((d.year, (d.month : Int), (d.day : Int)), rest) := by
  have htext : d.text ++ rest =
      yearText d.year ++ '-' :: (twoDigits d.month ++ '-' :: (twoDigits d.day ++ rest)) := by
    simp [Date.text]
  have hmonth : within 1 12 (d.month : Int) = .ok (d.month : Int) := within_eq (by omega)
  have hday : within 1 31 (d.day : Int) = .ok (d.day : Int) := within_eq (by omega)
  unfold date
  rw [htext, year_yearText hy, ok_bind]
  simp only [hgap, char_cons, unsigned_twoDigits (show d.month < 100 by omega), hmonth,
    unsigned_twoDigits (show d.day < 100 by omega), hday, ok_bind]
  rfl

/-! ## Fractions -/

/-- The nanoseconds that the digits of a fraction make; digits after the ninth are passed over. -/
def fractionNanos (ds : List Char) : Nat :=
  extend 0 (ds.take 9) * Nat.pow 10 (9 - (ds.take 9).length)

/-- A fraction that makes a number of nanoseconds: digits after a point, or nothing at all. -/
inductive IsFraction : Nat → List Char → Prop where
  | none : IsFraction 0 []
  | digits {ds : List Char} (hne : ds ≠ []) (hd : ∀ c ∈ ds, c.isDigit = true) :
      IsFraction (fractionNanos ds) ('.' :: ds)

/-- The text does not go on with a digit or with a fraction. -/
def EndsClock (cs : List Char) : Prop := ∀ c ∈ cs.head?, c.isDigit = false ∧ c ≠ '.'

theorem endsClock_cons {c : Char} {cs : List Char} :
    EndsClock (c :: cs) ↔ c.isDigit = false ∧ c ≠ '.' := by
  simp [EndsClock]

theorem EndsClock.noDigit {cs : List Char} (h : EndsClock cs) : NoDigit cs := fun c hc => (h c hc).1

/-- A fraction of `w` digits counts units of which `10 ^ k` nanoseconds make one. -/
theorem isFraction_zeroPad {n w k : Nat} (hw : 0 < w) (hk : w + k = 9) (hn : n < Nat.pow 10 w) :
    IsFraction (n * Nat.pow 10 k) ('.' :: zeroPad w (decimal n)) := by
  have hlength : (zeroPad w (decimal n)).length = w := length_zeroPad (length_decimal_le hw hn)
  have htake : (zeroPad w (decimal n)).take 9 = zeroPad w (decimal n) :=
    List.take_of_length_le (by omega)
  have hvalue : fractionNanos (zeroPad w (decimal n)) = n * Nat.pow 10 k := by
    unfold fractionNanos
    rw [htake, extend_zeroPad, hlength, show 9 - w = k by omega]
  rw [← hvalue]
  refine .digits (fun hnil => ?_) fun c hc => isDigit_of_mem_zeroPad hc
  rw [hnil] at hlength
  exact absurd hlength (Nat.ne_of_lt hw)

theorem isFraction_fractionText {nanos : Nat} (h : nanos < nanosPerSecond) :
    IsFraction nanos (fractionText nanos) := by
  have hbound : nanos < 1000000000 := h
  unfold fractionText
  split
  · next hzero =>
    rw [hzero]
    exact .none
  · split
    · have hmillis : nanos / 1000000 * Nat.pow 10 6 = nanos :=
        show nanos / 1000000 * 1000000 = nanos by omega
      have hfraction :=
        isFraction_zeroPad (w := 3) (k := 6) (by decide) rfl (show nanos / 1000000 < 1000 by omega)
      rw [hmillis] at hfraction
      exact hfraction
    · split
      · have hmicros : nanos / 1000 * Nat.pow 10 3 = nanos :=
          show nanos / 1000 * 1000 = nanos by omega
        have hfraction := isFraction_zeroPad (w := 6) (k := 3) (by decide) rfl
          (show nanos / 1000 < 1000000 by omega)
        rw [hmicros] at hfraction
        exact hfraction
      · have hfraction := isFraction_zeroPad (w := 9) (k := 0) (by decide) rfl hbound
        rw [show nanos * Nat.pow 10 0 = nanos from Nat.mul_one nanos] at hfraction
        exact hfraction

/-- The first nine digits of a fraction make its number, and the others are passed over. -/
theorem fraction_digits {ds rest : List Char} (hne : ds ≠ []) (hd : ∀ c ∈ ds, c.isDigit = true)
    (hrest : NoDigit rest) : fraction (ds ++ rest) = .ok (fractionNanos ds, rest) := by
  have hmax : maxNumber = 9223372036854775807 := by decide
  have hparts : ds ++ rest = ds.take 9 ++ (ds.drop 9 ++ rest) := by
    rw [← List.append_assoc, List.take_append_drop]
  have htake : ∀ c ∈ ds.take 9, c.isDigit = true := fun c hc => hd c (List.mem_of_mem_take hc)
  have hlength : (ds.take 9).length = min 9 ds.length := List.length_take
  have hpos : 0 < ds.length := List.length_pos_iff.2 hne
  have hvalue : extend 0 (ds.take 9) < 1000000000 := by
    have hlt := extend_lt htake 0
    have hpow : Nat.pow 10 (ds.take 9).length ≤ Nat.pow 10 9 :=
      Nat.pow_le_pow_right (by decide) (by omega)
    rw [Nat.zero_add, Nat.one_mul] at hlt
    exact Nat.lt_of_lt_of_le hlt hpow
  have hend : (ds.take 9).length = 9 ∨ NoDigit (ds.drop 9 ++ rest) := by
    by_cases hlong : 9 ≤ ds.length
    · exact .inl (by omega)
    · rw [List.drop_of_length_le (by omega)]
      exact .inr hrest
  have hnumber : number 1 9 (ds.take 9 ++ (ds.drop 9 ++ rest)) =
      .ok ((extend 0 (ds.take 9) : Int), ds.drop 9 ++ rest) :=
    number_append htake (by omega) (by omega) hend (by omega)
  have hused : (ds.take 9 ++ (ds.drop 9 ++ rest)).length -
      (ds.drop 9 ++ rest).length = (ds.take 9).length := by
    rw [List.length_append]
    omega
  have hdrop : (ds.drop 9 ++ rest).dropWhile Char.isDigit = rest :=
    (cut_append (fun c hc => hd c (List.mem_of_mem_drop hc)) hrest).2
  unfold fraction
  rw [hparts, hnumber, ok_bind]
  dsimp only
  rw [hused, hdrop]
  rfl

/-- A fraction is read as what it makes. -/
theorem fraction?_append {nanos : Nat} {text : List Char} (h : IsFraction nanos text)
    (hrest : EndsClock rest) :
    fraction? (text ++ rest) = .ok (nanos, rest) := by
  cases h with
  | none =>
    rw [List.nil_append]
    cases rest with
    | nil => rfl
    | cons c rest =>
      unfold fraction?
      split
      · next h => exact absurd (List.cons.inj h).1 (endsClock_cons.1 hrest).2
      · rfl
  | digits hne hd => exact fraction_digits hne hd hrest.noDigit

/-! ## Times of day -/

/-- A time of day is read as it is written, whatever may stand before the colons. -/
theorem time_clock {gap : List Char → List Char}
    (hgap : ∀ cs, gap (':' :: cs) = ':' :: cs) {c : Civil} (hh : c.hour ≤ 23) (hm : c.minute ≤ 59)
    (hs : c.second ≤ 60) {text : List Char} (hf : IsFraction c.nanos text)
    (hrest : EndsClock rest) :
    time gap (c.clock ++ (text ++ rest)) =
      .ok (((c.hour : Int), (c.minute : Int), (c.second : Int), c.nanos), rest) := by
  have htext : c.clock ++ (text ++ rest) = twoDigits c.hour ++
      ':' :: (twoDigits c.minute ++ ':' :: (twoDigits c.second ++ (text ++ rest))) := by
    simp [Civil.clock]
  have hhour : within 0 23 (c.hour : Int) = .ok (c.hour : Int) := within_eq (by omega)
  have hminute : within 0 59 (c.minute : Int) = .ok (c.minute : Int) := within_eq (by omega)
  have hsecond : within 0 60 (c.second : Int) = .ok (c.second : Int) := within_eq (by omega)
  unfold time
  rw [htext, unsigned_twoDigits (by omega), ok_bind]
  simp only [hgap, char_cons, hhour, unsigned_twoDigits (show c.minute < 100 by omega), hminute,
    unsigned_twoDigits (show c.second < 100 by omega), hsecond, fraction?_append hf hrest, ok_bind]
  rfl

/-- The fields of a date and time. -/
def Fields.ofCivil (c : Civil) : Fields :=
  { year := c.date.year, month := c.date.month, day := c.date.day, hour := c.hour,
    minute := c.minute, second := c.second, nanos := c.nanos }

end Reader

/-! ## Instants -/

/-- The date and time of an instant on a clock that is ahead of UTC by an offset in seconds. -/
def Instant.civilAt (t : Instant) (offset : Int) : Civil :=
  let ofDay := ((t.seconds + offset) % 86400).toNat
  { date := .ofDays ((t.seconds + offset).fdiv 86400)
    hour := ofDay / 3600
    minute := ofDay % 3600 / 60
    second := ofDay % 60 + t.nanos / nanosPerSecond
    nanos := t.nanos % nanosPerSecond }

theorem Instant.civilAt_zero (t : Instant) : t.civilAt 0 = t.civil := by
  unfold civilAt civil
  rw [Int.add_zero]

/-- What can be said of the date and time of an instant at an offset. -/
structure Civil.Denotes (c : Civil) (t : Instant) (offset : Int) : Prop where
  valid : c.date.isValid = true
  hour_le : c.hour ≤ 23
  minute_le : c.minute ≤ 59
  /-- The second 60 is written just for leap seconds. -/
  second : c.second = 60 ∧ t.nanos = c.nanos + nanosPerSecond ∧
      t.seconds + offset = c.date.toDays * 86400 + c.hour * 3600 + c.minute * 60 + 59 ∨
    c.second ≤ 59 ∧ t.nanos = c.nanos ∧
      t.seconds + offset = c.date.toDays * 86400 + c.hour * 3600 + c.minute * 60 + c.second
  nanos_lt : c.nanos < nanosPerSecond

theorem Civil.Denotes.second_le {c : Civil} {t : Instant} {offset : Int} (h : c.Denotes t offset) :
    c.second ≤ 60 := by
  obtain ⟨hs, -⟩ | ⟨hs, -⟩ := h.second <;> omega

/-- An offset of whole minutes keeps the second, and with it the leap seconds. -/
theorem Instant.Regular.civilAt_denotes {t : Instant} (h : t.Regular) {offset : Int}
    (hwhole : offset % 60 = 0)
    (hrange : minSecond ≤ t.seconds + offset ∧ t.seconds + offset ≤ maxSecond) :
    (t.civilAt offset).Denotes t offset := by
  have hmin : minSecond = -8334601228800 := rfl
  have hmax : maxSecond = 8210266876799 := rfl
  have hnanos : nanosPerSecond = 1000000000 := rfl
  have hlt := t.nanos_lt
  have hleap : nanosPerSecond ≤ t.nanos → (t.seconds + offset) % 60 = 59 := fun hl => by
    have := h hl
    omega
  unfold civilAt
  generalize hs : t.seconds + offset = s at hrange hleap ⊢
  have hdiv : s.fdiv 86400 = s / 86400 := Int.fdiv_eq_ediv_of_nonneg _ (by decide)
  have hdays : (Date.ofDays (s.fdiv 86400)).toDays = s / 86400 := by
    rw [Date.toDays_ofDays, hdiv]
  refine ⟨?_, ?_, ?_, ?_, ?_⟩
  · show (Date.ofDays (s.fdiv 86400)).isValid = true
    rw [hdiv]
    exact isValid_ofDays (by omega)
  · show (s % 86400).toNat / 3600 ≤ 23
    omega
  · show (s % 86400).toNat % 3600 / 60 ≤ 59
    omega
  · dsimp only
    rw [hdays, hnanos]
    rw [hnanos] at hlt hleap
    by_cases hl : 1000000000 ≤ t.nanos
    · have h59 := hleap hl
      left
      omega
    · right
      omega
  · exact Nat.mod_lt _ (by decide)

theorem Instant.Regular.civil_denotes {t : Instant} (h : t.Regular) : t.civil.Denotes t 0 := by
  have hseconds := t.seconds_mem
  rw [← civilAt_zero]
  exact h.civilAt_denotes rfl (by omega)

namespace Reader

/-- The fields of a date and time make the instant that they denote. -/
theorem Fields.at_ofCivil {c : Civil} {t : Instant} {offset : Int} (h : c.Denotes t offset)
    (hoffset : offset.natAbs < 86400) : (Fields.ofCivil c).at offset = .ok t := by
  have hdate :
      (⟨c.date.year, (c.date.month : Int).toNat, (c.date.day : Int).toNat⟩ : Date) = c.date := by
    rw [Int.toNat_natCast, Int.toNat_natCast]
  have hvalid :
      ¬ ((!c.date.isValid) = true ∨ nanosPerSecond ≤ c.nanos ∨ 86400 ≤ offset.natAbs) := by
    rw [h.valid]
    simp [hoffset, h.nanos_lt]
  have hof : Instant.of? t.seconds t.nanos = some t := by
    unfold Instant.of?
    rw [dif_pos ⟨t.seconds_mem, t.nanos_lt⟩]
  unfold Fields.at Fields.ofCivil
  dsimp only
  rw [hdate, if_neg hvalid]
  obtain ⟨hs, hn, ht⟩ | ⟨hs, hn, ht⟩ := h.second
  · have h60 : (c.second : Int) = 60 := by omega
    rw [if_pos h60, if_pos h60, ← ht, ← hn, Int.add_sub_cancel, hof]
  · have h60 : ¬ (c.second : Int) = 60 := by omega
    rw [if_neg h60, if_neg h60, ← ht, ← hn, Int.add_sub_cancel, hof]

theorem isYear_of_isValid {d : Date} (h : d.isValid = true) : IsYear d.year := by
  have hmin : Int32.minValue.toInt = -2147483648 := by decide
  have hmax : Int32.maxValue.toInt = 2147483647 := by decide
  have hminYear : minYear = -262143 := rfl
  have hmaxYear : maxYear = 262142 := rfl
  simp only [Date.isValid, Bool.and_eq_true, decide_eq_true_eq] at h
  unfold IsYear
  omega

theorem day_le_of_isValid {d : Date} (h : d.isValid = true) :
    (1 ≤ d.month ∧ d.month ≤ 12) ∧ 1 ≤ d.day ∧ d.day ≤ 31 := by
  have hlength := daysInMonth_le d.year d.month
  simp only [Date.isValid, Bool.and_eq_true, decide_eq_true_eq] at h
  omega

/-- The RFC 3339 text of an instant is read as the instant. -/
theorem relaxed_rfc3339 {t : Instant} (h : t.Regular) : relaxed t.rfc3339 = .ok t := by
  have hc := h.civil_denotes
  obtain ⟨hmonth, hday⟩ := day_le_of_isValid hc.valid
  have htext : t.rfc3339 =
      t.civil.date.text ++ 'T' :: (t.civil.clock ++ (fractionText t.civil.nanos ++ ['Z'])) := by
    simp [Instant.rfc3339]
  have hend : EndsClock ['Z'] := endsClock_cons.2 (by decide)
  have htime := time_clock (trimStart_cons (by decide)) hc.hour_le hc.minute_le hc.second_le
    (isFraction_fractionText hc.nanos_lt) hend
  unfold relaxed
  rw [htext, date_text (trimStart_cons (by decide)) (isYear_of_isValid hc.valid) hmonth
    hday, ok_bind]
  show (time trimStart _ >>= _) = _
  rw [htime, ok_bind]
  exact Fields.at_ofCivil hc (by decide)

end Reader

end SigningConsole.Calendar
