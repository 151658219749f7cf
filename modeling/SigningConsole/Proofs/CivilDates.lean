import SigningConsole.Calendar.Instant
/-!
The date of a day number is a date of the calendar, and it has that day number.

A day is counted from the beginning of its cycle of 400 years, and from the beginning of its year,
which begins in March. The year is found by a division that corrects for the leap days
(`cycleYear`), and the month by another one. The bounds here say that both divisions meet the right
year and month; all else follows from them. Which year a day belongs to is read off the first days
of the years (`Date.le_year_ofDays_iff`).
-/

namespace SigningConsole.Calendar

/-! ## Days of a cycle -/

/-- The year of a day within its cycle of 400 years. -/
def cycleYear (n : Int) : Int := (n - n / 1460 + n / 36524 - n / 146096) / 365

/-- The day within its year, counted from the first of March. -/
def yearDay (n : Int) : Int := n - (365 * cycleYear n + cycleYear n / 4 - cycleYear n / 100)

variable {n : Int}

theorem cycleYear_bounds (h : 0 ≤ n ∧ n < 146097) : 0 ≤ cycleYear n ∧ cycleYear n ≤ 399 := by
  unfold cycleYear
  omega

/-- The days that the division by years leaves over are fewer than a year has. -/
theorem cycleYear_div (n : Int) : 365 * cycleYear n ≤ n - n / 1460 + n / 36524 - n / 146096 ∧
    n - n / 1460 + n / 36524 - n / 146096 ≤ 365 * cycleYear n + 364 := by
  unfold cycleYear
  omega

/-- A day is counted by the years before it and the days of its own. -/
theorem eq_add_yearDay (n : Int) :
    n = 365 * cycleYear n + cycleYear n / 4 - cycleYear n / 100 + yearDay n := by
  unfold yearDay
  omega

/-- The centuries of the year are those of the day, but for the last day of the cycle. -/
theorem century_cycleYear (h : 0 ≤ n ∧ n < 146097) :
    cycleYear n / 100 = n / 36524 - n / 146096 := by
  have hbounds := cycleYear_bounds h
  have hdiv := cycleYear_div n
  have hcentury : n / 36524 = 0 ∨ n / 36524 = 1 ∨ n / 36524 = 2 ∨ n / 36524 = 3 ∨
      n / 36524 = 4 := by omega
  generalize cycleYear n = y at hbounds hdiv ⊢
  -- what is left of the days when each fourth year gives one up
  have hrest : ∃ w, w = n - n / 1460 ∧ 1460 * w ≤ 1459 * (n + 1) ∧ 1459 * n ≤ 1460 * w :=
    ⟨_, rfl, by omega, by omega⟩
  obtain ⟨w, hw, hupper, hlower⟩ := hrest
  rw [← hw] at hdiv
  obtain hc | hc | hc | hc | hc := hcentury <;> omega

theorem yearDay_bounds (h : 0 ≤ n ∧ n < 146097) : 0 ≤ yearDay n ∧ yearDay n ≤ 365 := by
  have hbounds := cycleYear_bounds h
  have hcentury := century_cycleYear h
  have hdiv := cycleYear_div n
  unfold yearDay
  generalize cycleYear n = y at hbounds hcentury hdiv ⊢
  rw [hcentury]
  have hfour : y / 4 ≤ n / 1460 ∧ n / 1460 ≤ y / 4 + 1 := by omega
  omega

/-- Only a year that ends with a leap day has a day more. -/
theorem isLeapYear_of_yearDay (h : 0 ≤ n ∧ n < 146097) (hd : yearDay n = 365) (era : Int) :
    isLeapYear (cycleYear n + era * 400 + 1) = true := by
  have hbounds := cycleYear_bounds h
  have hcentury := century_cycleYear h
  have hdiv := cycleYear_div n
  unfold yearDay at hd
  generalize cycleYear n = y at hbounds hcentury hdiv hd ⊢
  have hquad : 1460 * (y / 4 + 1) ≤ n := by
    have : y / 4 + 1 ≤ n / 1460 := by omega
    omega
  have hfour : (y + 1) % 4 = 0 := by
    have : 3 ≤ y - 4 * (y / 4) := by omega
    omega
  have hhundred : (y + 1) % 100 ≠ 0 ∨ y = 399 := by omega
  have hyear : (y + era * 400 + 1) % 4 = 0 ∧
      ((y + era * 400 + 1) % 100 ≠ 0 ∨ (y + era * 400 + 1) % 400 = 0) := by omega
  simpa [isLeapYear] using hyear

/-! ## Months -/

/-- The month of a day within its year, March being 0. -/
def yearMonth (d : Int) : Int := (5 * d + 2) / 153

theorem yearMonth_bounds {d : Int} (h : 0 ≤ d ∧ d ≤ 365) : 0 ≤ yearMonth d ∧ yearMonth d ≤ 11 := by
  unfold yearMonth
  omega

/-- The day lies between the beginnings of its month and the next one. -/
theorem monthDay_bounds (d : Int) :
    (153 * yearMonth d + 2) / 5 ≤ d ∧ d < (153 * (yearMonth d + 1) + 2) / 5 := by
  unfold yearMonth
  omega

/-! ## Dates -/

/-- The date of a day of a cycle. -/
def cycleDate (era n : Int) : Date :=
  let m := yearMonth (yearDay n)
  let month := if m < 10 then m + 3 else m - 9
  let year := cycleYear n + era * 400
  ⟨if month ≤ 2 then year + 1 else year, month.toNat, (yearDay n - (153 * m + 2) / 5 + 1).toNat⟩

/-- Every day belongs to a cycle. -/
theorem exists_cycle (n : Int) :
    ∃ era day, (0 ≤ day ∧ day < 146097) ∧ n + 719468 = era * 146097 + day ∧
      Date.ofDays n = cycleDate era day := by
  refine ⟨(n + 719468) / 146097, (n + 719468) % 146097, by omega, by omega, ?_⟩
  have hdiv : (n + 719468).fdiv 146097 = (n + 719468) / 146097 :=
    Int.fdiv_eq_ediv_of_nonneg _ (by decide)
  have hmod : (n + 719468).fmod 146097 = (n + 719468) % 146097 :=
    Int.fmod_eq_emod_of_nonneg _ (by decide)
  unfold Date.ofDays
  dsimp only
  rw [hdiv, hmod]
  rfl

theorem toDays_cycleDate (era : Int) (h : 0 ≤ n ∧ n < 146097) :
    (cycleDate era n).toDays = era * 146097 + n - 719468 := by
  have hyear := cycleYear_bounds h
  have hday := yearDay_bounds h
  have hmonth := yearMonth_bounds hday
  have hin := monthDay_bounds (yearDay n)
  have hn := eq_add_yearDay n
  unfold cycleDate Date.toDays
  generalize cycleYear n = y at hyear hn ⊢
  generalize yearDay n = d at hday hmonth hin hn ⊢
  generalize yearMonth d = m at hmonth hin ⊢
  have hdiv : (y + era * 400).fdiv 400 = era := by
    rw [Int.fdiv_eq_ediv_of_nonneg _ (by decide)]
    omega
  have hmod : (y + era * 400).fmod 400 = y := by
    rw [Int.fmod_eq_emod_of_nonneg _ (by decide)]
    omega
  by_cases hm : m < 10
  · have h₂ : ¬ m + 3 ≤ 2 := by omega
    have h₂' : ¬ (m + 3).toNat ≤ 2 := by omega
    have h₃ : 2 < (m + 3).toNat := by omega
    simp only [hm, h₂, h₂', h₃, if_true, if_false, hdiv, hmod]
    omega
  · have h₂ : m - 9 ≤ 2 := by omega
    have h₂' : (m - 9).toNat ≤ 2 := by omega
    have h₃ : ¬ 2 < (m - 9).toNat := by omega
    simp only [hm, h₂, h₂', h₃, if_true, if_false, Int.add_sub_cancel, hdiv, hmod]
    omega

/-- The date of a day has that day number. -/
theorem Date.toDays_ofDays (n : Int) : (Date.ofDays n).toDays = n := by
  obtain ⟨era, day, hday, hn, hdate⟩ := exists_cycle n
  rw [hdate, toDays_cycleDate era hday]
  omega

/-- A month other than February is as long as the division by months makes it. -/
theorem daysInMonth_of_ne {m : Int} (hm : 0 ≤ m ∧ m ≤ 10) (year : Int) :
    (daysInMonth year (if m < 10 then m + 3 else m - 9).toNat : Int) = (153 * (m + 1) + 2) / 5 -
    (153 * m + 2) / 5 := by
  have hcases : m = 0 ∨ m = 1 ∨ m = 2 ∨ m = 3 ∨ m = 4 ∨ m = 5 ∨ m = 6 ∨ m = 7 ∨ m = 8 ∨ m = 9 ∨
      m = 10 := by omega
  obtain rfl | rfl | rfl | rfl | rfl | rfl | rfl | rfl | rfl | rfl | rfl := hcases <;> rfl

/-- The date of a day of a cycle is one of its month. -/
theorem cycleDate_fields (era : Int) (h : 0 ≤ n ∧ n < 146097) :
    (1 ≤ (cycleDate era n).month ∧ (cycleDate era n).month ≤ 12) ∧
      1 ≤ (cycleDate era n).day ∧
      (cycleDate era n).day ≤ daysInMonth (cycleDate era n).year (cycleDate era n).month := by
  have hday := yearDay_bounds h
  have hmonth := yearMonth_bounds hday
  have hin := monthDay_bounds (yearDay n)
  have hleap := fun hd => isLeapYear_of_yearDay h hd era
  unfold cycleDate
  generalize yearDay n = d at hday hmonth hin hleap ⊢
  generalize yearMonth d = m at hmonth hin ⊢
  by_cases hm : m = 11
  · subst hm
    refine ⟨⟨Nat.le_of_ble_eq_true rfl, Nat.le_of_ble_eq_true rfl⟩, by dsimp only; omega, ?_⟩
    show (d - 337 + 1).toNat ≤ if isLeapYear (cycleYear n + era * 400 + 1) then 29 else 28
    by_cases hd : d = 365
    · rw [if_pos (hleap hd)]
      omega
    · split <;> omega
  · have hlength := daysInMonth_of_ne (m := m) (by omega)
      (if (if m < 10 then m + 3 else m - 9) ≤ 2 then cycleYear n + era * 400 + 1
        else cycleYear n + era * 400)
    refine ⟨?_, ?_, ?_⟩
    · dsimp only
      split <;> omega
    · dsimp only
      omega
    · dsimp only
      omega

/-- The date of a day is one of its month. -/
theorem Date.fields_ofDays (n : Int) :
    (1 ≤ (ofDays n).month ∧ (ofDays n).month ≤ 12) ∧ 1 ≤ (ofDays n).day ∧
    (ofDays n).day ≤ daysInMonth (ofDays n).year (ofDays n).month := by
  obtain ⟨era, day, hday, -, hdate⟩ := exists_cycle n
  rw [hdate]
  exact cycleDate_fields era hday

theorem daysInMonth_le (year : Int) (month : Nat) : daysInMonth year month ≤ 31 := by
  unfold daysInMonth
  split
  · split <;> decide
  · split <;> decide

/-! ## Years -/

/-- The number of the first day of a year. -/
def yearStart (year : Int) : Int :=
  365 * (year - 1) + (year - 1) / 4 - (year - 1) / 100 + (year - 1) / 400 - 719162

theorem yearStart_mono {y z : Int} (h : y ≤ z) : yearStart y ≤ yearStart z := by
  unfold yearStart
  omega

/-- The day of a date lies within its year. -/
theorem Date.toDays_mem_year {d : Date} (hm : 1 ≤ d.month ∧ d.month ≤ 12)
    (hd : 1 ≤ d.day ∧ d.day ≤ 31) :
    yearStart d.year ≤ d.toDays ∧ d.toDays < yearStart (d.year + 1) := by
  have hdiv (y : Int) : y.fdiv 400 = y / 400 := Int.fdiv_eq_ediv_of_nonneg _ (by decide)
  have hmod (y : Int) : y.fmod 400 = y % 400 := Int.fmod_eq_emod_of_nonneg _ (by decide)
  unfold Date.toDays yearStart
  dsimp only
  rw [hdiv, hmod]
  -- January and February are counted with the year before, which ends with them
  by_cases hmonth : d.month ≤ 2
  · rw [if_pos hmonth, if_neg (by omega)]
    omega
  · rw [if_neg hmonth, if_pos (by omega)]
    omega

/-- A day belongs to a year or a later one just when it does not come before the first day of the
year. -/
theorem Date.le_year_ofDays_iff {n y : Int} : y ≤ (ofDays n).year ↔ yearStart y ≤ n := by
  obtain ⟨hm, hd⟩ := fields_ofDays n
  have hlong := daysInMonth_le (ofDays n).year (ofDays n).month
  have hyear := toDays_mem_year hm (by omega)
  rw [toDays_ofDays] at hyear
  constructor
  · exact fun h => Int.le_trans (yearStart_mono h) hyear.1
  · intro h
    refine Int.not_lt.1 fun hlt => ?_
    have hnext := yearStart_mono (show (ofDays n).year + 1 ≤ y by omega)
    omega

/-- The first day of the first year and the last day of the last one. -/
theorem isValid_ofDays {n : Int} (h : -96465292 ≤ n ∧ n ≤ 95026236) :
    (Date.ofDays n).isValid = true := by
  obtain ⟨hmonth, hfirst, hlast⟩ := Date.fields_ofDays n
  have hmin : yearStart minYear = -96465292 := by decide
  have hmax : yearStart (maxYear + 1) = 95026237 := by decide
  have hleast : minYear ≤ (Date.ofDays n).year := Date.le_year_ofDays_iff.2 (by omega)
  have hgreatest : (Date.ofDays n).year ≤ maxYear := by
    have hpast := mt (Date.le_year_ofDays_iff (n := n) (y := maxYear + 1)).1 (by omega)
    omega
  simp only [Date.isValid, Bool.and_eq_true, decide_eq_true_eq]
  exact ⟨⟨⟨⟨⟨hleast, hgreatest⟩, hmonth.1⟩, hmonth.2⟩, hfirst⟩, hlast⟩

end SigningConsole.Calendar
