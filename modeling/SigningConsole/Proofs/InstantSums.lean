import SigningConsole.Calendar.Instant
/-!
Instants, and spans that are added to them.

`Instant.addNanos?_cases` lists the ways an addition can go: outside a leap second the span is added
to the nanoseconds since 1970; from within one it leads to the seconds after it, to those before it,
or to another part of the same second. What is said of additions below comes from it: a span leads
to a later instant just when it is positive, a longer one leads no less far, and a sum with the time
of a clock is an instant whose text can be read again. A span of whole seconds is added to the
seconds (`Instant.add?_cases`), and `Instant.exists_add?_iff` says when there is a sum. Outside leap
seconds that count is also the time between two instants (`Instant.nanosSince_eq`). A span that is
taken away counts back from the nanoseconds since 1970 (`Instant.sub?_eq_some`).
-/

namespace SigningConsole.Calendar.Instant

variable {t u v : Instant} {m n : Int}

/-! ## Order -/

theorem not_le_iff : ¬ t ≤ u ↔ u < t := by
  show ¬ (t.seconds < u.seconds ∨ (t.seconds = u.seconds ∧ t.nanos ≤ u.nanos)) ↔
    u.seconds < t.seconds ∨ (u.seconds = t.seconds ∧ u.nanos < t.nanos)
  omega

theorem le_trans (htu : t ≤ u) (huv : u ≤ v) : t ≤ v := by
  have htu : t.seconds < u.seconds ∨ (t.seconds = u.seconds ∧ t.nanos ≤ u.nanos) := htu
  have huv : u.seconds < v.seconds ∨ (u.seconds = v.seconds ∧ u.nanos ≤ v.nanos) := huv
  show t.seconds < v.seconds ∨ (t.seconds = v.seconds ∧ t.nanos ≤ v.nanos)
  omega

/-! ## Additions -/

theorem of?_eq_some {seconds : Int} {nanos : Nat} (h : of? seconds nanos = some t) :
    t.seconds = seconds ∧ t.nanos = nanos := by
  unfold of? at h
  split at h
  · cases h
    exact ⟨rfl, rfl⟩
  · cases h

/-- Outside leap seconds, the parts of an instant only have to lie in the calendar. -/
theorem exists_of?_iff {seconds : Int} {nanos : Nat} (h : nanos < nanosPerSecond) :
    (∃ t, of? seconds nanos = some t) ↔ minSecond ≤ seconds ∧ seconds ≤ maxSecond := by
  unfold of?
  constructor
  · rintro ⟨t, ht⟩
    split at ht
    · next hparts => exact hparts.1
    · cases ht
  · intro hseconds
    rw [dif_pos ⟨hseconds, by omega⟩]
    exact ⟨_, rfl⟩

theorem epochNanos_eq (t : Instant) : t.epochNanos = t.seconds * 1000000000 + t.nanos := rfl

theorem ofEpochNanos?_eq_some {k : Int} (h : ofEpochNanos? k = some t) :
    t.epochNanos = k ∧ t.nanos < nanosPerSecond := by
  have hnanos : nanosPerSecond = 1000000000 := rfl
  obtain ⟨hseconds, hfraction⟩ := of?_eq_some h
  rw [hnanos] at hseconds hfraction ⊢
  rw [epochNanos_eq]
  omega

/-- A whole second and a fraction are what the nanoseconds since 1970 come to. -/
theorem ofEpochNanos?_eq {k seconds : Int} {nanos : Nat} (hk : k = seconds * 1000000000 + nanos)
    (hlt : nanos < 1000000000) : ofEpochNanos? k = of? seconds nanos := by
  have hseconds : k / (nanosPerSecond : Int) = seconds := show k / 1000000000 = seconds by omega
  have hfraction : (k % (nanosPerSecond : Int)).toNat = nanos :=
    show (k % 1000000000).toNat = nanos by omega
  rw [ofEpochNanos?, hseconds, hfraction]

/-- The ways an addition can go. -/
theorem addNanos?_cases (h : t.addNanos? n = some u) :
    t.nanos < nanosPerSecond ∧ u.epochNanos = t.epochNanos + n ∧ u.nanos < nanosPerSecond ∨
    nanosPerSecond ≤ t.nanos ∧
      (2 * nanosPerSecond ≤ t.nanos + n ∧ u.epochNanos = t.epochNanos + n - nanosPerSecond ∧
          u.nanos < nanosPerSecond ∨
        n ≤ -nanosPerSecond ∧ u.epochNanos = t.epochNanos + n ∧ u.nanos < nanosPerSecond ∨
        -nanosPerSecond < n ∧ t.nanos + n < 2 * nanosPerSecond ∧ u.seconds = t.seconds ∧
          (u.nanos : Int) = t.nanos + n) := by
  have hnanos : nanosPerSecond = 1000000000 := rfl
  unfold addNanos? at h
  split at h
  · next hleap =>
    have hleap : nanosPerSecond ≤ t.nanos := of_decide_eq_true hleap
    refine .inr ⟨hleap, ?_⟩
    split at h
    · next hforth => exact .inl ⟨hforth, ofEpochNanos?_eq_some h⟩
    · split at h
      · next hback => exact .inr (.inl ⟨hback, ofEpochNanos?_eq_some h⟩)
      · obtain ⟨hseconds, hfraction⟩ := of?_eq_some h
        exact .inr (.inr ⟨by omega, by omega, hseconds, by omega⟩)
  · next hleap =>
    exact .inl ⟨Nat.not_le.1 fun hle => hleap (decide_eq_true hle), ofEpochNanos?_eq_some h⟩

/-- A span leads to a later instant just when it is positive, also from within a leap second. -/
theorem addNanos?_le_iff (h : t.addNanos? n = some u) : u ≤ t ↔ n ≤ 0 := by
  have hnanos : nanosPerSecond = 1000000000 := rfl
  have hcases := addNanos?_cases h
  have hlt := t.nanos_lt
  rw [epochNanos_eq, epochNanos_eq] at hcases
  show (u.seconds < t.seconds ∨ (u.seconds = t.seconds ∧ u.nanos ≤ t.nanos)) ↔ n ≤ 0
  omega

/-- A longer span leads no less far. -/
theorem addNanos?_mono (hu : t.addNanos? m = some u) (hv : t.addNanos? n = some v) (h : m ≤ n) :
    u ≤ v := by
  have hnanos : nanosPerSecond = 1000000000 := rfl
  have hucases := addNanos?_cases hu
  have hvcases := addNanos?_cases hv
  have hlt := t.nanos_lt
  rw [epochNanos_eq, epochNanos_eq] at hucases hvcases
  show u.seconds < v.seconds ∨ (u.seconds = v.seconds ∧ u.nanos ≤ v.nanos)
  omega

/-- A sum lies in no leap second, or in the one from which it started. -/
theorem Regular.addNanos? (ht : t.Regular) (h : t.addNanos? n = some u) : u.Regular := by
  intro hleap
  obtain ⟨-, -, hlt⟩ | ⟨hstart, ⟨-, -, hlt⟩ | ⟨-, -, hlt⟩ | ⟨-, -, hseconds, -⟩⟩ :=
    addNanos?_cases h
  · exact absurd hleap (Nat.not_le.2 hlt)
  · exact absurd hleap (Nat.not_le.2 hlt)
  · exact absurd hleap (Nat.not_le.2 hlt)
  · rw [hseconds]
    exact ht hstart

/-! ## Whole seconds -/

/-- A span of whole seconds that is not empty leaves a leap second for the one after or before
it. -/
theorem add?_eq (t : Instant) (n : Int) : t.add? n =
    if t.isLeap then
      if 0 < n then of? (t.seconds + n) (t.nanos - nanosPerSecond)
      else if n < 0 then of? (t.seconds + 1 + n) (t.nanos - nanosPerSecond)
      else some t
    else of? (t.seconds + n) t.nanos := by
  have hnanos : nanosPerSecond = 1000000000 := rfl
  have hlt := t.nanos_lt
  unfold add? addNanos? isLeap
  rw [epochNanos_eq, hnanos]
  rw [hnanos] at hlt
  by_cases hleap : 1000000000 ≤ t.nanos
  · rw [if_pos (decide_eq_true hleap), if_pos (decide_eq_true hleap)]
    by_cases hpos : 0 < n
    · rw [if_pos (by omega), if_pos hpos]
      exact ofEpochNanos?_eq (by omega) (by omega)
    · rw [if_neg (by omega), if_neg hpos]
      by_cases hneg : n < 0
      · rw [if_pos (by omega), if_pos hneg]
        exact ofEpochNanos?_eq (by omega) (by omega)
      · obtain rfl : n = 0 := by omega
        rw [if_neg (by omega), if_neg hneg, of?, dif_pos ⟨t.seconds_mem, by omega⟩]
        simp
  · rw [if_neg (mt of_decide_eq_true hleap), if_neg (mt of_decide_eq_true hleap)]
    exact ofEpochNanos?_eq (by omega) (by omega)

/-- The ways an addition of whole seconds can go. -/
theorem add?_cases (h : t.add? n = some u) :
    t.nanos < nanosPerSecond ∧ u.seconds = t.seconds + n ∧ u.nanos = t.nanos ∨
    nanosPerSecond ≤ t.nanos ∧
      (0 < n ∧ u.seconds = t.seconds + n ∧ u.nanos = t.nanos - nanosPerSecond ∨
        n < 0 ∧ u.seconds = t.seconds + 1 + n ∧ u.nanos = t.nanos - nanosPerSecond ∨
        n = 0 ∧ u.seconds = t.seconds ∧ u.nanos = t.nanos) := by
  rw [add?_eq] at h
  split at h
  · next hleap =>
    refine .inr ⟨of_decide_eq_true hleap, ?_⟩
    split at h
    · next hpos => exact .inl ⟨hpos, of?_eq_some h⟩
    · split at h
      · next hneg => exact .inr (.inl ⟨hneg, of?_eq_some h⟩)
      · cases h
        exact .inr (.inr ⟨by omega, rfl, rfl⟩)
  · next hleap => exact .inl ⟨Nat.not_le.1 fun hle => hleap (decide_eq_true hle), of?_eq_some h⟩

/-- A span can be added unless it leads past the last second. -/
theorem exists_add?_iff (hn : 0 < n) (t : Instant) :
    (∃ u, t.add? n = some u) ↔ t.seconds + n ≤ maxSecond := by
  have hnanos : nanosPerSecond = 1000000000 := rfl
  have hmin := t.seconds_mem.1
  have hlt := t.nanos_lt
  rw [add?_eq]
  unfold isLeap
  by_cases hleap : nanosPerSecond ≤ t.nanos
  · rw [if_pos (decide_eq_true hleap), if_pos hn, exists_of?_iff (by omega)]
    omega
  · rw [if_neg (mt of_decide_eq_true hleap), exists_of?_iff (by omega)]
    omega

/-- A span that is added counts from the second of the instant and keeps its fraction, also from
within a leap second. -/
theorem add?_parts (hn : 0 < n) (h : t.add? n = some u) :
    u.seconds = t.seconds + n ∧ u.nanos = t.nanos % nanosPerSecond := by
  have hnanos : nanosPerSecond = 1000000000 := rfl
  have hlt := t.nanos_lt
  have hcases := add?_cases h
  rw [hnanos] at hlt hcases ⊢
  omega

/-- A span that leads from one instant to another, either way, is within the limit. -/
theorem spanOfSeconds?_of_add? (h : t.add? n = some u) (hm : m.natAbs = n.natAbs) :
    spanOfSeconds? m = some m := by
  have hmin : minSecond = -8334601228800 := rfl
  have hmax : maxSecond = 8210266876799 := rfl
  have hspan : maxSpan = 9223372036854775 := rfl
  have ht := t.seconds_mem
  have hu := u.seconds_mem
  have hcases := add?_cases h
  unfold spanOfSeconds?
  exact if_pos (by omega)

/-- A span is as long as asked. -/
theorem eq_of_spanOfSeconds? (h : spanOfSeconds? m = some n) : n = m := by
  unfold spanOfSeconds? at h
  split at h
  · exact (Option.some.inj h).symm
  · cases h

/-! ## Counted from 1970 -/

/-- The first instant, with which the year -262143 begins. -/
def earliest : Instant := (of? minSecond 0).get (by decide)

theorem toMillis_eq (t : Instant) : t.toMillis = t.epochNanos / 1000000 := by
  have hnanos : (nanosPerSecond : Int) = 1000000000 := rfl
  unfold toMillis epochNanos
  rw [hnanos]
  omega

/-- The milliseconds since 1970 are a signed number of 64 bits. -/
theorem toMillis_bounds (t : Instant) :
    Int64.minValue.toInt ≤ t.toMillis ∧ t.toMillis ≤ Int64.maxValue.toInt := by
  have hleast : Int64.minValue.toInt = -9223372036854775808 := by decide
  have hgreatest : Int64.maxValue.toInt = 9223372036854775807 := by decide
  have hmin : minSecond = -8334601228800 := rfl
  have hmax : maxSecond = 8210266876799 := rfl
  have hnanos : nanosPerSecond = 1000000000 := rfl
  have hseconds := t.seconds_mem
  have hlt := t.nanos_lt
  unfold toMillis
  omega

theorem toInt_ofInt_toMillis (t : Instant) : (Int64.ofInt t.toMillis).toInt = t.toMillis :=
  Int64.toInt_ofInt_of_le t.toMillis_bounds.1 (Int.lt_add_one_of_le t.toMillis_bounds.2)

/-- Outside leap seconds, the nanoseconds between two instants are those since 1970 apart. -/
theorem nanosSince_eq (ht : t.isLeap = false) (hu : u.isLeap = false) :
    t.nanosSince u = t.epochNanos - u.epochNanos := by
  have hnanos : (nanosPerSecond : Int) = 1000000000 := rfl
  unfold nanosSince epochNanos
  simp only [ht, hu, Bool.false_eq_true, and_false, if_false, hnanos]
  omega

/-- A span that is taken away is taken from the nanoseconds since 1970, and no leap second is
left. -/
theorem sub?_eq_some (hn : 0 < n) (h : t.add? (-n) = some u) :
    u.epochNanos = t.epochNanos - n * nanosPerSecond ∧ u.nanos < nanosPerSecond ∧ u < t := by
  have hnanos : nanosPerSecond = 1000000000 := rfl
  have hlt := t.nanos_lt
  have hcases := add?_cases h
  have hearlier : u < t := by
    show u.seconds < t.seconds ∨ (u.seconds = t.seconds ∧ u.nanos < t.nanos)
    omega
  refine ⟨?_, by omega, hearlier⟩
  unfold epochNanos
  rw [hnanos] at hcases ⊢
  omega

/-- A span can be taken away just when the first instant does not come after what is left. -/
theorem exists_sub?_iff (hn : 0 < n) (t : Instant) :
    (∃ u, t.add? (-n) = some u) ↔ earliest.epochNanos ≤ t.epochNanos - n * nanosPerSecond := by
  have hnanos : nanosPerSecond = 1000000000 := rfl
  have hmin : minSecond = -8334601228800 := rfl
  have hmax : maxSecond = 8210266876799 := rfl
  have hseconds := t.seconds_mem
  have hlt := t.nanos_lt
  have hearliest : earliest.epochNanos = minSecond * 1000000000 := by decide
  rw [hearliest, add?_eq]
  unfold isLeap epochNanos
  by_cases hleap : nanosPerSecond ≤ t.nanos
  · rw [if_pos (decide_eq_true hleap), if_neg (by omega), if_pos (by omega),
      exists_of?_iff (by omega), hnanos]
    omega
  · rw [if_neg (mt of_decide_eq_true hleap), exists_of?_iff (by omega), hnanos]
    omega

end SigningConsole.Calendar.Instant
