import SigningConsole.Proofs.InstantSums
import SigningConsole.Statistics.Window
/-!
The window over which growth is counted: for which lengths there is one, and what it
says of its length.

`TimeWindow.ofHours?_eq_some`: the window is the span before its end, and the limit on spans
excludes nothing that the calendar has. Everything else is counted in nanoseconds since 1970, in
which a leap second is the beginning of the second after it: there the span is taken from the end
without exception, so milliseconds that are rounded down on both sides are as far apart as the ends,
before 1970 as well. What `TimeWindow.seconds` says of a window that ends in a leap second is not
claimed, since it counts the inserted second by the time of day.
-/

namespace SigningConsole

open Calendar Text

namespace TimeWindow

variable {stop : Instant} {hours : Int} {step : GrowthStep} {w : TimeWindow}

theorem ofHours?_eq_some : ofHours? stop hours step = some w ↔
    0 < hours ∧ ∃ start, stop.add? (-(hours * 3600)) = some start ∧ w = ⟨start, stop, step⟩ := by
  unfold ofHours?
  by_cases hpos : 0 < hours
  · rw [if_neg (by omega)]
    constructor
    · intro h
      obtain ⟨span, hspan, h⟩ := Option.bind_eq_some_iff.1 h
      obtain ⟨start, hstart, h⟩ := Option.bind_eq_some_iff.1 h
      have hlen : span = hours * 3600 := Instant.eq_of_spanOfSeconds? hspan
      exact ⟨hpos, start, hlen ▸ hstart, (Option.some.inj h).symm⟩
    · rintro ⟨-, start, hstart, rfl⟩
      rw [spanOfHours?, Instant.spanOfSeconds?_of_add? hstart (Int.natAbs_neg _).symm]
      show (stop.add? (-(hours * 3600)) >>= _) = _
      rw [hstart]
      rfl
  · rw [if_pos (by omega)]
    exact iff_of_false nofun fun h => hpos h.1

/-- There is a window just when its length is positive and its start does not come before
the first instant. -/
theorem exists_ofHours?_iff : (∃ w, ofHours? stop hours step = some w) ↔
    0 < hours ∧ Instant.earliest.epochNanos ≤ stop.epochNanos - hours * 3600 * nanosPerSecond := by
  constructor
  · rintro ⟨w, hw⟩
    obtain ⟨hpos, start, hstart, -⟩ := ofHours?_eq_some.1 hw
    exact ⟨hpos, (Instant.exists_sub?_iff (by omega) stop).1 ⟨start, hstart⟩⟩
  · rintro ⟨hpos, hle⟩
    obtain ⟨start, hstart⟩ := (Instant.exists_sub?_iff (by omega) stop).2 hle
    exact ⟨_, ofHours?_eq_some.2 ⟨hpos, start, hstart, rfl⟩⟩

/-- A window starts that many hours before its end, and not in a leap second. -/
theorem start_of_ofHours? (h : ofHours? stop hours step = some w) :
    w.start.epochNanos = stop.epochNanos - hours * 3600 * nanosPerSecond ∧
    w.start.nanos < nanosPerSecond ∧
      w.start < stop := by
  obtain ⟨hpos, start, hstart, rfl⟩ := ofHours?_eq_some.1 h
  exact Instant.sub?_eq_some (by omega) hstart

/-- The milliseconds of both ends are as far apart as the ends are. -/
theorem millis_of_ofHours? (h : ofHours? stop hours step = some w) :
    stop.toMillis - w.start.toMillis = hours * 3600000 := by
  have hnanos : (nanosPerSecond : Int) = 1000000000 := rfl
  obtain ⟨hstart, -⟩ := start_of_ofHours? h
  rw [Instant.toMillis_eq, Instant.toMillis_eq, hstart, hnanos]
  omega

/-- A window that does not end in a leap second is exactly as long as asked. -/
theorem nanosSince_of_ofHours? (h : ofHours? stop hours step = some w)
    (hleap : stop.isLeap = false) :
    stop.nanosSince w.start = hours * 3600 * nanosPerSecond := by
  obtain ⟨hstart, hnanos, -⟩ := start_of_ofHours? h
  rw [Instant.nanosSince_eq hleap (decide_eq_false (Nat.not_le.2 hnanos)), hstart]
  omega

/-- There is a window just when its length is positive and its start does not come before the first
instant. It starts before it ends, is exactly as long as asked unless it ends in a leap second, and
tells its ends in milliseconds that are rounded down and as far apart. -/
theorem window_spans_hours (stop : Instant) (hours : Int) (step : GrowthStep) :
    ((∃ w, ofHours? stop hours step = some w) ↔
      0 < hours ∧ Instant.earliest.epochNanos ≤ stop.epochNanos - hours * 3600 * nanosPerSecond) ∧
    ∀ w, ofHours? stop hours step = some w →
      w.stop = stop ∧ w.growthStep = step ∧ w.start < w.stop ∧
      (stop.isLeap = false →
        w.stop.nanosSince w.start = hours * 3600 * nanosPerSecond ∧ w.seconds = hours * 3600) ∧
      ∃ first last : Int64,
        w.params = [("startTime", intText first.toInt), ("endTime", intText last.toInt),
          ("countWay", step.text)] ∧
        last.toInt = stop.epochNanos / 1000000 ∧ last.toInt - first.toInt = hours * 3600000 := by
  refine ⟨exists_ofHours?_iff, fun w h => ?_⟩
  obtain ⟨hpos, start, hadd, hw⟩ := ofHours?_eq_some.1 h
  obtain ⟨hstart, hnanos, hlt⟩ := start_of_ofHours? h
  have hmillis := millis_of_ofHours? h
  have hlength := nanosSince_of_ofHours? h
  subst hw
  refine ⟨rfl, rfl, hlt, fun hleap => ⟨hlength hleap, ?_⟩, .ofInt start.toMillis,
    .ofInt stop.toMillis, ?_⟩
  · show (stop.nanosSince start).tdiv nanosPerSecond = hours * 3600
    rw [hlength hleap]
    exact Int.mul_tdiv_cancel _ (by decide)
  · rw [Instant.toInt_ofInt_toMillis, Instant.toInt_ofInt_toMillis]
    exact ⟨rfl, stop.toMillis_eq, hmillis⟩

/-- An hour that ends within a leap second, in the last minute but one before 1970. -/
theorem hour_before_leap_second :
    let stop : Instant := ⟨-61, 1500250000, by decide, by decide⟩
    ∃ w, ofHours? stop 1 .week = some w ∧ stop.isLeap ∧ w.start < w.stop ∧
      stop.epochNanos / 1000000 = -59500 ∧ ∃ first last : Int64,
        w.params = [("startTime", intText first.toInt), ("endTime", intText last.toInt),
          ("countWay", "week")] ∧
        last.toInt = -59500 ∧ first.toInt = -3659500 := by
  intro stop
  obtain ⟨hiff, hspans⟩ := window_spans_hours stop 1 .week
  obtain ⟨w, hw⟩ := hiff.2 (by decide)
  obtain ⟨-, -, hlt, -, first, last, hparams, hlast, hapart⟩ := hspans w hw
  have hmillis : stop.epochNanos / 1000000 = -59500 := by decide
  exact ⟨w, hw, rfl, hlt, hmillis, first, last, hparams, by omega, by omega⟩

end TimeWindow

end SigningConsole
