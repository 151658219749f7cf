import SigningConsole.Calendar.Date
/-!
Instants of time with nanoseconds, within the representable years, and spans between them.

A leap second is written as the second before it with a further 10⁹ nanoseconds. An instant may have
it after any second, but a clock shows it at the end of a minute only (`ClockTime`), and no text
names it elsewhere. Adding a span leaves a leap second as soon as the span leads out of it; one of
whole seconds does so unless it is empty.
-/

namespace SigningConsole.Calendar

/-- The first representable second, -262143-01-01 00:00:00. -/
def minSecond : Int := -8334601228800

/-- The last representable second, 262142-12-31 23:59:59. -/
def maxSecond : Int := 8210266876799

/-- The nanoseconds of a second. -/
def nanosPerSecond : Nat := 1000000000

/-- An instant, as seconds since 1970-01-01 00:00:00 UTC and nanoseconds. -/
structure Instant where
  seconds : Int
  nanos : Nat
  seconds_mem : minSecond ≤ seconds ∧ seconds ≤ maxSecond
  nanos_lt : nanos < 2 * nanosPerSecond
deriving DecidableEq, Repr

namespace Instant

/-- The instant with these parts, if there is one. -/
def of? (seconds : Int) (nanos : Nat) : Option Instant :=
  if h : (minSecond ≤ seconds ∧ seconds ≤ maxSecond) ∧ nanos < 2 * nanosPerSecond then
    some ⟨seconds, nanos, h.1, h.2⟩
  else none

instance : Inhabited Instant := ⟨0, 0, by decide, by decide⟩

/-- A leap second ends a minute. -/
def Regular (t : Instant) : Prop := nanosPerSecond ≤ t.nanos → t.seconds % 60 = 59

instance (t : Instant) : Decidable t.Regular :=
  inferInstanceAs (Decidable (nanosPerSecond ≤ t.nanos → t.seconds % 60 = 59))

/-- Whether the instant lies in a leap second. -/
def isLeap (t : Instant) : Bool := nanosPerSecond ≤ t.nanos

/-- Earlier or equal. -/
instance : LE Instant where
  le t u := t.seconds < u.seconds ∨ (t.seconds = u.seconds ∧ t.nanos ≤ u.nanos)

instance (t u : Instant) : Decidable (t ≤ u) :=
  inferInstanceAs (Decidable (t.seconds < u.seconds ∨ (t.seconds = u.seconds ∧ t.nanos ≤ u.nanos)))

/-- Earlier. -/
instance : LT Instant where
  lt t u := t.seconds < u.seconds ∨ (t.seconds = u.seconds ∧ t.nanos < u.nanos)

instance (t u : Instant) : Decidable (t < u) :=
  inferInstanceAs (Decidable (t.seconds < u.seconds ∨ (t.seconds = u.seconds ∧ t.nanos < u.nanos)))

/-- The nanoseconds since 1970. A leap second counts as the beginning of the second after it. -/
def epochNanos (t : Instant) : Int := t.seconds * nanosPerSecond + t.nanos

/-- The instant of a number of nanoseconds since 1970 that lies in no leap second. -/
def ofEpochNanos? (n : Int) : Option Instant := of? (n / nanosPerSecond) (n % nanosPerSecond).toNat

/-- The instant a number of nanoseconds later (earlier, if negative), if it can be
represented. From within a leap second a span may lead to the second after it, back to the
second before it, or nowhere else. -/
def addNanos? (t : Instant) (n : Int) : Option Instant :=
  if t.isLeap then
    if 2 * nanosPerSecond ≤ t.nanos + n then ofEpochNanos? (t.epochNanos + n - nanosPerSecond)
    else if n ≤ -nanosPerSecond then ofEpochNanos? (t.epochNanos + n)
    else of? t.seconds (t.nanos + n).toNat
  else ofEpochNanos? (t.epochNanos + n)

/-- The instant a number of seconds later (earlier, if negative), if it can be represented. -/
def add? (t : Instant) (seconds : Int) : Option Instant := t.addNanos? (seconds * nanosPerSecond)

/-- The nanoseconds from `u` to `t`. A leap second between them counts only where the later time of
day lies behind it. -/
def nanosSince (t u : Instant) : Int :=
  let timeOfDay (s : Int) := s % 86400
  let inserted : Int :=
    if timeOfDay u.seconds < timeOfDay t.seconds ∧ u.isLeap then 1
    else if timeOfDay t.seconds < timeOfDay u.seconds ∧ t.isLeap then -1
    else 0
  (t.seconds - u.seconds + inserted) * nanosPerSecond + (t.nanos - u.nanos)

/-- The whole seconds from `u` to `t`, rounded toward zero. -/
def secondsSince (t u : Instant) : Int := (t.nanosSince u).tdiv nanosPerSecond

/-- The milliseconds since 1970, rounded down. -/
def toMillis (t : Instant) : Int := t.seconds * 1000 + (t.nanos / 1000000 : Nat)

end Instant

/-! ## Clocks -/

/-- An instant that a clock shows. -/
structure ClockTime extends Instant where
  regular : toInstant.Regular
deriving DecidableEq

namespace ClockTime

instance : Coe ClockTime Instant := ⟨toInstant⟩

/-- The time with these parts since 1970, if a clock shows it. -/
def of? (seconds : Int) (nanos : Nat) : Option ClockTime :=
  (Instant.of? seconds nanos).bind fun t => if h : t.Regular then some ⟨t, h⟩ else none

instance : Inhabited ClockTime := ⟨⟨default, by decide⟩⟩

/-- Earlier or equal. -/
instance : LE ClockTime := ⟨fun t u => t.toInstant ≤ u.toInstant⟩

instance (t u : ClockTime) : Decidable (t ≤ u) :=
  inferInstanceAs (Decidable (t.toInstant ≤ u.toInstant))

end ClockTime

/-- What a clock shows when it is read time and again. -/
abbrev Clock := Nat → ClockTime

/-! ## Spans -/

/-- The greatest span, in seconds: its milliseconds fit a signed 64-bit number. -/
def maxSpan : Int := 9223372036854775

/-- A span of seconds, unless it is too long. -/
def spanOfSeconds? (n : Int) : Option Int := if n.natAbs ≤ maxSpan.natAbs then some n else none

/-- A span of hours, unless it is too long. -/
def spanOfHours? (n : Int) : Option Int := spanOfSeconds? (n * 3600)

/-- A span of days, unless it is too long. -/
def spanOfDays? (n : Int) : Option Int := spanOfSeconds? (n * 86400)

end SigningConsole.Calendar
