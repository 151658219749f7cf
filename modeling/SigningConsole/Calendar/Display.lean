import SigningConsole.Calendar.Instant
import SigningConsole.Text.Decimal
/-!
Texts of instants: RFC 3339 in UTC, the plain UTC form, and the console's display zone
eight hours ahead.

Years outside 0 … 9999 carry a sign. A fraction has 3, 6 or 9 digits, as few as the nanoseconds
allow; the second of a leap second is 60.
-/

namespace SigningConsole.Calendar

open Text

/-- A date and a time of day. -/
structure Civil where
  date : Date
  hour : Nat
  minute : Nat
  /-- The second; 60 in a leap second. -/
  second : Nat
  nanos : Nat
deriving DecidableEq, Repr

/-- The date and time of an instant in UTC. -/
def Instant.civil (t : Instant) : Civil :=
  let ofDay := (t.seconds % 86400).toNat
  { date := .ofDays (t.seconds.fdiv 86400)
    hour := ofDay / 3600
    minute := ofDay % 3600 / 60
    second := ofDay % 60 + t.nanos / nanosPerSecond
    nanos := t.nanos % nanosPerSecond }

/-- Two digits. -/
def twoDigits (n : Nat) : List Char := zeroPad 2 (decimal n)

/-- The year, in four digits and with a sign outside 0 … 9999. -/
def yearText (year : Int) : List Char :=
  if 0 ≤ year ∧ year ≤ 9999 then zeroPad 4 (decimal year.toNat)
  else (if year < 0 then '-' else '+') :: zeroPad 4 (decimal year.natAbs)

/-- Year, month and day. -/
def Date.text (d : Date) : List Char :=
  yearText d.year ++ '-' :: (twoDigits d.month ++ '-' :: twoDigits d.day)

/-- Hour, minute and second. -/
def Civil.clock (c : Civil) : List Char :=
  twoDigits c.hour ++ ':' :: (twoDigits c.minute ++ ':' :: twoDigits c.second)

/-- The fraction of a second, if it is not zero. -/
def fractionText (nanos : Nat) : List Char :=
  if nanos = 0 then []
  else if nanos % 1000000 = 0 then '.' :: zeroPad 3 (decimal (nanos / 1000000))
  else if nanos % 1000 = 0 then '.' :: zeroPad 6 (decimal (nanos / 1000))
  else '.' :: zeroPad 9 (decimal nanos)

namespace Instant

/-- The RFC 3339 text in UTC. -/
def rfc3339 (t : Instant) : List Char :=
  let c := t.civil
  c.date.text ++ 'T' :: (c.clock ++ fractionText c.nanos ++ ['Z'])

/-- The text `YYYY-MM-DD HH:MM:SS UTC`, with a fraction where there is one. -/
def utcText (t : Instant) : List Char :=
  let c := t.civil
  c.date.text ++ ' ' :: (c.clock ++ fractionText c.nanos ++ [' ', 'U', 'T', 'C'])

/-- How far the display zone is ahead of UTC. -/
def displayOffset : Int := 8 * 3600

/-- The text in the display zone, without a fraction; `none` where the local time is
past the last date. -/
def consoleText? (t : Instant) : Option (List Char) :=
  (t.add? displayOffset).map fun u =>
    let c := u.civil
    c.date.text ++ ' ' :: (c.clock ++ ['+', '0', '8', ':', '0', '0'])

end Instant

end SigningConsole.Calendar
