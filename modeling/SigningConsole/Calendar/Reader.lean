import SigningConsole.Calendar.Instant
import SigningConsole.Text.Blank
/-!
Reading instants: strict RFC 3339, RFC 3339 with blanks and a named zone, and the plain UTC form.

A leap second is accepted at the end of any minute. An instant whose local date can be represented
and whose UTC date cannot is refused.
-/

namespace SigningConsole.Calendar

open Text

/-- Why a text is no instant. -/
inductive TimeFault where
  | outOfRange
  /-- The local date can be represented and the date in UTC cannot. -/
  | impossible
  | invalid
  | tooShort
  | tooLong
deriving DecidableEq, Repr

/-- The wording of a cause. -/
def TimeFault.message : TimeFault → String
  | outOfRange => "input is out of range"
  | impossible => "no possible date and time matching input"
  | invalid => "input contains invalid characters"
  | tooShort => "premature end of input"
  | tooLong => "trailing input"

namespace Reader

/-! ## Tokens -/

/-- The greatest number that is read. -/
def maxNumber : Int := Int64.maxValue.toInt

/-- Reads at most `max` digits. -/
def digits : Nat → Int → List Char → Except TimeFault (Int × List Char)
  | 0, n, cs => .ok (n, cs)
  | _ + 1, n, [] => .ok (n, [])
  | max + 1, n, c :: cs =>
    if c.isDigit then
      let n := 10 * n + (c.toNat - 48 : Nat)
      if maxNumber < n then .error .outOfRange else digits max n cs
    else .ok (n, c :: cs)

/-- Reads from `min` to `max` digits. -/
def number (min max : Nat) (cs : List Char) : Except TimeFault (Int × List Char) :=
  if (cs.take min).all Char.isDigit then
    if cs.length < min then .error .tooShort else digits max 0 cs
  else .error .invalid

/-- Reads one given character. -/
def char (expected : Char) : List Char → Except TimeFault (List Char)
  | c :: cs => if c = expected then .ok cs else .error .invalid
  | [] => .error .tooShort

/-- Accepts a number within bounds. -/
def within (low high : Int) (n : Int) : Except TimeFault Int :=
  if low ≤ n ∧ n ≤ high then .ok n else .error .outOfRange

/-- Reads a fraction after its point: one to nine digits, and passes over further ones. -/
def fraction (cs : List Char) : Except TimeFault (Nat × List Char) := do
  let (n, rest) ← number 1 9 cs
  let used := cs.length - rest.length
  return (n.toNat * Nat.pow 10 (9 - used), rest.dropWhile Char.isDigit)

/-- Reads a fraction with its point, if there is one. -/
def fraction? : List Char → Except TimeFault (Nat × List Char)
  | '.' :: cs => fraction cs
  | cs => .ok (0, cs)

/-- Reads two digits of an offset; the first of them is at most `first`. -/
def offsetDigits (first : Char) : List Char → Except TimeFault (Int × List Char)
  | a :: b :: cs =>
    if a.isDigit && b.isDigit then
      if first < a then .error .outOfRange
      else .ok ((a.toNat - 48 : Nat) * 10 + (b.toNat - 48 : Nat), cs)
    else .error .invalid
  | [a] => if a.toNat < 0x80 then .error .tooShort else .error .invalid
  | [] => .error .tooShort

/-- Reads the hours and minutes of an offset as seconds once its sign is read; `separator` passes
from the hours to the minutes. -/
def signedOffset (separator : List Char → Except TimeFault (List Char)) (negative : Bool)
    (cs : List Char) : Except TimeFault (Int × List Char) := do
  let (hours, cs) ← offsetDigits '9' cs
  let cs ← separator cs
  let (minutes, cs) ← offsetDigits '5' cs
  let seconds := hours * 3600 + minutes * 60
  return (if negative then -seconds else seconds, cs)

/-- Reads the offset from UTC in seconds. -/
def offset (separator : List Char → Except TimeFault (List Char)) (cs : List Char) :
    Except TimeFault (Int × List Char) :=
  match cs with
  | 'Z' :: cs => .ok (0, cs)
  | 'z' :: cs => .ok (0, cs)
  | '+' :: cs => signedOffset separator false cs
  | '-' :: cs => signedOffset separator true cs
  | '\u2212' :: cs => signedOffset separator true cs
  | _ :: _ => .error .invalid
  | [] => .error .tooShort

/-! ## From fields to instants -/

/-- The fields of a local date and time. -/
structure Fields where
  year : Int
  month : Int
  day : Int
  hour : Int
  minute : Int
  second : Int
  nanos : Nat

/-- The instant of local fields at an offset from UTC. -/
def Fields.at (f : Fields) (offset : Int) : Except TimeFault Instant :=
  let date : Date := ⟨f.year, f.month.toNat, f.day.toNat⟩
  if !date.isValid ∨ nanosPerSecond ≤ f.nanos ∨ 86400 ≤ offset.natAbs then .error .outOfRange
  else
    let leap := f.second = 60
    let second := if leap then 59 else f.second
    let nanos := if leap then f.nanos + nanosPerSecond else f.nanos
    let local_ := date.toDays * 86400 + f.hour * 3600 + f.minute * 60 + second
    match Instant.of? (local_ - offset) nanos with
    | some t => .ok t
    | none => .error .impossible

/-! ## Strict RFC 3339 -/

/-- Whether the character may stand between date and time. -/
def isDateTimeSeparator (c : Char) : Bool := c == 'T' || c == 't' || c == ' '

/-- Passes over the separator of date and time. -/
def dateTimeSeparator : List Char → Except TimeFault (List Char)
  | c :: cs => if isDateTimeSeparator c then .ok cs else .error .invalid
  | [] => .error .tooShort

/-- The greatest offset of RFC 3339. -/
def maxOffset : Int := (23 * 60 + 59) * 60

/-- Reads RFC 3339: every number in full, an offset or `Z`, and nothing after it. -/
def strict (cs : List Char) : Except TimeFault Instant := do
  let (year, cs) ← number 4 4 cs
  let cs ← char '-' cs
  let (month, cs) ← number 2 2 cs
  let month ← within 1 12 month
  let cs ← char '-' cs
  let (day, cs) ← number 2 2 cs
  let day ← within 1 31 day
  let cs ← dateTimeSeparator cs
  let (hour, cs) ← number 2 2 cs
  let hour ← within 0 23 hour
  let cs ← char ':' cs
  let (minute, cs) ← number 2 2 cs
  let minute ← within 0 59 minute
  let cs ← char ':' cs
  let (second, cs) ← number 2 2 cs
  let second ← within 0 60 second
  let (nanos, cs) ← fraction? cs
  let (offset, cs) ← offset (char ':') cs
  let offset ← within (-maxOffset) maxOffset offset
  if cs.isEmpty then ({ year, month, day, hour, minute, second, nanos } : Fields).at offset
  else .error .tooLong

/-! ## With blanks and short numbers -/

/-- Reads a number of one to `max` digits after blanks. -/
def unsigned (max : Nat) (cs : List Char) : Except TimeFault (Int × List Char) :=
  number 1 max (trimStart cs)

/-- Reads a year after blanks: up to four digits, or a sign and any number of digits. -/
def year (cs : List Char) : Except TimeFault (Int × List Char) := do
  let (n, cs) ← match trimStart cs with
    | '-' :: cs => do
      let (n, rest) ← number 1 cs.length.succ cs
      pure (-n, rest)
    | '+' :: cs => number 1 cs.length.succ cs
    | cs => number 1 4 cs
  let n ← within Int32.minValue.toInt Int32.maxValue.toInt n
  return (n, cs)

/-- Reads a date; `gap` passes over what may stand before a hyphen. -/
def date (gap : List Char → List Char) (cs : List Char) :
    Except TimeFault ((Int × Int × Int) × List Char) := do
  let (year, cs) ← year cs
  let cs ← char '-' (gap cs)
  let (month, cs) ← unsigned 2 cs
  let month ← within 1 12 month
  let cs ← char '-' (gap cs)
  let (day, cs) ← unsigned 2 cs
  let day ← within 1 31 day
  return ((year, month, day), cs)

/-- Reads a time of day with an optional fraction; `gap` passes over what may stand before a
colon. -/
def time (gap : List Char → List Char) (cs : List Char) :
    Except TimeFault ((Int × Int × Int × Nat) × List Char) := do
  let (hour, cs) ← unsigned 2 cs
  let hour ← within 0 23 hour
  let cs ← char ':' (gap cs)
  let (minute, cs) ← unsigned 2 cs
  let minute ← within 0 59 minute
  let cs ← char ':' (gap cs)
  let (second, cs) ← unsigned 2 cs
  let second ← within 0 60 second
  let (nanos, cs) ← fraction? cs
  return ((hour, minute, second, nanos), cs)

/-- Passes over colons and blanks between the hours and the minutes of an offset. -/
def colonOrBlank (cs : List Char) : Except TimeFault (List Char) :=
  .ok (cs.dropWhile fun c => c == ':' || isBlank c)

/-- The text after `UTC`, in letters of either case. -/
def afterUtc? : List Char → Option (List Char)
  | a :: b :: c :: cs =>
    if a.toLower = 'u' ∧ b.toLower = 't' ∧ c.toLower = 'c' then some cs else none
  | _ => none

/-- Reads RFC 3339 in a wider sense: numbers may be short, blanks may stand between the parts, and
the zone may be `UTC`. -/
def relaxed (cs : List Char) : Except TimeFault Instant := do
  let ((year, month, day), cs) ← date trimStart cs
  let cs ← dateTimeSeparator cs
  let ((hour, minute, second, nanos), cs) ← time trimStart cs
  let cs := trimStart cs
  let (offset, cs) ← match afterUtc? cs with
    | some cs => pure (0, cs)
    | none => offset colonOrBlank cs
  if (trimStart cs).isEmpty then
    ({ year, month, day, hour, minute, second, nanos } : Fields).at offset
  else .error .tooLong

/-- Reads `YYYY-MM-DD HH:MM:SS UTC` with an optional fraction; numbers may be short and follow
blanks. -/
def plain (cs : List Char) : Except TimeFault Instant := do
  let ((year, month, day), cs) ← date id cs
  let ((hour, minute, second, nanos), cs) ← time id (trimStart cs)
  match trimStart cs with
  | ['U', 'T', 'C'] => ({ year, month, day, hour, minute, second, nanos } : Fields).at 0
  | _ => .error .invalid

end Reader

namespace Instant

/-- The instant that a strict RFC 3339 text denotes. -/
def ofRfc3339? (s : String) : Option Instant := (Reader.strict s.toList).toOption

/-- The instant that a text in the plain UTC form denotes. -/
def ofUtcText? (s : String) : Option Instant := (Reader.plain s.toList).toOption

end Instant

end SigningConsole.Calendar
