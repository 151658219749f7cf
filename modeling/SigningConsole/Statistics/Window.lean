import SigningConsole.Calendar.Display
import SigningConsole.Parameters
import SigningConsole.Session.Codec
/-!
The window of time over which growth is counted, and the size of its steps.
-/

namespace SigningConsole

open Calendar Text

/-- The size of the steps in which growth is counted. -/
inductive GrowthStep where
  | day
  | week
  | month
deriving DecidableEq, Repr

namespace GrowthStep

/-- The name of a step. -/
def text : GrowthStep → String
  | day => "day"
  | week => "week"
  | month => "month"

/-- Reads the name of a step. -/
def ofText? (s : String) : Except WordError GrowthStep :=
  readWord .growthStep [("day", day), ("week", week), ("month", month)] s

end GrowthStep

/-- A window of time. -/
structure TimeWindow where
  start : Instant
  stop : Instant
  growthStep : GrowthStep
deriving DecidableEq

namespace TimeWindow

/-- The length of the window that is taken unless another is given: half a year, in hours. -/
def defaultHours : Int := 4380

/-- The greatest length that an operator may ask for: fifty years, in hours. -/
def maxHours : Int := 50 * 366 * 24

/-- The window of a positive number of hours that ends at an instant, if its start is an instant
too. -/
def ofHours? (stop : Instant) (hours : Int) (growthStep : GrowthStep) : Option TimeWindow :=
  if hours ≤ 0 then none
  else do
    let span ← spanOfHours? hours
    let start ← stop.add? (-span)
    return ⟨start, stop, growthStep⟩

/-- The window that is taken unless another is given. -/
def default? (now : Instant) : Option TimeWindow := ofHours? now defaultHours .month

/-- The length in seconds. -/
def seconds (w : TimeWindow) : Int := w.stop.secondsSince w.start

/-- The window as query parameters: both ends in milliseconds, and the step. -/
def params (w : TimeWindow) : Parameters :=
  [("startTime", intText w.start.toMillis), ("endTime", intText w.stop.toMillis),
    ("countWay", w.growthStep.text)]

/-- The window as JSON, with members from `more`. -/
def toJson (w : TimeWindow) (more : List (String × Json)) : Json :=
  .obj ([("start", w.start.toJson), ("end", w.stop.toJson),
    ("count_way", .str w.growthStep.text)] ++ more)

end TimeWindow

end SigningConsole
