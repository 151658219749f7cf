import SigningConsole.Backend.Calls
import SigningConsole.Statistics.Window
/-!
The statistics that were fetched last. A change of the window drops the growth that was
counted over the old one.
-/

namespace SigningConsole

/-- A window and the statistics fetched for it. -/
structure Statistics where
  window : TimeWindow
  byCooperator : Option Json := none
  growth : Option Json := none

namespace Statistics

variable {σ : Type}

/-- Changes the window. -/
def withWindow (s : Statistics) (window : TimeWindow) : Statistics :=
  { s with window, growth := none }

/-- Fetches the counts by cooperator. -/
def fetchCounts (calls : StatisticsCalls σ) (s : Statistics) :
    StateM σ (Except BackendError Unit × Statistics) := do
  match ← calls.certificateCounts.run with
  | .ok counts => return (.ok (), { s with byCooperator := some counts })
  | .error e => return (.error e, s)

/-- Fetches the growth over the window. -/
def fetchIncrease (calls : StatisticsCalls σ) (s : Statistics) :
    StateM σ (Except BackendError Unit × Statistics) := do
  match ← (calls.certificateGrowth s.window.params).run with
  | .ok growth => return (.ok (), { s with growth := some growth })
  | .error e => return (.error e, s)

end Statistics

end SigningConsole
