import SigningConsole.Console.Certificates
/-!
The commands about statistics.
-/

namespace SigningConsole

open Calendar Text

namespace StatisticsCommand

/-- Runs an operation of the statistics. -/
def withStatistics (op : Statistics → StateM Console (Except BackendError Unit × Statistics)) :
    Run Statistics := do
  let (result, statistics) ← op (← get).statistics
  modify fun c => { c with statistics }
  Run.answered result
  return statistics

/-- Prints counts as a table, or a value without counts as it is. -/
def printCounts (v : Json) : Run Unit := do
  let pairs := Report.counts v
  if pairs.isEmpty then Run.line (← Run.demand (Report.valueText? v))
  else Run.table (← Run.demand (Report.shareTable? pairs))

/-- Counts certificates by cooperator. -/
def runTypes (e : Setup) : Run Unit := do
  let s ← withStatistics (Statistics.fetchCounts e.client.statistics)
  match s.byCooperator with
  | some v => if e.json then Run.json v else printCounts v
  | none => pure ()

/-- Counts certificates over a window that ends now. -/
def runGrowth (e : Setup) (hours : Int) (growthStep : GrowthStep) : Run Unit := do
  match TimeWindow.ofHours? (← e.now) hours growthStep with
  | none => throw (.badWindow hours)
  | some window =>
    modify fun c => { c with statistics := c.statistics.withWindow window }
    let s ← withStatistics (Statistics.fetchIncrease e.client.statistics)
    match s.growth with
    | none => pure ()
    | some v =>
      if e.json then Run.json (window.toJson [("series", v)]).normalize
      else
        let start ← Run.demand window.start.consoleText?
        let stop ← Run.demand window.stop.consoleText?
        Run.line (String.ofList (start ++ [' ', 't', 'o', ' '] ++ stop ++ [' ', 'b', 'y', ' '] ++
          window.growthStep.text.toList))
        printCounts v

/-- Runs a command. -/
def run (e : Setup) : StatisticsCommand → Run Unit
  | types => runTypes e
  | growth hours growthStep => runGrowth e hours growthStep

end StatisticsCommand

end SigningConsole
