import SigningConsole.Calendar.Display
import SigningConsole.Calendar.Reader
/-!
Timestamps of the backend as the console shows them.
-/

namespace SigningConsole.Report

open Calendar

/-- The instant that a timestamp of the backend denotes, in either of its two forms. -/
def readTimestamp? (raw : String) : Option Instant :=
  Instant.ofRfc3339? raw <|> Instant.ofUtcText? raw

/-- A timestamp in the display zone; a text that is none is shown as it is. There is no text for an
instant whose local date does not exist. -/
def timestamp? (raw : String) : Option String :=
  if raw.isEmpty then some "-"
  else
    match readTimestamp? raw with
    | some t => t.consoleText?.map String.ofList
    | none => some raw

end SigningConsole.Report
