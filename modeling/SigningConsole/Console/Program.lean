import SigningConsole.Command.Grammar
import SigningConsole.Console.Login
import SigningConsole.Console.Statistics
import SigningConsole.EnvironmentFile
/-!
A call of the console from the command line to the exit code.
-/

namespace SigningConsole

open Calendar Text

/-- The version of the console. -/
def version : String := "0.1.0"

/-- What is printed about the version. -/
def versionText : String := "signatrust " ++ version ++ " (core " ++ version ++ ")\n"

/-- Whether a failure stops the program on the spot. -/
def Failure.isFatal : Failure → Bool
  | outOfRange => true
  | auth .expiryOutOfRange => true
  | settings .maxAgeOutOfRange => true
  | _ => false

/-! ## Commands -/

namespace Command

/-- Runs a command. -/
def run (e : Setup) : Command → Run Unit
  | version => Run.print versionText
  | login way => Run.login e way
  | logout => Run.logout e
  | whoami cookie permissions => Run.whoami e cookie permissions
  | visit path => Run.visit e path
  | keys command => command.run e
  | tokens command => command.run e
  | cert command => command.run e
  | cooperator command => command.run e
  | statistics command => command.run e

/-- The part of the console that the program's own entries name. -/
def component : String := "signatrust"

/-- Gives the session up after it was rejected, and says where to log in. -/
def giveUp (e : Setup) : Run Unit := do
  Run.auth (← Run.flow (LoginFlow.invalidate e.store))
  Run.log ⟨.warn, component, "Not logged in. Sign in at " ++ e.settings.loginUrl.text⟩

/-- Runs a command to its end: a session that was rejected is given up. -/
def runToEnd (e : Setup) (c : Command) : StateM Console (Except Failure Unit) := do
  match ← (c.run e).run with
  | .error (.backend .unauthorized) =>
    match ← (giveUp e).run with
    | .ok _ => return .error (.backend .unauthorized)
    | .error cause => return .error cause
  | result => return result

end Command

/-! ## Calls -/

/-- What a call of the console finds. -/
structure Surroundings where
  environment : Environment
  files : Files
  input : List UInt8
  clock : Clock
  /-- What the clock shows when the entries of the log are written. -/
  logClock : Clock
  /-- Where the session file is unless told otherwise. -/
  defaultSession : String
  backend : Backend

/-- What a call of the console comes to. -/
inductive Conclusion where
  /-- The command line is refused, or answered with a text about itself. -/
  | usage (fault : UsageFault)
  | version
  | unsettled (cause : SettingsError)
  /-- The console could not be started. -/
  | unstarted (settings : Settings) (cause : Failure) (files : Files)
  | finished (settings : Settings) (result : Except Failure Unit) (console : Console)

namespace Surroundings

/-- The setup of a command line under some settings. -/
def setup (s : Surroundings) (settings : Settings) (json : Bool) : Setup where
  settings := settings
  sessionPath := settings.sessionFile.getD s.defaultSession
  clock := s.clock
  json := json
  backend := s.backend
  input := s.input

/-- Starts a console and runs a command. -/
def start (s : Surroundings) (settings : Settings) (json : Bool) (command : Command) : Conclusion :=
  let e := s.setup settings json
  match e.start s.files with
  | (.error cause, files) => .unstarted settings cause files
  | (.ok console, _) =>
    let (result, console) := (command.runToEnd e).run console
    .finished settings result console

/-- Runs a command line that was read. -/
def runLine (s : Surroundings) (line : CommandLine) : Conclusion :=
  match line.command with
  | .version => .version
  | command =>
    match Settings.ofEnvironment s.environment with
    | .error cause => .unsettled cause
    | .ok settings => s.start (settings.override line.overrides) line.json command

/-- Reads a command line and runs it. -/
def call (s : Surroundings) (args : List String) : Conclusion :=
  match CommandLine.parse s.environment args with
  | .error fault => .usage fault
  | .ok line => s.runLine line

end Surroundings

/-- The exit code of a program that cannot go on. -/
def fatalCode : Nat := 101

namespace Conclusion

/-- Why the call failed, if it did. -/
def failure? : Conclusion → Option Failure
  | unsettled cause => some (.settings cause)
  | unstarted _ cause _ => some cause
  | finished _ (.error cause) _ => some cause
  | _ => none

/-- What was printed. -/
def output : Conclusion → String
  | version => versionText
  | finished _ _ console => console.output
  | _ => ""

/-- The files after the call, given those before it. -/
def files (before : Files) : Conclusion → Files
  | unstarted _ _ files => files
  | finished _ _ console => console.files
  | _ => before

/-- What was logged; a failure is the last entry. -/
def log (c : Conclusion) : List Log.Entry :=
  let entries := match c with | finished _ _ console => console.traffic.log | _ => []
  entries ++ c.failure?.toList.map fun cause => ⟨.error, Command.component, cause.message⟩

/-- The exit code. -/
def exitCode (c : Conclusion) : Nat :=
  match c with
  | usage fault => fault.exitCode
  | _ =>
    match c.failure? with
    | some cause => if cause.isFatal then fatalCode else 1
    | none => 0

end Conclusion

/-! ## Programs -/

/-- What a program leaves behind: its exit code, its files, and what it printed and logged unless
that is a text about the command line. -/
structure Exit where
  code : Nat
  texts : Option (String × String)
  files : Files

namespace Surroundings

/-- The file of variables in the working directory. -/
def variablesFile : String := ".env"

/-- The surroundings with the variables of the file; `none` if one of them cannot be set. -/
def withVariables? (s : Surroundings) : Option Surroundings :=
  match s.files.read variablesFile with
  | .ok bytes =>
    (EnvironmentFile.load? s.environment bytes).map fun environment => { s with environment }
  | .error _ => some s

/-- The filter of the log: the variable's, if it can be read, or else the one that the
command line asks for. -/
def filter (s : Surroundings) (args : List String) : Log.Filter :=
  let verbose := (CommandLine.parse s.environment args).toOption.any (·.verbose)
  ((s.environment.get? "RUST_LOG").bind Log.Filter.ofText?).getD
    (.upTo (if verbose then .debug else .info))

/-- The text of a log. -/
def logText (s : Surroundings) (filter : Log.Filter) (entries : List Log.Entry) : String :=
  String.ofList
    ((entries.filter filter.passes).zipIdx.flatMap fun (entry, n) => entry.line (s.logClock n))

/-- What a conclusion leaves on the outputs. -/
def texts? (s : Surroundings) (filter : Log.Filter) (c : Conclusion) : Option (String × String) :=
  match c with
  | .usage .version => some ("signatrust " ++ version ++ "\n", "")
  | .usage _ => none
  | _ => if 1 < c.exitCode then none else some (c.output, s.logText filter c.log)

/-- Runs the program on the variables that it finds. -/
def runHere (s : Surroundings) (args : List String) : Exit :=
  let c := s.call args
  { code := c.exitCode, texts := s.texts? (s.filter args) c, files := c.files s.files }

/-- Runs the program. Without all variables of the file nothing is done. -/
def run (s : Surroundings) (args : List String) : Exit :=
  match s.withVariables? with
  | some s => s.runHere args
  | none => { code := fatalCode, texts := none, files := s.files }

end Surroundings

end SigningConsole
