import SigningConsole.Login.Flow
import SigningConsole.Command.Basic
import SigningConsole.Http.Client
import SigningConsole.Json.Printer
import SigningConsole.Key.Table
import SigningConsole.Report.Table
import SigningConsole.Screen
import SigningConsole.Statistics.State
import SigningConsole.TokenList
/-!
The state of a console while a command runs, and what the commands have in common.

A command is a function on that state that may fail; what was printed, sent and stored before the
failure stays. The clock may be read many times while a command runs, and nothing is said of how
far it goes on in between: the state counts the readings, and a reading that is made but not used
is of no consequence.
-/

namespace SigningConsole

open Calendar Text

/-! ## Failures -/

/-- Why a command fails. -/
inductive Failure where
  /-- A cookie header carries no session. -/
  | noCookie
  /-- A key would expire after the last date. -/
  | badValidity (days : Int)
  /-- A window of time would begin before the first date. -/
  | badWindow (hours : Int)
  /-- No page is at a path. -/
  | noPage (path : String) (variant : Variant)
  /-- A document about a cooperator is no object. -/
  | noObject
  | file (cause : FileError)
  | document (cause : Json.ReadFault)
  | backend (cause : BackendError)
  | auth (cause : LoginError)
  | settings (cause : SettingsError)
  /-- Something is too great to be computed with: the program stops at once. -/
  | outOfRange

namespace Failure

/-- A cause with its parts, as a log shows it. -/
def fileDetails (e : FileError) : String :=
  match e.system? with
  | some (code, text) =>
    "Os \x7b code: " ++ natText code ++ ", kind: " ++ e.kind ++ ", message: " ++
    quoted text ++ " \x7d"
  | none => "Error \x7b kind: " ++ e.kind ++ ", message: " ++ quoted e.plainText ++ " \x7d"

/-- The wording. -/
def message : Failure → String
  | noCookie => "no Signatrust, signatrust or Xsrf-Token cookie in the given header"
  | badValidity days => "cannot expire a key in " ++ intText days ++ " days"
  | badWindow hours => "a window of " ++ intText hours ++ " hours is out of range"
  | noPage path variant =>
    "no view at '" ++ path ++ "' (try '/' or '" ++ variant.tokensPath ++ "')"
  | noObject => "cooperator document must be a JSON object"
  | file e => "IO::" ++ fileDetails e ++ ": " ++ e.message
  | document e => "Json: " ++ e.message
  | backend e => e.message
  | auth e => e.message
  | settings e => "Config: " ++ e.message
  | outOfRange => "out of range"

end Failure

/-! ## State -/

/-- What does not change while a command runs. -/
structure Setup where
  settings : Settings
  /-- Where the session file is. -/
  sessionPath : String
  clock : Clock
  /-- Whether to print JSON instead of tables. -/
  json : Bool
  backend : Backend
  /-- What stands on the standard input. -/
  input : List UInt8

/-- The state of a console. -/
structure Console where
  files : Files
  /-- How often the clock was read; twice before the first command. -/
  readings : Nat := 2
  /-- What was printed. -/
  output : String := ""
  traffic : Traffic := {}
  flow : LoginFlow
  screen : Screen := {}
  keys : KeyTables
  tokens : TokenList := {}
  statistics : Statistics

/-- A command at work. -/
abbrev Run (α : Type) := ExceptT Failure (StateM Console) α

namespace Console

/-- The files as a part of the state. -/
def filesPart : Part Console Files :=
  ⟨Console.files, fun files c => { c with files }, fun _ _ => rfl, fun _ => rfl, fun _ _ _ => rfl⟩

/-- The traffic as a part of the state. -/
def trafficPart : Part Console Traffic :=
  ⟨Console.traffic, fun traffic c => { c with traffic }, fun _ _ => rfl, fun _ => rfl,
    fun _ _ _ => rfl⟩

end Console

namespace Setup

/-- The store of a console's session. -/
def store (e : Setup) : SessionStore Console :=
  (SessionStore.file e.sessionPath).onPart Console.filesPart

/-- Reads the clock. -/
def now (e : Setup) : StateM Console ClockTime := fun c =>
  (e.clock c.readings, { c with readings := c.readings + 1 })

/-- The calls of the backend. -/
def client (e : Setup) : Client Console where
  adapter := .forBackend Console.trafficPart e.store e.settings.base e.settings.loginUrl e.backend
  variant := e.settings.variant
  now := e.now

/-- Where the number of all keys comes from: the certification console cuts its list
into pages itself. -/
def totalFrom (e : Setup) : TotalFrom :=
  match e.settings.variant with
  | .signatrust => .server
  | .certification => .rows

/-- The console before its first command. -/
def start (e : Setup) (files : Files) : Except Failure Console × Files :=
  match LoginFlow.resume (SessionStore.file e.sessionPath) e.settings.policy (e.clock 0) files with
  | (.error cause, files) => (.error (.auth cause), files)
  | (.ok flow, files) =>
    match TimeWindow.default? (e.clock 1) with
    | none => (.error .outOfRange, files)
    | some window =>
      (.ok { files, flow, keys := .empty e.totalFrom, statistics := { window } }, files)

end Setup

/-! ## Steps of commands -/

namespace Run

/-- Makes a call of the backend. -/
def call {α : Type} (m : Call Console α) : Run α :=
  ExceptT.mk (do return (← m.run).mapError .backend)

/-- Demands that something can be computed. -/
def demand {α : Type} : Option α → Run α
  | some a => return a
  | none => throw .outOfRange

/-- Prints a text. -/
def print (text : String) : Run Unit := modify fun c => { c with output := c.output ++ text }

/-- Prints a line. -/
def line (text : String) : Run Unit := print (text ++ "\n")

/-- Prints a value over several lines. -/
def json (v : Json) : Run Unit := line v.pretty

/-- Prints a table. -/
def table (t : Table) : Run Unit := do print (← demand t.text?)

/-- Logs an entry. -/
def log (entry : Log.Entry) : Run Unit :=
  modify fun c => { c with traffic := c.traffic.addEntry entry }

/-- Reads the files. -/
def readFiles {α : Type} (read : Files → Except FileError α) : Run α := do
  match read (← get).files with
  | .ok a => return a
  | .error e => throw (.file e)

/-- Changes the files. -/
def changeFiles (change : Files → Except FileError Files) : Run Unit := do
  let files ← readFiles change
  modify fun c => { c with files }

/-- Runs an operation of the login flow. -/
def flow {α : Type} (op : LoginFlow → StateM Console (LoginStep α)) :
    Run (Except LoginError α) := do
  let (result, flow) ← op (← get).flow
  modify fun c => { c with flow }
  return result

/-- Fails with the error of an operation of the login flow. -/
def auth {α : Type} : Except LoginError α → Run α
  | .ok a => return a
  | .error e => throw (.auth e)

/-- Fails with the error of a call. -/
def answered {α : Type} : Except BackendError α → Run α
  | .ok a => return a
  | .error e => throw (.backend e)

/-- Changes the screen. -/
def screen (f : Screen → Screen) : Run Unit := modify fun c => { c with screen := f c.screen }

end Run

end SigningConsole
