import SigningConsole.Console.Program
import Std.Time.DateTime.Timestamp
/-!
The console as a program. It reads the files that the command line and the settings name, runs the
command on them, and writes back what has changed. It has no network of its own: what answers is a
parameter of the program, and the one that is run finds a backend that cannot be reached. Every
reading of the clock is the instant at which the run began.
-/

namespace SigningConsole

/-- The variables that are read from the environment of the process. -/
def readEnvironment : IO Environment := do
  let names :=
    ["SIGNATRUST_URL", "SIGNATRUST_LOGIN_URL", "SIGNATRUST_LOGOUT_URL", "SIGNATRUST_COOKIE_DOMAIN",
      "SIGNATRUST_TIMEOUT_SECS", "SIGNATRUST_VARIANT", "SIGNATRUST_SESSION_FILE",
      "SIGNATRUST_SESSION_MAX_AGE_SECS",
    "RUST_LOG", "HOME", "XDG_CACHE_HOME"]
  names.foldlM
    (fun (env : Environment) name => do
      match ← IO.getEnv name with
      | some value => return env.insert name value
      | none => return env)
    (∅ : Environment)

/-- Where the session file is unless told otherwise: in the user's cache, or else in the
working directory. -/
def defaultSession (env : Environment) : String :=
  let cache := (env.get? "XDG_CACHE_HOME").or ((env.get? "HOME").map fun home => home ++ "/.cache")
  cache.getD "." ++ "/signatrust/session.json"

/-- The paths that an argument may name. -/
def pathsOf (arg : String) : List String :=
  match Text.splitFirst? '=' arg.toList with
  | some (_, value) => [arg, String.ofList value]
  | none => [arg]

/-- Adds what stands at a path to the files. -/
def readPath (files : Files) (path : String) : IO Files := do
  try
    let content ← IO.FS.readBinFile path
    return files.place path content.toList
  catch
    | .noFileOrDirectory .. => return files
    | _ => return (files.makeDirectories path).toOption.getD files

/-- Writes what has changed: directories, files, and whose files they are; removes the
files that are gone. -/
def writeBack (before after : Files) : IO Unit := do
  for (path, node) in after.entries do
    unless before.get? path == some node do
      match node with
      | .directory => IO.FS.createDirAll path
      | .file content ownerOnly =>
        IO.FS.writeBinFile path ⟨content.toArray⟩
        if ownerOnly then IO.setAccessRights path { user := { read := true, write := true } }
  for (path, _) in before.contents do
    unless after.holds path do IO.FS.removeFile path

/-- The present time. -/
def readClock : IO Calendar.ClockTime := do
  let now := (← Std.Time.Timestamp.now).toNanosecondsSinceUnixEpoch.val
  return (Calendar.ClockTime.of? (now / 1000000000) (now % 1000000000).toNat).getD default

/-- Runs the console on a command line, with a backend that answers. -/
def runWith (backend : Backend) (args : List String) : IO UInt32 := do
  let environment ← readEnvironment
  let session := defaultSession environment
  let named :=
    [Surroundings.variablesFile, session] ++ (environment.get? Variable.sessionFile.name).toList ++
    args.flatMap pathsOf
  let files ← named.foldlM readPath (∅ : Files)
  let input ←
    if args.contains CooperatorCommand.standardInput then (← IO.getStdin).readToEnd else pure ""
  let now ← readClock
  let s : Surroundings :=
    { environment, files, backend, input := Text.Utf8.ofString input
      clock := fun _ => now, logClock := fun _ => now, defaultSession := session }
  let exit := s.run args
  writeBack files exit.files
  match exit.texts with
  | some (output, log) =>
    IO.print output
    IO.eprint log
  | none => IO.eprintln ("signatrust: exit code " ++ toString exit.code)
  return UInt32.ofNat exit.code

end SigningConsole

open SigningConsole

/-- Runs the console where no backend can be reached. -/
def main (args : List String) : IO UInt32 := runWith .unreachable args
