import SigningConsole.Files
import SigningConsole.Part
import SigningConsole.Session.Codec
/-!
Where the session is kept: in memory or in a file.

A store is three operations on the state of the world. `SessionStore.current` reads the session that
can be used: one whose time is over is taken out of the store and reads as absent.
-/

namespace SigningConsole

open Calendar Text

/-- Why an operation of a store fails. -/
inductive StoreError where
  | file (cause : FileError)
  /-- The file holds no session. -/
  | corrupt (cause : Json.ReadFault)
deriving DecidableEq, Repr

/-- The wording. -/
def StoreError.message : StoreError → String
  | file cause => "Session IO error: " ++ cause.message
  | corrupt cause => "Session file is corrupt: " ++ cause.message

/-- An operation of a store. -/
abbrev StoreM (σ : Type) := ExceptT StoreError (StateM σ)

/-- A place that holds at most one session. -/
structure SessionStore (σ : Type) where
  /-- The session as it is stored, whether its time is over or not. -/
  load : StoreM σ (Option Session)
  save (s : Session) : StoreM σ Unit
  /-- Takes the session away, if there is one. -/
  clear : StoreM σ Unit

namespace SessionStore

variable {σ τ : Type}

/-- The session that can be used at a time. -/
def current (store : SessionStore σ) (now : Instant) : StoreM σ (Option Session) := do
  match ← store.load with
  | some s =>
    if s.isExpired now then
      store.clear
      return none
    else return some s
  | none => return none

/-- The store on a larger state. -/
def onPart (store : SessionStore τ) (p : Part σ τ) : SessionStore σ where
  load := ExceptT.mk (p.run store.load.run)
  save s := ExceptT.mk (p.run (store.save s).run)
  clear := ExceptT.mk (p.run store.clear.run)

/-- The store that keeps the session in memory. -/
def memory : SessionStore (Option Session) where
  load := get
  save s := set (some s)
  clear := set (none : Option Session)

/-- Runs a change of the files. -/
def changeFiles (change : Files → Except FileError Files) : StoreM Files Unit := do
  match change (← get) with
  | .ok files => set files
  | .error e => throw (.file e)

/-- The store that keeps the session in a file, for its owner alone. -/
def file (path : String) : SessionStore Files where
  load := do
    let files ← get
    if files.holds path then
      match files.readText path with
      | .error e => throw (.file e)
      | .ok text =>
        match Session.ofFileText text with
        | .ok s => return s
        | .error e => throw (.corrupt e)
    else return none
  save s := do
    changeFiles fun files => files.makeDirectories (Files.parentPath path)
    changeFiles fun files => files.write path (Utf8.ofString s.fileText)
    changeFiles fun files => files.restrict path
  clear := do
    match (← get).remove path with
    | .ok files => set files
    | .error .notFound => return ()
    | .error e => throw (.file e)

end SessionStore

end SigningConsole
