import SigningConsole.Text.Decimal
import SigningConsole.Text.Split
import SigningConsole.Text.StringMap
import SigningConsole.Text.Utf8
/-!
Files and directories as a program finds them.

A location is the list of names that leads to a file from the working directory, or, behind an empty
name, from the root. `Files.locate` finds the location of a path and demands that everything on the
way is a directory.
-/

namespace SigningConsole

open Text

/-- What stands at a location. -/
inductive FileNode where
  | file (content : List UInt8) (ownerOnly : Bool)
  | directory
deriving DecidableEq, Repr

/-- Why an operation on a file fails. -/
inductive FileError where
  | notFound
  | alreadyExists
  | notADirectory
  | isADirectory
  /-- A name or the whole path is too long. -/
  | invalidFilename
  /-- The content is not UTF-8. -/
  | invalidData
  /-- The name holds a character with code zero. -/
  | invalidInput
deriving DecidableEq, Repr

namespace FileError

/-- The name of a cause. -/
def kind : FileError → String
  | notFound => "NotFound"
  | alreadyExists => "AlreadyExists"
  | notADirectory => "NotADirectory"
  | isADirectory => "IsADirectory"
  | invalidFilename => "InvalidFilename"
  | invalidData => "InvalidData"
  | invalidInput => "InvalidInput"

/-- The code of the operating system and its wording, if the system reports the cause. -/
def system? : FileError → Option (Nat × String)
  | notFound => some (2, "No such file or directory")
  | alreadyExists => some (17, "File exists")
  | notADirectory => some (20, "Not a directory")
  | isADirectory => some (21, "Is a directory")
  | invalidFilename => some (36, "File name too long")
  | _ => none

/-- The wording of a cause that the operating system does not report. -/
def plainText : FileError → String
  | invalidInput => "file name contained an unexpected NUL byte"
  | _ => "stream did not contain valid UTF-8"

/-- The wording. -/
def message (e : FileError) : String :=
  match e.system? with
  | some (code, text) => text ++ " (os error " ++ natText code ++ ")"
  | none => e.plainText

end FileError

/-- The files by location, each location written with slashes. -/
abbrev Files := StringMap FileNode

namespace Files

/-- A location as it is written. -/
def written (location : List String) : String := "/".intercalate location

/-- The location of the root. -/
def root : List String := [""]

/-- What stands at a location; the working directory itself is the empty one. -/
def node? (fs : Files) (location : List String) : Option FileNode :=
  if location = [] ∨ location = root then some .directory else fs.get? (written location)

/-- The names of a path that are followed. A slash at the end leads to the directory
itself, as a dot does. -/
def trail (path : String) : List String :=
  ((splitAll '/' path.toList).map String.ofList).filter (!·.isEmpty) ++
  if path.endsWith "/" then ["."] else []

/-- The names of a path. -/
def steps (path : String) : List String := (trail path).filter (· ≠ ".")

/-- Where the names of a path are followed from. -/
def origin (path : String) : List String := if path.startsWith "/" then root else []

/-- The location above another; there is none above the root. -/
def above (location : List String) : List String :=
  if location = root then root else location.dropLast

/-- The most bytes of one name. -/
def maxNameBytes : Nat := 255

/-- The most bytes of a whole path. -/
def maxPathBytes : Nat := 4095

/-- Whether a name has too many bytes. -/
def isTooLong (name : String) : Bool := maxNameBytes < name.utf8ByteSize

/-- Why no operation can be tried on a path, whatever the files are. -/
def badPath? (path : String) : Option FileError :=
  if '\x00' ∈ path.toList then some .invalidInput
  else if maxPathBytes < path.utf8ByteSize then some .invalidFilename
  else none

/-- Follows names from a location. -/
def follow (fs : Files) (location : List String) : List String → Except FileError (List String)
  | [] => .ok location
  | name :: names =>
    match fs.node? location with
    | some .directory =>
      if name = "." then follow fs location names
      else if name = ".." then follow fs (above location) names
      else if isTooLong name then .error .invalidFilename
      else follow fs (location ++ [name]) names
    | some (.file _ _) => .error .notADirectory
    | none => .error .notFound

/-- The location of a path. -/
def locate (fs : Files) (path : String) : Except FileError (List String) :=
  if path.isEmpty then .error .notFound
  else
    match badPath? path with
    | some e => .error e
    | none => follow fs (origin path) (trail path)

/-- Whether a path stands for a directory that is not there, in a place where it could be. -/
def lacksDirectory (fs : Files) (path : String) : Bool :=
  path.endsWith "/" && !(fs.locate path).isOk &&
    let names := (trail path).dropLast
    match follow fs (origin path) names with
    | .ok location => (fs.node? location).isNone
    | .error e =>
      -- a name that is too long is no directory either, if it is the last
      e == .invalidFilename && (badPath? path).isNone &&
      (follow fs (origin path) names.dropLast).isOk

/-- What stands at a path. -/
def lookup (fs : Files) (path : String) : Except FileError FileNode := do
  match fs.node? (← fs.locate path) with
  | some node => .ok node
  | none => .error .notFound

/-- Whether something stands at a path. -/
def holds (fs : Files) (path : String) : Bool := (fs.lookup path).isOk

/-- The bytes of a file. -/
def read (fs : Files) (path : String) : Except FileError (List UInt8) := do
  match ← fs.lookup path with
  | .file content _ => .ok content
  | .directory => .error .isADirectory

/-- The text of a file. -/
def readText (fs : Files) (path : String) : Except FileError String := do
  match Utf8.toString? (← fs.read path) with
  | some text => .ok text
  | none => .error .invalidData

/-- Replaces the bytes of a file; a new one can be read by everyone. -/
def write (fs : Files) (path : String) (content : List UInt8) : Except FileError Files := do
  if fs.lacksDirectory path then throw .isADirectory
  let location ← fs.locate path
  match fs.node? location with
  | some .directory => .error .isADirectory
  | some (.file _ ownerOnly) => .ok (fs.insert (written location) (.file content ownerOnly))
  | none => .ok (fs.insert (written location) (.file content false))

/-- Leaves a file to its owner alone. -/
def restrict (fs : Files) (path : String) : Except FileError Files := do
  let location ← fs.locate path
  match fs.node? location with
  | some (.file content _) => .ok (fs.insert (written location) (.file content true))
  | some .directory => .ok fs
  | none => .error .notFound

/-- Takes a file away. -/
def remove (fs : Files) (path : String) : Except FileError Files := do
  let location ← fs.locate path
  match fs.node? location with
  | some (.file _ _) => .ok (fs.erase (written location))
  | some .directory => .error .isADirectory
  | none => .error .notFound

/-- Makes the directories that names lead to from a location. -/
def makeFrom (fs : Files) (location : List String) : List String → Except FileError Files
  | [] => .ok fs
  | name :: names =>
    let next := if name = ".." then above location else location ++ [name]
    if isTooLong name then .error .invalidFilename
    else
      match fs.node? next with
      | some .directory => makeFrom fs next names
      | some (.file _ _) => .error (if names.isEmpty then .alreadyExists else .notADirectory)
      | none => makeFrom (fs.insert (written next) .directory) next names

/-- Makes a directory with all the directories that lead to it. -/
def makeDirectories (fs : Files) (path : String) : Except FileError Files :=
  match badPath? path with
  | some e => .error e
  | none => makeFrom fs (origin path) (steps path)

/-- The path of the directory that holds a path. -/
def parentPath (path : String) : String := written (origin path ++ (steps path).dropLast)

/-- The last name of a path, unless it stands for a parent. -/
def fileName? (path : String) : Option String := (steps path).getLast?.filter (· ≠ "..")

/-- A path with a name added to it. -/
def child (path name : String) : String :=
  if path.endsWith "/" then path ++ name else path ++ "/" ++ name

/-- Puts a file and the directories that lead to it in place, over whatever stands there. -/
def place (fs : Files) (path : String) (content : List UInt8) : Files :=
  match (fs.makeDirectories (parentPath path)).bind fun fs => fs.write path content with
  | .ok fs => fs
  | .error _ => fs

/-- The files with their contents, by path. -/
def contents (fs : Files) : List (String × List UInt8) :=
  fs.entries.filterMap fun (path, node) =>
    match node with
    | .file content _ => some (path, content)
    | .directory => none

/-- The files below the working directory with their contents, by path. -/
def below (fs : Files) : List (String × List UInt8) :=
  fs.contents.filter fun (path, _) => !path.startsWith "/"

end Files

end SigningConsole
