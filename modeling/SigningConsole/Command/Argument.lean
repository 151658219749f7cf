import SigningConsole.Command.Basic
/-!
The arguments of a command line: their values, their forms, and how one level of
commands reads its tokens.

A level takes tokens until it meets the name of a command. An option keeps its value back until the
next argument comes or the level ends; only then the value is read, so that of two faults the later
one may be reported.
-/

namespace SigningConsole

open Text

/-- Why a command line is refused, or answered with a text about itself. -/
inductive UsageFault where
  | missingCommand
  | unknownCommand
  | unknownArgument
  | missingArgument
  /-- A value is empty or missing. -/
  | emptyValue
  /-- A value cannot be read. -/
  | badValue
  /-- Arguments exclude each other, or one occurs twice. -/
  | conflict
  /-- A flag is given a value. -/
  | unneededValue
  | help
  | helpForWantOfCommand
  | version
deriving DecidableEq, Repr

namespace UsageFault

/-- The name of a cause. -/
def kind : UsageFault → String
  | missingCommand => "MissingSubcommand"
  | unknownCommand => "InvalidSubcommand"
  | unknownArgument => "UnknownArgument"
  | missingArgument => "MissingRequiredArgument"
  | emptyValue => "InvalidValue"
  | badValue => "ValueValidation"
  | conflict => "ArgumentConflict"
  | unneededValue => "TooManyValues"
  | help => "DisplayHelp"
  | helpForWantOfCommand => "DisplayHelpOnMissingArgumentOrSubcommand"
  | version => "DisplayVersion"

/-- The exit code that goes with a cause. -/
def exitCode : UsageFault → Nat
  | help => 0
  | version => 0
  | _ => 2

end UsageFault

/-! ## Values -/

/-- The value of an argument. -/
inductive ArgValue where
  | text (s : String)
  | url (u : Url)
  | variant (v : Variant)
  | visibility (v : Visibility)
  | field (f : KeyField)
  | growthStep (w : GrowthStep)
  | pair (key value : String)
  | word (n : UInt64)
  | int (n : Int)

/-- What the value of an argument must be. -/
inductive ArgKind where
  | text
  /-- The path of a file, which is not empty. -/
  | path
  | url
  | variant
  | visibility
  | field
  | growthStep
  | pair
  | word
  /-- An integer within bounds. -/
  | int (low high : Int)

/-- The kind of the numbers of keys and tokens. -/
def ArgKind.id : ArgKind := .int Int32.minValue.toInt Int32.maxValue.toInt

/-- Reads a value. -/
def ArgKind.read (kind : ArgKind) (s : String) : Except UsageFault ArgValue :=
  let good {ε α : Type} (f : α → ArgValue) : Except ε α → Except UsageFault ArgValue
    | .ok a => .ok (f a)
    | .error _ => .error .badValue
  let there {α : Type} (f : α → ArgValue) : Option α → Except UsageFault ArgValue
    | some a => .ok (f a)
    | none => .error .badValue
  match kind with
  | .text => .ok (.text s)
  | .path => if s.isEmpty then .error .emptyValue else .ok (.text s)
  | .url => good .url (Url.parse s)
  | .variant => good .variant (Variant.ofText? s)
  | .visibility => good .visibility (Visibility.ofText? s)
  | .field => good .field (KeyField.ofText? s)
  | .growthStep => good .growthStep (GrowthStep.ofText? s)
  | .pair => good (fun (k, v) => .pair k v) (Parameters.pairOfText? s)
  | .word => there .word (readUInt64? s.toList)
  | .int low high => there .int ((readInt64? s.toList).filter fun n => low ≤ n ∧ n ≤ high)

/-! ## Arguments -/

/-- The form of an argument. -/
inductive ArgForm where
  | flag
  | option
  /-- An option that may occur several times. -/
  | repeated
  | positional
  /-- Asks for help. -/
  | help
  /-- Asks for the version. -/
  | version
deriving DecidableEq

/-- An argument of a level. -/
structure Argument where
  /-- The name, which follows two dashes if the argument is no positional one. -/
  name : String
  form : ArgForm
  kind : ArgKind := .text
  short : Option Char := none
  required : Bool := false
  /-- The environment variable that stands in for the argument. -/
  fallback : Option Variable := none

/-- A level of a command line. -/
structure Level where
  arguments : List Argument
  /-- The commands that the level has; a level without any is a command itself. -/
  commands : List String := []
  /-- The arguments of which one at most may be given. -/
  exclusive : List String := []

/-- Where the values of an argument come from, the weakest first. -/
inductive ArgSource where
  | environment
  | commandLine
deriving DecidableEq

/-- An argument that was given, with its values. -/
structure Given where
  name : String
  source : ArgSource
  values : List ArgValue := []

/-- What a level has read so far. -/
structure Reading where
  given : List Given := []
  /-- The argument that came last, with its value unless that is still to come. -/
  pending : Option (Argument × Option String) := none
  /-- Whether all further tokens are values. -/
  onlyValues : Bool := false
  /-- How many positional arguments were read. -/
  positionals : Nat := 0

namespace Reading

/-- Whether the last argument still wants its value. -/
def isWaiting (r : Reading) : Bool :=
  match r.pending with
  | some (_, none) => true
  | _ => false

/-- Whether an argument was given. -/
def has (r : Reading) (name : String) : Bool := r.given.any (·.name == name)

/-- Adds the values of an argument. One that may not be repeated must not have been given before. -/
def add (r : Reading) (source : ArgSource) (a : Argument) (texts : List String) :
    Except UsageFault Reading := do
  if a.form = .repeated then
    let values ← texts.mapM a.kind.read
    return { r with given := r.given ++ [⟨a.name, source, values⟩] }
  else if r.has a.name then throw .conflict
  else
    let values ← texts.mapM a.kind.read
    return { r with given := r.given ++ [⟨a.name, source, values⟩] }

/-- Reads the value that was kept back. -/
def settle (r : Reading) : Except UsageFault Reading :=
  match r.pending with
  | none => .ok r
  | some (_, none) => .error .emptyValue
  | some (a, some text) => { r with pending := none }.add .commandLine a [text]

/-- Takes a flag, which has no value. -/
def takeFlag (r : Reading) (a : Argument) : Except UsageFault Reading := do
  let r ← r.settle
  match a.form with
  | .help => throw .help
  | .version => throw .version
  | _ => r.add .commandLine a []

/-- Takes an option, with its value if that is attached. -/
def takeOption (r : Reading) (a : Argument) (attached : Option String) :
    Except UsageFault Reading := do
  let r ← r.settle
  match attached with
  | some text => r.add .commandLine a [text]
  | none => return { r with pending := some (a, none) }

end Reading

namespace Argument

/-- Whether a value belongs to the argument. -/
def takesValue (a : Argument) : Bool := a.form = .option || a.form = .repeated

end Argument

namespace Level

/-- The argument that follows two dashes. -/
def long? (l : Level) (name : String) : Option Argument :=
  l.arguments.find? fun a => a.form ≠ .positional ∧ a.name = name

/-- The argument of a single character. -/
def short? (l : Level) (c : Char) : Option Argument := l.arguments.find? fun a => a.short = some c

/-- The positional arguments in order. -/
def positional? (l : Level) (index : Nat) : Option Argument :=
  (l.arguments.filter fun a => a.form = .positional)[index]?

/-- Takes `--name` or `--name=value`. -/
def takeLong (l : Level) (r : Reading) (body : List Char) : Except UsageFault Reading :=
  let (name, attached) :=
    match splitFirst? '=' body with
    | some (name, value) => (String.ofList name, some (String.ofList value))
    | none => (String.ofList body, none)
  match l.long? name with
  | none => .error .unknownArgument
  | some a =>
    if a.takesValue then r.takeOption a attached
    else if attached.isSome then .error .unneededValue
    else r.takeFlag a

/-- The value that is attached to a short option, with an equals sign or without. -/
def attachedShort : List Char → Option String
  | [] => none
  | '=' :: cs => some (String.ofList cs)
  | cs => some (String.ofList cs)

/-- Takes the characters after a single dash: flags, and at last an option with its value. -/
def takeShort (l : Level) (r : Reading) : List Char → Except UsageFault Reading
  | [] => .ok r
  | c :: cs =>
    match l.short? c with
    | none => .error .unknownArgument
    | some a =>
      if a.takesValue then r.takeOption a (attachedShort cs)
      else do
        let r ← r.takeFlag a
        takeShort l r cs

/-- Takes a value: that of the option which waits for one, or a positional argument. -/
def takeValue (l : Level) (r : Reading) (token : String) : Except UsageFault Reading :=
  match if r.onlyValues then none else r.pending with
  | some (a, none) => .ok { r with pending := some (a, some token) }
  | _ =>
    match l.positional? r.positionals with
    | some a => do
      let r ← r.settle
      return { r with pending := some (a, some token), positionals := r.positionals + 1 }
    | none =>
      -- behind two dashes the name of a command is a stray value
      if l.commands.isEmpty || (r.onlyValues && l.commands.contains token) then
        .error .unknownArgument
      else .error .unknownCommand

/-- Takes a token that is not the name of a command. -/
def take (l : Level) (r : Reading) (token : String) : Except UsageFault Reading :=
  if r.onlyValues then l.takeValue r token
  else
    match token.toList with
    | ['-', '-'] => .ok { r with onlyValues := true }
    | '-' :: '-' :: body => l.takeLong r body
    | '-' :: c :: body => l.takeShort r (c :: body)
    | _ => l.takeValue r token

/-- Takes tokens up to the name of a command; what is left of them comes with the name. -/
def scan (l : Level) (r : Reading) :
    List String → Except UsageFault (Reading × Option (String × List String))
  | [] => .ok (r, none)
  | token :: tokens =>
    if !r.onlyValues && !r.isWaiting && l.commands.contains token then .ok (r, some (token, tokens))
    else do
      let r ← l.take r token
      scan l r tokens

/-- Takes an argument's value from the environment, unless the argument was given. -/
def takeFallback (env : Environment) (r : Reading) (a : Argument) : Except UsageFault Reading :=
  if r.has a.name then .ok r
  else
    match a.fallback.bind fun v => env.get? v.name with
    | some text => r.add .environment a [text]
    | none => .ok r

/-- Ends a level: reads what was kept back and the environment, and demands what must be there. -/
def finish (l : Level) (env : Environment) (r : Reading) (entered : Bool) :
    Except UsageFault (List Given) := do
  let r ← r.settle
  let r ← l.arguments.foldlM (takeFallback env) r
  if !entered && !l.commands.isEmpty then
    throw (if r.given.isEmpty then .helpForWantOfCommand else .missingCommand)
  if 1 < (l.exclusive.filter r.has).length then throw .conflict
  if l.arguments.any fun a => a.required && !r.has a.name then throw .missingArgument
  return r.given

end Level

end SigningConsole
