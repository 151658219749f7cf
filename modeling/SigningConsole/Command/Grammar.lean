import SigningConsole.Command.Argument
/-!
The commands of the console with their arguments, and how a command line is read.

The command line names a command on one or two levels. The arguments that hold for all commands may
stand on any of them; of several values the one on the deepest level counts, and what is given
counts more than the environment.
-/

namespace SigningConsole

/-! ## What was given -/

/-- The arguments given on all levels, the deepest first. -/
abbrev Matches := List Given

namespace Matches

/-- The arguments of a name, those of the command line first. -/
def named (m : Matches) (name : String) : List Given :=
  let all := m.filter (·.name == name)
  all.filter (·.source = .commandLine) ++ all.filter (·.source = .environment)

/-- The values of an argument that may be repeated. -/
def values (m : Matches) (name : String) : List ArgValue := (m.named name).flatMap (·.values)

/-- The value of an argument. -/
def value? (m : Matches) (name : String) : Option ArgValue := (m.values name).head?

/-- Whether a flag was given. -/
def flag (m : Matches) (name : String) : Bool := m.any (·.name == name)

/-- A value that is a text. -/
def text? (m : Matches) (name : String) : Option String :=
  match m.value? name with
  | some (.text s) => some s
  | _ => none

/-- A value that is a URL. -/
def url? (m : Matches) (name : String) : Option Url :=
  match m.value? name with
  | some (.url u) => some u
  | _ => none

/-- A value that is a scope. -/
def visibility? (m : Matches) (name : String) : Option Visibility :=
  match m.value? name with
  | some (.visibility v) => some v
  | _ => none

/-- A value that is an unsigned number. -/
def word? (m : Matches) (name : String) : Option UInt64 :=
  match m.value? name with
  | some (.word n) => some n
  | _ => none

/-- A value that is an integer. -/
def int? (m : Matches) (name : String) : Option Int :=
  match m.value? name with
  | some (.int n) => some n
  | _ => none

/-- A value that is the number of a key or token. -/
def id? (m : Matches) (name : String) : Option Int32 := (m.int? name).map Int32.ofInt

/-- The values that are pairs, in order. -/
def pairs (m : Matches) (name : String) : List (String × String) :=
  (m.values name).filterMap fun
    | .pair k v => some (k, v)
    | _ => none

/-- What the command line overrides. -/
def overrides (m : Matches) : Overrides where
  base := m.url? "url"
  variant :=
    match m.value? "variant" with
    | some (.variant v) => some v
    | _ => none
  sessionFile := m.text? "session-file"
  timeout := m.word? "timeout"

/-- The field to search. -/
def select (m : Matches) : KeyField :=
  match m.value? "select" with
  | some (.field f) => f
  | _ => .name

/-- The page and the search of a listing. -/
def filter (m : Matches) : Listing where
  page := (m.word? "page").getD 1
  pageSize := (m.word? "page-size").getD 10
  search := (m.text? "search").getD ""
  select := m.select

/-- The step in which growth is counted. -/
def growthStep (m : Matches) : GrowthStep :=
  match m.value? "count-way" with
  | some (.growthStep w) => w
  | _ => .month

/-- What is said about a key. -/
def draft? (m : Matches) : Option KeyDescription := do
  return {
    name := ← m.text? "name"
    description := (m.text? "description").getD ""
    visibility := m.visibility? "visibility"
    keyType := ← m.text? "key-type"
    attributes := m.pairs "attr" }

/-- The way to log in. -/
def loginWay (m : Matches) : LoginWay :=
  match m.text? "api-key", m.text? "cookie", m.url? "callback" with
  | some key, _, _ => .apiKey key
  | none, some header, _ => .cookie header
  | none, none, some url => .callback url
  | none, none, none => .ask

end Matches

/-! ## Levels -/

/-- The arguments that hold for all commands. -/
def globalArguments : List Argument :=
  [{ name := "url", form := .option, kind := .url, fallback := some .url },
    { name := "variant", form := .option, kind := .variant, fallback := some .variant },
    { name := "session-file", form := .option, kind := .path, fallback := some .sessionFile },
    { name := "timeout", form := .option, kind := .word, fallback := some .timeout },
    { name := "json", form := .flag },
    { name := "verbose", form := .flag, short := some 'v' },
    { name := "help", form := .help, short := some 'h' }]

/-- A command at the end of a command line, and what it means when its arguments are given. -/
structure Leaf where
  arguments : List Argument := []
  exclusive : List String := []
  command : Matches → Option Command

/-- The level of a command. -/
def Leaf.level (l : Leaf) : Level where
  arguments := l.arguments ++ globalArguments
  exclusive := l.exclusive

/-- A command, or a group of commands. -/
inductive Entry where
  | leaf (l : Leaf)
  | group (leaves : List (String × Leaf))

/-- The name of the command that asks for help. -/
def helpName : String := "help"

/-- The level of a group. -/
def groupLevel (leaves : List (String × Leaf)) : Level where
  arguments := globalArguments
  commands := leaves.map (·.1) ++ [helpName]

/-- A positional argument that must be there. -/
def positional (name : String) (kind : ArgKind) : Argument :=
  { name, form := .positional, kind, required := true }

/-- An option. -/
def option (name : String) (kind : ArgKind) : Argument := { name, form := .option, kind }

/-- An option that must be there. -/
def needed (name : String) (kind : ArgKind) : Argument :=
  { name, form := .option, kind, required := true }

/-- An option with pairs, which has a short name too. -/
def pairOption (name : String) (short : Char) : Argument :=
  { name, form := .repeated, kind := .pair, short := some short }

/-- A command without arguments of its own. -/
def plainLeaf (command : Command) : Leaf := { command := fun _ => some command }

/-- A command that takes a number of a key or token. -/
def idLeaf (command : Int32 → Command) : Leaf where
  arguments := [positional "id" .id]
  command m := (m.id? "id").map command

/-- A command that takes free-form parameters. -/
def paramLeaf (command : Parameters → Command) : Leaf where
  arguments := [pairOption "param" 'p']
  command m := some (command (m.pairs "param"))

/-- The arguments of a draft of a key. -/
def draftArguments : List Argument :=
  [needed "name" .text, option "description" .text, option "visibility" .visibility,
    needed "key-type" .text, pairOption "attr" 'a']

/-- The greatest validity of a new key: one hundred years, in days. -/
def maxValidity : Int := 100 * 366

/-- The commands about keys. -/
def keyLeaves : List (String × Leaf) :=
  [("list",
      { arguments :=
          [option "visibility" .visibility, option "page" .word, option "page-size" .word,
            option "search" .text, option "select" .field]
        command := fun m => some (.keys (.list (m.visibility? "visibility") m.filter)) }),
    ("show", idLeaf fun id => .keys (.details id)),
    ("create",
      { arguments :=
          draftArguments ++ [option "parent-id" .id, option "expire-days" (.int 1 maxValidity)]
        command := fun m => do
          return .keys
            (.create (← m.draft?) (m.id? "parent-id") ((m.int? "expire-days").getD 365)) }),
    ("import",
      { arguments :=
          draftArguments ++ [needed "private-key" .path, needed "public-key" .path,
            option "certificate" .path]
        command := fun m => do
          return .keys (.importKey (← m.draft?)
            ⟨← m.text? "private-key", ← m.text? "public-key", m.text? "certificate"⟩) }),
    ("enable", idLeaf fun id => .keys (.act id .enable)),
    ("disable", idLeaf fun id => .keys (.act id .disable)),
    ("export",
      { arguments := [positional "id" .id, option "out" .path]
        command := fun m => (m.id? "id").map fun id => .keys (.exportKey id (m.text? "out")) }),
    ("request-delete", idLeaf fun id => .keys (.act id .requestDelete)),
    ("cancel-delete", idLeaf fun id => .keys (.act id .cancelDelete)),
    ("check-name",
      { arguments := [positional "name" .text, option "visibility" .visibility]
        command := fun m => (m.text? "name").map fun name =>
          .keys (.checkName name ((m.visibility? "visibility").getD .pub)) })]

/-- The commands about API tokens. -/
def tokenLeaves : List (String × Leaf) :=
  [("list", plainLeaf (.tokens .list)),
    ("create",
      { arguments := [positional "description" .text]
        command := fun m => (m.text? "description").map fun d => .tokens (.create d) }),
    ("delete", idLeaf fun id => .tokens (.delete id))]

/-- The file that certificates are exported to unless another is given. -/
def defaultExport : String := "certificates.csv"

/-- The commands about certificates. -/
def certLeaves : List (String × Leaf) :=
  [("search", paramLeaf fun ps => .cert (.search ps)),
    ("export",
      { arguments := [pairOption "param" 'p', option "out" .path]
        command := fun m =>
          some (.cert (.exportCsv (m.pairs "param") ((m.text? "out").getD defaultExport))) }),
    ("edit", paramLeaf fun ps => .cert (.edit ps)),
    ("upload-info", paramLeaf fun ps => .cert (.uploadInfo ps)),
    ("delete", paramLeaf fun ps => .cert (.delete ps))]

/-- The commands about cooperators. -/
def cooperatorLeaves : List (String × Leaf) :=
  [("list", paramLeaf fun ps => .cooperator (.list ps)),
    ("categories", paramLeaf fun ps => .cooperator (.categories ps)),
    ("types", plainLeaf (.cooperator .types)),
    ("save",
      { arguments := [positional "file" .path]
        command := fun m => (m.text? "file").map fun file => .cooperator (.save file) }),
    ("delete", paramLeaf fun ps => .cooperator (.delete ps)),
    ("detail", paramLeaf fun ps => .cooperator (.details ps)),
    ("upload-logo",
      { arguments := [positional "file" .path, option "mime" .text]
        command := fun m => (m.text? "file").map fun file =>
          .cooperator (.uploadLogo file (m.text? "mime")) })]

/-- The commands about statistics. -/
def statisticsLeaves : List (String × Leaf) :=
  [("types", plainLeaf (.statistics .types)),
    ("growth",
      { arguments := [option "hours" (.int 1 TimeWindow.maxHours), option "count-way" .growthStep]
        command := fun m => some (.statistics
          (.growth ((m.int? "hours").getD TimeWindow.defaultHours) m.growthStep)) })]

/-- All commands by name. -/
def entries : List (String × Entry) :=
  [("version", .leaf (plainLeaf .version)),
    ("login",
      .leaf
        { arguments := [option "callback" .url, option "api-key" .text, option "cookie" .text]
          exclusive := ["callback", "api-key", "cookie"]
          command := fun m => some (.login m.loginWay) }),
    ("logout", .leaf (plainLeaf .logout)),
    ("whoami",
      .leaf
        { arguments := [{ name := "cookie", form := .flag },
          { name := "permissions", form := .flag }]
          command := fun m => some (.whoami (m.flag "cookie") (m.flag "permissions")) }),
    ("open",
      .leaf
        { arguments := [positional "path" .text]
          command := fun m => (m.text? "path").map .visit }),
    ("keys", .group keyLeaves), ("tokens", .group tokenLeaves), ("cert", .group certLeaves),
    ("cooperator", .group cooperatorLeaves), ("stats", .group statisticsLeaves)]

/-- The first level. -/
def rootLevel : Level where
  arguments := globalArguments ++ [{ name := "version", form := .version, short := some 'V' }]
  commands := entries.map (·.1) ++ [helpName]

/-! ## Reading -/

/-- Whether names lead from an entry to a command. -/
def Entry.knows : Entry → List String → Bool
  | _, [] => true
  | .group leaves, [name] => (groupLevel leaves).commands.contains name
  | _, _ => false

/-- Whether names lead to a command. -/
def knowsCommand : List String → Bool
  | [] => true
  | name :: names =>
    match entries.lookup name with
    | some e => e.knows names
    | none => name == helpName && names.isEmpty

/-- The answer to a request for help about names. -/
def askHelp (known : Bool) : UsageFault := if known then .help else .unknownCommand

/-- Reads the tokens after a command's name. -/
def Leaf.parse (l : Leaf) (env : Environment) (tokens : List String) :
    Except UsageFault (Matches × (Matches → Option Command)) := do
  let (r, _) ← l.level.scan {} tokens
  return (← l.level.finish env r false, l.command)

/-- Reads the tokens after the name of a command or group. -/
def Entry.parse (e : Entry) (env : Environment) (tokens : List String) :
    Except UsageFault (Matches × (Matches → Option Command)) :=
  match e with
  | .leaf l => l.parse env tokens
  | .group leaves => do
    let level := groupLevel leaves
    let (r, next) ← level.scan {} tokens
    match next with
    | none =>
      let m ← level.finish env r false
      return (m, fun _ => none)
    | some (name, rest) =>
      match leaves.lookup name with
      | none => throw (askHelp (e.knows rest))
      | some l =>
        let (m, command) ← l.parse env rest
        let outer ← level.finish env r true
        return (m ++ outer, command)

/-- Reads a command line, the program's name left out. -/
def CommandLine.parse (env : Environment) (tokens : List String) :
    Except UsageFault CommandLine := do
  let (r, next) ← rootLevel.scan {} tokens
  match next with
  | none =>
    let _ ← rootLevel.finish env r false
    throw .missingCommand
  | some (name, rest) =>
    match entries.lookup name with
    | none => throw (askHelp (knowsCommand rest))
    | some e =>
      let (inner, command) ← e.parse env rest
      let outer ← rootLevel.finish env r true
      let m := inner ++ outer
      match command m with
      | some command =>
        return { overrides := m.overrides, json := m.flag "json",
                 verbose := m.flag "verbose", command }
      | none => throw .missingArgument

end SigningConsole
