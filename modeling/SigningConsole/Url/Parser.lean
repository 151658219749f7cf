import SigningConsole.Url.Path
import SigningConsole.Url.Query
/-!
Reading URLs, absolute or against a base, as the URL Standard asks.

Controls and spaces at the ends and all tabs and line ends are dropped first. In a special scheme a
backslash counts as a slash, a host is demanded, and slashes before it may be missing or too many.
-/

namespace SigningConsole.Url

open Text

namespace Parser

/-- The text without controls and spaces at its ends, and without tabs and line ends. -/
def clean (cs : List Char) : List Char :=
  let atEnd (c : Char) := c.toNat ≤ 0x20
  withoutBreaks (dropSuffixWhile atEnd (cs.dropWhile atEnd))

/-- Whether the character may stand in a scheme after its first. -/
def isSchemeChar (c : Char) : Bool := c.isAlphanum || c == '+' || c == '-' || c == '.'

/-- The scheme in lower case and the text after its colon. -/
def scheme? : List Char → Option (String × List Char)
  | [] => none
  | c :: cs =>
    if c.isAlpha then
      match cs.dropWhile isSchemeChar with
      | ':' :: rest =>
        some (String.ofList ((c :: cs.takeWhile isSchemeChar).map Char.toLower), rest)
      | _ => none
    else none

/-- Whether the character is a slash, or a backslash where those count as slashes. -/
def isSlash (special : Bool) (c : Char) : Bool := c == '/' || (special && c == '\\')

/-- Whether the character ends an authority. -/
def endsAuthority (special : Bool) (c : Char) : Bool := isSlash special c || c == '?' || c == '#'

/-! ## Authority -/

/-- User name, password, and the text after the last `@` of the authority. -/
def user (special : Bool) (cs : List Char) : Except Fault ((String × Option String) × List Char) :=
  let authority := cs.takeWhile fun c => !endsAuthority special c
  match splitFirst? '@' authority.reverse with
  | none => .ok (("", none), cs)
  | some (after, before) =>
    let rest := cs.drop (before.length + 1)
    if before.isEmpty then
      if after.isEmpty ∧ !rest.isEmpty then .error .emptyHost else .ok (("", none), rest)
    else
      let text (cs : List Char) := String.ofList (encode inUserSet cs)
      match splitFirst? ':' before.reverse with
      | none => .ok ((text before.reverse, none), rest)
      | some (name, password) =>
        .ok ((text name, if password.isEmpty then none else some (text password)), rest)

/-- The characters of a host and the text after them: it ends at a colon outside brackets. -/
def hostChars (special : Bool) : Bool → List Char → List Char × List Char
  | _, [] => ([], [])
  | inBrackets, c :: cs =>
    if (c == ':' && !inBrackets) || endsAuthority special c then ([], c :: cs)
    else
      let (host, rest) :=
        hostChars special (if c = '[' then true else if c = ']' then false else inBrackets) cs
      (c :: host, rest)

/-- The greatest port. -/
def maxPort : Nat := 65535

/-- Reads the port after its colon; `none` for no digits and for the scheme's own port. -/
def port (scheme : String) (cs : List Char) : Except Fault (Option Nat × List Char) :=
  let ds := cs.takeWhile Char.isDigit
  let rest := cs.dropWhile Char.isDigit
  let n := (digitsValue? ds).getD 0
  if maxPort < n then .error .badPort
  else
    match rest with
    | c :: _ =>
      if endsAuthority true
        c then .ok (if ds.isEmpty ∨ defaultPort? scheme = some n then none else some n, rest)
      else .error .badPort
    | [] => .ok (if ds.isEmpty ∨ defaultPort? scheme = some n then none else some n, rest)

/-- Reads host and port. -/
def hostAndPort (scheme : String) (cs : List Char) :
    Except Fault ((Host × Option Nat) × List Char) := do
  let special := isSpecial scheme
  let (host, rest) := hostChars special false cs
  let host ←
    if special then if host.isEmpty then .error .emptyHost else Host.parse host
    else Host.parseElsewhere host
  match rest with
  | ':' :: rest =>
    if host = .name "" then .error .emptyHost
    else do
      let (port, rest) ← port scheme rest
      return ((host, port), rest)
  | rest => return ((host, none), rest)

/-! ## Path -/

/-- The pieces of a path up to its query or fragment, and the text from there on. -/
def pieces (special : Bool) (cs : List Char) : List (List Char) × List Char :=
  let isEnd (c : Char) := c == '?' || c == '#'
  let path := (cs.takeWhile fun c => !isEnd c).map fun c => if isSlash special c then '/' else c
  (splitAll '/' path, cs.dropWhile fun c => !isEnd c)

/-- Reads a path onto segments that a slash follows. -/
def path (scheme : String) (before : List String) (cs : List Char) : List String × List Char :=
  let (ps, rest) := pieces (isSpecial scheme) cs
  (Path.addPieces (scheme == "file") before ps, rest)

/-- Reads a path after an authority. -/
def pathAfterAuthority (scheme : String) (cs : List Char) : List String × List Char :=
  match cs with
  | [] => if isSpecial scheme then ([""], []) else ([], [])
  | c :: rest =>
    if isSlash (isSpecial scheme) c then path scheme [] rest
    else if !isSpecial scheme && (c == '?' || c == '#') then ([], cs)
    else path scheme [] cs

/-! ## Query and fragment -/

/-- A fragment as it is written. -/
def fragmentText (cs : List Char) : String := String.ofList (encode inFragmentSet cs)

/-- Reads query and fragment with their marks. -/
def tail (scheme : String) (cs : List Char) : Option String × Option String :=
  match cs with
  | '?' :: cs =>
    let query := queryText scheme (cs.takeWhile (· ≠ '#'))
    match cs.dropWhile (· ≠ '#') with
    | '#' :: fragment => (some query, some (fragmentText fragment))
    | _ => (some query, none)
  | '#' :: fragment => (none, some (fragmentText fragment))
  | _ => (none, none)

/-! ## URLs -/

/-- The URL with query and fragment read from the text. -/
def withTail (u : Url) (cs : List Char) : Url :=
  let (query, fragment) := tail u.scheme cs
  { u with query, fragment }

/-- Reads what follows the two slashes before an authority. -/
def afterSlashes (scheme : String) (cs : List Char) : Except Fault Url := do
  let ((username, password), cs) ← user (isSpecial scheme) cs
  let ((host, port), cs) ← hostAndPort scheme cs
  if host = .name "" ∧ (username ≠ "" ∨ password.isSome) then .error .emptyHost
  else
    let (segs, cs) := pathAfterAuthority scheme cs
    return withTail
      { scheme, username, password, host := some host, port, path := .segments segs, query := none,
        fragment := none }
      cs

/-- A URL of the scheme `file`. -/
def fileUrl (host : Host) (segs : List String) : Url :=
  { scheme := "file", username := "", password := none, host := some host, port := none,
    path := .segments (Path.trimmed segs), query := none, fragment := none }

/-- A file URL with an empty host whose path is read from its root. -/
def fileFromRoot (cs : List Char) : Url :=
  let (segs, rest) := path "file" [] cs
  withTail (fileUrl (.name "") segs) rest

/-- Reads what follows the two slashes of a file URL. -/
def afterFileSlashes (cs : List Char) : Except Fault Url := do
  let text := cs.takeWhile fun c => !endsAuthority true c
  if Path.isDrive text then return fileFromRoot cs
  let after := cs.drop text.length
  let host ← if text.isEmpty then pure (.name "") else Host.parse text
  if host = .name "" ∨ host = .name "localhost" then
    -- the slash after an empty host begins a segment of its own
    match after with
    | c :: rest =>
      let (segs, rest) := if isSlash true c then path "file" [""] rest else path "file" [] after
      return withTail (fileUrl (.name "") segs) rest
    | [] => return fileUrl (.name "") [""]
  else
    let (segs, rest) := pathAfterAuthority "file" after
    -- the letter of a drive at the front leaves no host
    let drive := segs.head?.any fun s => Path.isDrive s.toList
    return withTail (fileUrl (if drive then .name "" else host) segs) rest

/-- The segments of a URL's path. -/
def segmentsOf (u : Url) : List String :=
  match u.path with
  | .segments segs => segs
  | .rootless _ => []

/-- Reads the path of a file from the root: the host or the drive of the base stays. -/
def fileFromBaseRoot (base : Option Url) (cs : List Char) : Url :=
  let (host, before) : Host × List String :=
    match base with
    | none => (.name "", [])
    | some b =>
      if Path.startsWithDrive cs then (.name "", [])
      else
        match (segmentsOf b).head? with
        | some s =>
          if Path.isWrittenDrive s.toList then (.name "", [s]) else (b.host.getD (.name ""), [])
        | none => (b.host.getD (.name ""), [])
  let (segs, rest) := path "file" before cs
  withTail (fileUrl host segs) rest

/-- Reads the path of a file against a base: the base's last segment gives way unless it is the
letter of a drive. -/
def fileFromBase (base : Url) (cs : List Char) : Url :=
  let (ps, rest) := pieces true cs
  let before := (segmentsOf base).dropLast
  let segs :=
    match (segmentsOf base).getLast? with
    | some s =>
      if Path.isWrittenDrive s.toList then Path.addPiecesToDrive before s ps
      else Path.addPieces true before ps
    | none => Path.addPieces true before ps
  withTail { base with path := .segments (Path.trimmed segs) } rest

/-- Reads what follows the scheme of a file URL. -/
def file (base : Option Url) (cs : List Char) : Except Fault Url :=
  match cs with
  | [] => .ok (match base with | some b => { b with fragment := none } | none => fileFromRoot [])
  | c :: rest =>
    if isSlash true c then
      match rest with
      | [] => .ok (fileFromBaseRoot base rest)
      | d :: more =>
        if isSlash true d then afterFileSlashes more else .ok (fileFromBaseRoot base rest)
    else
      match base with
      | none => .ok (fileFromRoot cs)
      | some b =>
        if c = '?' then .ok (withTail b cs)
        else if c = '#' then .ok { b with fragment := some (fragmentText rest) }
        else .ok (if Path.startsWithDrive cs then fileFromRoot cs else fileFromBase b cs)

/-- Reads a relative URL against a base that is not a file. -/
def relative (base : Url) (cs : List Char) : Except Fault Url :=
  match cs with
  | [] => .ok { base with fragment := none }
  | '?' :: _ => .ok (withTail base cs)
  | '#' :: fragment => .ok { base with fragment := some (fragmentText fragment) }
  | c :: rest =>
    if isSlash true c then
      match rest with
      | d :: _ =>
        if isSlash true d then
          afterSlashes base.scheme
            (if c = '/' ∧ d = '/' then rest.drop 1 else cs.dropWhile (isSlash true))
        else onto [] rest
      | [] => onto [] rest
    else onto (segmentsOf base).dropLast cs
where
  /-- The base with a path read onto these segments. -/
  onto (before : List String) (cs : List Char) : Except Fault Url :=
    let (segs, rest) := path base.scheme before cs
    .ok (withTail { base with path := .segments segs } rest)

/-- Reads what follows the scheme of a URL that is not special. -/
def notSpecial (scheme : String) (cs : List Char) : Except Fault Url :=
  let empty : Url :=
    { scheme, username := "", password := none, host := none, port := none, path := .rootless "",
      query := none,
      fragment := none }
  match cs with
  | '/' :: '/' :: cs => afterSlashes scheme cs
  | '/' :: cs =>
    let (segs, rest) := path scheme [] cs
    .ok (withTail { empty with path := .segments segs } rest)
  | cs =>
    let isEnd (c : Char) := c == '?' || c == '#'
    let text := String.ofList (encode isControl (cs.takeWhile fun c => !isEnd c))
    .ok (withTail { empty with path := .rootless text } (cs.dropWhile fun c => !isEnd c))

/-- Reads what follows a scheme. -/
def afterScheme (base : Option Url) (scheme : String) (cs : List Char) : Except Fault Url :=
  if scheme = "file" then file (base.filter (·.scheme = "file")) cs
  else if isSpecial scheme then
    let slashes := (cs.takeWhile (isSlash true)).length
    match base with
    | some b =>
      if slashes < 2 ∧ b.scheme = scheme then relative b cs
      else afterSlashes scheme (cs.drop slashes)
    | none => afterSlashes scheme (cs.drop slashes)
  else notSpecial scheme cs

/-- Reads a URL, relative to a base if there is one. -/
def document (base : Option Url) (cs : List Char) : Except Fault Url :=
  let cs := clean cs
  match scheme? cs with
  | some (scheme, rest) => afterScheme base scheme rest
  | none =>
    match base with
    | none => .error .relativeWithoutBase
    | some b =>
      match cs with
      | '#' :: fragment => .ok { b with fragment := some (fragmentText fragment) }
      | cs =>
        if b.isRootless then .error .relativeToRootless
        else if b.scheme = "file" then file (some b) cs
        else relative b cs

end Parser

/-- Reads an absolute URL. -/
def parse (s : String) : Except Fault Url := Parser.document none s.toList

/-- Reads a URL that may be relative to `base`. -/
def join (base : Url) (s : String) : Except Fault Url := Parser.document (some base) s.toList

end SigningConsole.Url
