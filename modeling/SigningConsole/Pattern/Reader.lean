import SigningConsole.Pattern.Basic
import SigningConsole.Text.Decimal
import SigningConsole.Text.Hexadecimal
/-!
Reading patterns.

A pattern is read character by character. Groups that are still open wait on a stack with what stood
before them. Switches set within a group hold up to its end, in all alternatives that follow.
Look-around and back references are no patterns.
-/

namespace SigningConsole.Pattern

open Text

namespace Reader

/-! ## Switches -/

/-- What switches set. -/
structure Switches where
  /-- Case does not count. -/
  caseless : Bool := false
  /-- Line ends count as ends of the text. -/
  lines : Bool := false
  /-- A dot stands for line ends too. -/
  dotAll : Bool := false
  /-- Carriage returns end lines, too. -/
  returns : Bool := false
  /-- Characters beyond ASCII count. -/
  unicode : Bool := true
  /-- Blanks and comments in the pattern do not count. -/
  spaced : Bool := false

/-- The switches after one is set or reset; the one that exchanges greedy and lazy
repetition changes no match. -/
def Switches.set? (s : Switches) (value : Bool) : Char → Option Switches
  | 'i' => some { s with caseless := value }
  | 'm' => some { s with lines := value }
  | 's' => some { s with dotAll := value }
  | 'R' => some { s with returns := value }
  | 'u' => some { s with unicode := value }
  | 'x' => some { s with spaced := value }
  | 'U' => some s
  | _ => none

/-- Passes over blanks and comments where they do not count; `fuel` bounds their number. -/
def skipSpace : Nat → List Char → List Char
  | 0, cs => cs
  | fuel + 1, cs =>
    match cs.dropWhile isBlank with
    | '#' :: cs => skipSpace fuel ((cs.dropWhile (· ≠ '\n')).drop 1)
    | cs => cs

/-- The text from the next character on that counts. -/
def Switches.skip (s : Switches) (cs : List Char) : List Char :=
  if s.spaced then skipSpace cs.length cs else cs

/-- The next character that counts after the present one, as far as it can be told: a comment
is not seen through. -/
def Switches.peek? (s : Switches) (cs : List Char) : Option Char :=
  if s.spaced then
    match cs.dropWhile isBlank with
    | '#' :: rest => (rest.dropWhile isBlank).head?.or cs.head?
    | c :: _ => some c
    | [] => cs.head?
  else cs.head?

/-- Reads switches up to the colon or the parenthesis that ends them. None may come twice, and the
minus sign before those that are reset neither twice nor last. -/
def switches? (s : Switches) (seen : List Char) :
    List Char → Option ((Switches × List Char) × List Char)
  | [] => none
  | c :: cs =>
    if c = ':' ∨ c = ')' then
      if seen.head? = some '-' then none else some ((s, seen), c :: cs)
    else if seen.contains c then none
    else if c = '-' then switches? s (c :: seen) cs
    else
      match s.set? (!seen.contains '-') c with
      | some s => switches? s (c :: seen) cs
      | none => none

/-! ## Escapes -/

/-- What stands for one character or one demand. -/
inductive Atom where
  /-- A character, and whether it is written as a byte. -/
  | char (c : Char) (isByte : Bool)
  | set (set : CharSet)
  | look (demand : Look)

/-- The character of a code. -/
def charOf? (n : Nat) : Option Char := if n.isValidChar then some (Char.ofNat n) else none

/-- The digits of a code up to the closing brace. -/
def bracedDigits? (s : Switches) : Nat → List Char → Option (List Char × List Char)
  | 0, _ => none
  | fuel + 1, cs =>
    match s.skip cs with
    | [] => none
    | '\x7d' :: rest => some ([], rest)
    | c :: rest => do
      let (ds, rest) ← bracedDigits? s fuel rest
      return (c :: ds, rest)

/-- A number of digits of a code. -/
def countedDigits? (s : Switches) : Nat → List Char → Option (List Char × List Char)
  | 0, cs => some ([], cs)
  | n + 1, cs =>
    match s.skip cs with
    | [] => none
    | c :: rest => do
      let (ds, rest) ← countedDigits? s n rest
      return (c :: ds, rest)

/-- Reads a code after the letter that tells how many digits it has unless braces do. -/
def code? (s : Switches) (digits : Nat) (cs : List Char) : Option (Atom × List Char) :=
  match s.skip cs with
  | '\x7b' :: cs => do
    let (ds, rest) ← bracedDigits? s (cs.length + 1) cs
    if ds.isEmpty then none
    else
      let c ← (hexValue? ds).bind charOf?
      return (.char c false, s.skip rest)
  | cs => do
    let (ds, rest) ← countedDigits? s digits cs
    let c ← (hexValue? ds).bind charOf?
    return (.char c (digits == 2), s.skip rest)

/-- What stands before and after the first `!=`. -/
def splitDenied? (before : List Char) : List Char → Option (List Char × List Char)
  | '!' :: '=' :: rest => some (before.reverse, rest)
  | c :: rest => splitDenied? (c :: before) rest
  | [] => none

/-- The property of a name, which may tell the kind of the property, and whether the name denies
it. -/
def propertyOf? (name : List Char) : Option (Bool × Property) :=
  match splitDenied? [] name with
  | some (kind, name) => (Property.ofKind? kind name).map fun p => (true, p)
  | none =>
    match (splitFirst? ':' name).or (splitFirst? '=' name) with
    | some (kind, name) => (Property.ofKind? kind name).map fun p => (false, p)
    | none => (Property.ofName? name).map fun p => (false, p)

/-- The set with all characters that differ in case only, where case does not count. -/
def Switches.fold (s : Switches) (set : CharSet) : CharSet :=
  if s.caseless then
    if s.unicode then .caseless set else .inter (.caseless set) (.property .ascii)
  else set

/-- The complement of a set, where characters beyond ASCII count. -/
def Switches.deny? (s : Switches) (set : CharSet) : Option CharSet :=
  if s.unicode then some (.complement set) else none

/-- The set of a property or its complement. -/
def propertySet? (s : Switches) (isDenied : Bool) (name : List Char) : Option CharSet :=
  if s.unicode then
    (propertyOf? name).map fun (denies, p) =>
      if isDenied != denies then .complement (s.fold (.property p)) else s.fold (.property p)
  else none

/-- Reads a property after its letter. -/
def property? (s : Switches) (isDenied : Bool) (cs : List Char) : Option (Atom × List Char) :=
  match s.skip cs with
  | [] => none
  | '\x7b' :: cs => do
    let (name, rest) ← bracedDigits? s (cs.length + 1) cs
    return (.set (← propertySet? s isDenied name), rest)
  | c :: cs => do return (.set (← propertySet? s isDenied [c]), s.skip cs)

/-- The set of the characters of words. -/
def Switches.wordSet (s : Switches) : CharSet :=
  if s.unicode then .property .word else .ascii "word"

/-- The set of a letter that stands for a class of characters. -/
def classSet? (s : Switches) (c : Char) : Option CharSet :=
  let digit : CharSet := if s.unicode then .property (.category .decimalNumber) else .ascii "digit"
  let blank : CharSet := if s.unicode then .property .blank else .ascii "space"
  match c with
  | 'd' => some digit
  | 's' => some blank
  | 'w' => some s.wordSet
  | 'D' => s.deny? digit
  | 'S' => s.deny? blank
  | 'W' => s.deny? s.wordSet
  | _ => none

/-- The character of a letter that stands for a control. -/
def control? : Char → Option Char
  | 'a' => some '\x07'
  | 'f' => some '\x0C'
  | 't' => some '\t'
  | 'n' => some '\n'
  | 'r' => some '\r'
  | 'v' => some '\x0B'
  | _ => none

/-- The demand of a name between braces. -/
def namedLook? (name : List Char) : Option Look :=
  [("start", Look.wordStart), ("end", .wordEnd), ("start-half", .noWordBefore),
    ("end-half", .noWordAfter)].lookup
    (String.ofList name)

/-- Reads what may follow `b`: a name between braces. Braces without a name are left to be
read as a repetition. -/
def boundary? (s : Switches) (cs : List Char) : Option (Atom × List Char) :=
  let isNameChar (c : Char) := c.isAlpha || c == '-'
  match cs with
  | '\x7b' :: rest =>
    match s.skip rest with
    | [] => none
    | c :: _ =>
      if isNameChar c then do
        let (name, rest) ← bracedDigits? s (rest.length + 1) rest
        if name.all isNameChar then return (.look (← namedLook? name), rest) else none
      else some (.look .boundary, cs)
  | cs => some (.look .boundary, cs)

/-- Reads what follows a backslash. -/
def escape? (s : Switches) : List Char → Option (Atom × List Char)
  | [] => none
  | c :: cs =>
    match c with
    | 'x' => code? s 2 cs
    | 'u' => code? s 4 cs
    | 'U' => code? s 8 cs
    | 'p' => property? s false cs
    | 'P' => property? s true cs
    | 'b' => boundary? s cs
    | 'B' => some (.look .noBoundary, cs)
    | 'A' => some (.look .textStart, cs)
    | 'z' => some (.look .textEnd, cs)
    | '<' => some (.look .wordStart, cs)
    | '>' => some (.look .wordEnd, cs)
    | c =>
      if ['d', 's', 'w', 'D', 'S', 'W'].contains c then (classSet? s c).map
        fun set => (.set set, cs)
      else
        match control? c with
        | some d => some (.char d false, cs)
        | none => if c.toNat < 0x80 ∧ !c.isAlphanum then some (.char c false, cs) else none

/-! ## Sets in brackets -/

/-- The set of one character in brackets. -/
def Switches.charSet? (s : Switches) (c : Char) : Option CharSet :=
  if s.unicode ∨ c.toNat < 0x80 then some (s.fold (.single c)) else none

/-- Reads one item in brackets. -/
def item? (s : Switches) : List Char → Option (Atom × List Char)
  | '\\' :: cs => escape? s cs
  | c :: cs => some (.char c false, cs)
  | [] => none

/-- Reads an item or a range in brackets. -/
def itemOrRange? (s : Switches) (cs : List Char) : Option (CharSet × List Char) := do
  let (first, rest) ← item? s cs
  match s.skip rest with
  | [] => none
  | '-' :: after =>
    let next := s.peek? after
    if next = some ']' ∨ next = some '-' then
      return (← whole? first, '-' :: after)
    else
      match first with
      | .char a _ => do
        match ← item? s (s.skip after) with
        | (.char b _, rest) =>
          if a ≤ b ∧ (s.unicode ∨ b.toNat < 0x80) then return (s.fold (.range a b), rest) else none
        | _ => none
      | _ => none
  | rest => return (← whole? first, rest)
where
  /-- The set of an item that is no end of a range. -/
  whole? : Atom → Option CharSet
    | .char c _ => s.charSet? c
    | .set set => some set
    | .look _ => none

/-- Reads the name of a set of ASCII characters after its opening bracket, with the closing one. -/
def asciiSet? (s : Switches) : List Char → Option (Option CharSet × List Char)
  | ':' :: cs =>
    let (isDenied, cs) := match cs with | '^' :: cs => (true, cs) | cs => (false, cs)
    match splitFirst? ':' cs with
    | some (name, ']' :: rest) =>
      (CharSet.named.lookup (String.ofList name)).map fun set =>
        (if isDenied then s.deny? (s.fold set) else some (s.fold set), rest)
    | _ => none
  | _ => none

/-- The hyphens that a set in brackets begins with. -/
def hyphens (s : Switches) : Nat → List Char → Nat × List Char
  | 0, cs => (0, cs)
  | fuel + 1, cs =>
    match cs with
    | '-' :: cs =>
      let (n, rest) := hyphens s fuel (s.skip cs)
      (n + 1, rest)
    | cs => (0, cs)

/-- Reads the beginning of a set in brackets: whether it is denied, and the hyphens or the closing
bracket that stand for themselves there. -/
def setStart (s : Switches) (cs : List Char) : (Bool × CharSet) × List Char :=
  let cs := s.skip cs
  let (isDenied, cs) := match cs with | '^' :: cs => (true, s.skip cs) | cs => (false, cs)
  let (n, rest) := hyphens s cs.length cs
  if 0 < n then ((isDenied, s.fold (.single '-')), rest)
  else
    match rest with
    | ']' :: rest => ((isDenied, s.fold (.single ']')), s.skip rest)
    | rest => ((isDenied, .none), rest)

/-- An operation on the set before it and the one after it. -/
abbrev SetOperation := CharSet → CharSet → CharSet

/-- The sign of an operation, each doubled. -/
def operation? : Char → Option SetOperation
  | '&' => some .inter
  | '-' => some .diff
  | '~' => some .oneOf
  | _ => none

/-- Reads a set in brackets up to the closing one. `pending` is what comes of the set once it is
complete, for the operation before it; `fuel` bounds the number of items. -/
def setItems? (s : Switches) :
    Nat → Bool → (CharSet → CharSet) → CharSet → List Char → Option (CharSet × List Char)
  | 0, _, _, _, _ => none
  | fuel + 1, isDenied, pending, set, cs =>
    let more (item : CharSet) (rest : List Char) :=
      setItems? s fuel isDenied pending (.union set item) rest
    match s.skip cs with
    | [] => none
    | ']' :: rest => do
      let whole := pending set
      return (← if isDenied then s.deny? whole else some whole, rest)
    | '[' :: rest =>
      match asciiSet? s rest with
      | some (named, rest) => do more (← named) rest
      | none => do
        let ((isDenied, start), rest) := setStart s rest
        let (inner, rest) ← setItems? s fuel isDenied id start rest
        more inner rest
    | c :: rest =>
      match (operation? c).filter fun _ => rest.head? == some c with
      | some operation => setItems? s fuel isDenied (operation (pending set)) .none (rest.drop 1)
      | none => do
        let (item, rest) ← itemOrRange? s (c :: rest)
        more item rest

/-- Reads a set after its opening bracket. -/
def set? (s : Switches) (cs : List Char) : Option (CharSet × List Char) :=
  let ((isDenied, start), rest) := setStart s cs
  setItems? s (cs.length + 1) isDenied id start rest

/-! ## Repetitions -/

/-- The greatest number of a repetition. -/
def maxCount : Nat := UInt32.size - 1

/-- The digits of a number; blanks between them are passed over where they do not count. -/
def countDigits (s : Switches) : Nat → List Char → List Char × List Char
  | 0, cs => ([], cs)
  | fuel + 1, c :: cs =>
    if c.isDigit then
      let (ds, rest) := countDigits s fuel (s.skip cs)
      (c :: ds, rest)
    else ([], c :: cs)
  | _, [] => ([], [])

/-- What stands where a number is demanded: none, or one that may be too great. -/
def count (s : Switches) (cs : List Char) : Option Nat × List Char :=
  let cs := cs.dropWhile isBlank
  let (ds, rest) := countDigits s cs.length cs
  (readDigits? ds, s.skip (rest.dropWhile isBlank))

/-- Reads the numbers of a repetition after the opening brace. -/
def bounds? (s : Switches) (cs : List Char) : Option ((Nat × Option Nat) × List Char) := do
  let (least, rest) := count s (s.skip cs)
  let least ← least.filter (· ≤ maxCount)
  match rest with
  | '\x7d' :: rest => return ((least, some least), rest)
  | ',' :: rest =>
    match s.skip rest with
    | '\x7d' :: rest => return ((least, none), rest)
    | rest => do
      let (most, rest) := count s rest
      let most ← most.filter (· ≤ maxCount)
      match rest with
      | '\x7d' :: rest => if least ≤ most then return ((least, some most), rest) else none
      | _ => none
  | _ => none

/-- Passes over the mark of a lazy repetition. -/
def skipLazy : List Char → List Char
  | '?' :: cs => cs
  | cs => cs

/-! ## Patterns -/

/-- The parts of a sequence, last first, as one pattern. -/
def sequence : List Pattern → Pattern
  | [] => .empty
  | p :: ps => ps.foldl (fun rest p => .cat p rest) p

/-- The alternatives of a choice, last first, as one pattern. -/
def choice : List Pattern → Pattern
  | [] => .empty
  | p :: ps => ps.foldl (fun rest p => .alt p rest) p

/-- A group that is still open: what stands in front of it, and the switches to return to. -/
structure Open where
  branches : List Pattern
  parts : List Pattern
  switches : Switches

/-- How far the reader has got. -/
structure State where
  switches : Switches := {}
  /-- The alternatives of the present group that are complete, last first. -/
  branches : List Pattern := []
  /-- The parts of the present alternative, last first. -/
  parts : List Pattern := []
  outer : List Open := []
  /-- The names of groups. -/
  names : List (List Char) := []

namespace State

/-- The state with one more part. -/
def push (t : State) (p : Pattern) : State := { t with parts := p :: t.parts }

/-- The pattern of the present group. -/
def whole (t : State) : Pattern := choice (sequence t.parts :: t.branches)

/-- The state in a new group, under switches. -/
def enter (t : State) (s : Switches) : State :=
  { t with
      switches := s, branches := [], parts := []
      outer := ⟨t.branches, t.parts, t.switches⟩ :: t.outer }

/-- The state after the present group. -/
def leave? (t : State) : Option State :=
  match t.outer with
  | [] => none
  | o :: outer =>
    some { t with
        switches := o.switches, branches := o.branches, parts := .group t.whole :: o.parts, outer }

/-- The state with the last part repeated; there must be one that is more than a switch. -/
def repeat? (t : State) (least : Nat) (most : Option Nat) : Option State :=
  match t.parts with
  | [] => none
  | .empty :: _ => none
  | p :: parts => some { t with parts := .times p least most :: parts }

/-- The state with an atom as one more part. -/
def pushAtom? (t : State) : Atom → Option State
  | .look demand => some (t.push (.look demand t.switches.wordSet))
  | .set set => some (t.push (.one set))
  | .char c isByte =>
    if t.switches.unicode then some (t.push (.one (t.switches.fold (.single c))))
    else if c.toNat < 0x80 then some (t.push (.one (t.switches.fold (.single c))))
    else if isByte then none
    else some (t.push (.one (.single c)))

end State

/-- Whether the character may stand in the name of a group. -/
def isNameChar (isFirst : Bool) (c : Char) : Bool :=
  c == '_' ||
  (if isFirst then isLetter c else isLetterOrNumber c || c == '.' || c == '[' || c == ']')

/-- Reads the name of a group after its opening angle. -/
def name? (cs : List Char) : Option (List Char × List Char) :=
  match splitFirst? '>' cs with
  | some (c :: name, rest) =>
    if isNameChar true c && name.all (isNameChar false) then some (c :: name, rest) else none
  | _ => none

/-- Whether what follows a parenthesis looks ahead or back. -/
def isLookAround : List Char → Bool
  | '?' :: '=' :: _ => true
  | '?' :: '!' :: _ => true
  | '?' :: '<' :: '=' :: _ => true
  | '?' :: '<' :: '!' :: _ => true
  | _ => false

/-- Enters a named group. -/
def enterNamed? (t : State) (cs : List Char) : Option (State × List Char) := do
  let (name, rest) ← name? cs
  if t.names.contains name then none
  else return ({ t with names := name :: t.names }.enter t.switches, rest)

/-- Reads what follows an opening parenthesis: the beginning of a group, or switches. -/
def group? (t : State) (cs : List Char) : Option (State × List Char) :=
  let cs := t.switches.skip cs
  if isLookAround cs then none
  else
    match cs with
    | '?' :: 'P' :: '<' :: cs => enterNamed? t cs
    | '?' :: '<' :: cs => enterNamed? t cs
    | '?' :: cs => do
      match ← switches? t.switches [] cs with
      | ((s, _), ':' :: rest) => return (t.enter s, rest)
      | ((_, []), _ :: _) => none
      | ((s, _), _ :: rest) => return ({ t with switches := s }.push .empty, rest)
      | _ => none
    | cs => some (t.enter t.switches, cs)

/-- The set of a dot. -/
def dotSet (s : Switches) : CharSet :=
  if s.dotAll then .property .any
  else if s.returns then .complement (.union (.single '\n') (.single '\r'))
  else .complement (.single '\n')

/-- Reads one part of a pattern. -/
def part? (t : State) (c : Char) (cs : List Char) : Option (State × List Char) :=
  let s := t.switches
  match c with
  | '(' => group? t cs
  | ')' => t.leave?.map fun t => (t, cs)
  | '|' => some ({ t with branches := sequence t.parts :: t.branches, parts := [] }, cs)
  | '[' => (set? s cs).map fun (set, rest) => (t.push (.one set), rest)
  | '?' => (t.repeat? 0 (some 1)).map fun t => (t, skipLazy cs)
  | '*' => (t.repeat? 0 none).map fun t => (t, skipLazy cs)
  | '+' => (t.repeat? 1 none).map fun t => (t, skipLazy cs)
  | '\x7b' => do
    let ((least, most), rest) ← bounds? s cs
    return (← t.repeat? least most, skipLazy (s.skip rest))
  | '.' => if s.unicode then some (t.push (.one (dotSet s)), cs) else none
  | '^' =>
    let demand := if s.lines then if s.returns then Look.anyLineStart else .lineStart
      else .textStart
    some (t.push (.look demand s.wordSet), cs)
  | '$' =>
    let demand := if s.lines then if s.returns then Look.anyLineEnd else .lineEnd else .textEnd
    some (t.push (.look demand s.wordSet), cs)
  | '\\' => do
    let (atom, rest) ← escape? s cs
    return (← t.pushAtom? atom, rest)
  | c => (t.pushAtom? (.char c false)).map fun t => (t, cs)

/-- Reads the parts of a pattern to its end; `fuel` bounds their number. -/
def parts? : Nat → State → List Char → Option State
  | 0, _, _ => none
  | fuel + 1, t, cs =>
    match t.switches.skip cs with
    | [] => some t
    | c :: cs => do
      let (t, rest) ← part? t c cs
      parts? fuel t rest

end Reader

/-- Reads a pattern. -/
def ofText? (text : String) : Option Pattern := do
  let cs := text.toList
  let t ← Reader.parts? (cs.length + 1) {} cs
  if t.outer.isEmpty ∧ t.whole.depth ≤ maxDepth ∧ t.whole.size ≤ maxSize then some t.whole else none

end SigningConsole.Pattern
