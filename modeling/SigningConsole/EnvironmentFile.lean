import SigningConsole.Settings
import SigningConsole.Text.Letter
import SigningConsole.Text.Utf8
/-!
Files of environment variables, one `NAME=value` per line.

A quoted value may go on over several lines. Values may be quoted strongly or weakly, escape
single characters and name other variables after a dollar sign. Blanks at the end of a line do not
count. The first line that cannot be read ends the reading; what stood before it holds. Variables
that are set already keep their values, and no variable can be set to a value that holds the
character with code zero.
-/

namespace SigningConsole.EnvironmentFile

open Text

/-! ## Lines -/

/-- Where the end of a line finds the text. -/
inductive LineState where
  | complete
  | escape
  | strong
  | strongEscape
  | weak
  | weakEscape
  | comment
  | blank
deriving DecidableEq

/-- The state after a character outside quotes. -/
def plainState : Char → LineState
  | '\\' => .escape
  | '"' => .weak
  | '\'' => .strong
  | _ => .complete

/-- The state after a character. -/
def LineState.next (c : Char) : LineState → LineState
  | blank => if c = '#' then comment else plainState c
  | escape => complete
  | complete => if isBlank c && c != '\n' && c != '\r' then blank else plainState c
  | weak => if c = '\\' then weakEscape else if c = '"' then complete else weak
  | weakEscape => weak
  | strong => if c = '\\' then strongEscape else if c = '\'' then complete else strong
  | strongEscape => strong
  | comment => comment

/-- The state at the end of a line, and the line up to a comment. -/
def scanLine (state : LineState) : List Char → LineState × List Char
  | [] => (state, [])
  | c :: cs =>
    if state.next c = .comment then (.comment, [])
    else
      let (last, kept) := scanLine (state.next c) cs
      (last, c :: kept)

/-- The lines of a file with their ends. -/
def rawLines : List UInt8 → List (List UInt8)
  | [] => []
  | b :: bs =>
    if b = 10 then [b] :: rawLines bs
    else
      match rawLines bs with
      | [] => [[b]]
      | line :: lines => (b :: line) :: lines

/-- A line without its end. -/
def withoutEnd (cs : List Char) : List Char :=
  match cs.reverse with
  | '\n' :: '\r' :: rest => rest.reverse
  | '\n' :: rest => rest.reverse
  | _ => cs

/-- The logical lines: those that a quotation joins, without comments. `none` stands for an open
quotation at the end and for a line that is no text. -/
def logicalLines (before : List Char) (state : LineState) :
    List (List UInt8) → List (Option (List Char))
  | [] => if state = .complete then [] else [none]
  | bytes :: lines =>
    match Utf8.decode? bytes with
    | none => [none]
    | some line =>
      if (trimStart (before ++ line)).head? = some '#' then
        some [] :: logicalLines [] .complete lines
      else
        match scanLine state line with
        | (.complete, _) => some (withoutEnd (before ++ line)) :: logicalLines [] .complete lines
        | (.comment, kept) => some (before ++ kept) :: logicalLines [] .complete lines
        | (state, _) => logicalLines (before ++ line) state lines

/-! ## Values -/

/-- Where the reader of a value is. -/
inductive ValueState where
  | plain
  | weak
  | strong
  | escape (inQuotes : Bool)
  /-- Inside the name of a variable, with the quotes around it. -/
  | name (read : List Char) (inQuotes : Bool)
  /-- Inside the name of a variable between braces. -/
  | braced (read : List Char) (inQuotes : Bool)
  /-- Only blanks or a comment may follow. -/
  | ended

/-- The value of a variable that another value names. -/
def lookup (env known : Environment) (name : List Char) : List Char :=
  ((env.get? (String.ofList name)).or (known.get? (String.ofList name))).elim [] String.toList

/-- The state outside a variable's name. -/
def outside (inQuotes : Bool) : ValueState := if inQuotes then .weak else .plain

/-- Reads a value. -/
def value? (find : List Char → List Char) (out : List Char) :
    ValueState → List Char → Option (List Char)
  | .plain, [] => some out
  | .ended, [] => some out
  | .escape inQuotes, [] => if inQuotes then none else some out
  | .name read inQuotes, [] => if inQuotes then none else some (out ++ find read.reverse)
  | .weak, [] => none
  | .strong, [] => none
  | .braced _ _, [] => none
  | .ended, c :: cs =>
    if c = ' ' || c = '\t' then value? find out .ended cs else if c = '#' then some out else none
  | .escape inQuotes, c :: cs =>
    if c = '\\' || c = '\'' || c = '"' || c = '$' || c = ' ' then
      value? find (out ++ [c]) (outside inQuotes) cs
    else if c = 'n' then value? find (out ++ ['\n']) (outside inQuotes) cs
    else none
  | .strong, c :: cs =>
    if c = '\'' then value? find out .plain cs else value? find (out ++ [c]) .strong cs
  | .name read inQuotes, c :: cs =>
    if isLetterOrNumber c then value? find out (.name (c :: read) inQuotes) cs
    else if c = '\x7b' && read.isEmpty then value? find out (.braced [] inQuotes) cs
    else if c = '$' then value? find (out ++ find read.reverse) (.name [] inQuotes) cs
    else value? find (out ++ find read.reverse ++ [c]) (outside inQuotes) cs
  | .braced read inQuotes, c :: cs =>
    if c = '\x7d' then value? find (out ++ find read.reverse) (outside inQuotes) cs
    else value? find out (.braced (c :: read) inQuotes) cs
  | .weak, c :: cs =>
    if c = '$' then value? find out (.name [] true) cs
    else if c = '"' then value? find out .plain cs
    else if c = '\\' then value? find out (.escape true) cs
    else value? find (out ++ [c]) .weak cs
  | .plain, c :: cs =>
    if c = '$' then value? find out (.name [] false) cs
    else if c = '\'' then value? find out .strong cs
    else if c = '"' then value? find out .weak cs
    else if c = '\\' then value? find out (.escape false) cs
    else if c = ' ' || c = '\t' then value? find out .ended cs
    else value? find (out ++ [c]) .plain cs

/-! ## Assignments -/

/-- The name at the beginning of a text, and what follows it. -/
def key? (cs : List Char) : Option (List Char × List Char) :=
  match cs with
  | c :: _ =>
    if c.isAlpha || c = '_' then
      let isKeyChar (c : Char) := c.isAlphanum || c = '_' || c = '.'
      some (cs.takeWhile isKeyChar, trimStart (cs.dropWhile isKeyChar))
    else none
  | [] => none

/-- Name and value text of a line; the word `export` may stand before the name. -/
def assignment? (cs : List Char) : Option (List Char × List Char) := do
  match ← key? cs with
  | (key, '=' :: rest) => return (key, trimStart rest)
  | (key, rest) =>
    if key = "export".toList then
      match ← key? rest with
      | (key, '=' :: rest) => return (key, trimStart rest)
      | _ => none
    else none

/-- Whether nothing but a comment stands in a text. -/
def isVoid (cs : List Char) : Bool :=
  match cs with
  | [] => true
  | c :: _ => c = '#'

/-- The environment with a variable, unless it is set already; `none` for a value that cannot be
set. -/
def set? (env : Environment) (key value : String) : Option Environment :=
  if (env.get? key).isSome then some env
  else if value.contains '\x00' then none
  else some (env.insert key value)

/-- Takes in the assignments of lines, up to the first line that cannot be read; `none` if one of
them cannot be carried out. -/
def assignAll (env known : Environment) : List (Option (List Char)) → Option Environment
  | [] => some env
  | none :: _ => some env
  | some line :: lines =>
    let line := trim line
    if isVoid line then assignAll env known lines
    else
      match assignment? line with
      | none => some env
      | some (key, rest) =>
        match if isVoid rest then some [] else value? (lookup env known) [] .plain rest with
        | none => some env
        | some value => do
          let key := String.ofList key
          let value := String.ofList value
          assignAll (← set? env key value) (known.insert key value) lines

/-- The bytes that may stand before the text of a file. -/
def byteOrderMark : List UInt8 := [0xEF, 0xBB, 0xBF]

/-- The environment with the variables of a file; `none` if one of them cannot be set. -/
def load? (env : Environment) (bytes : List UInt8) : Option Environment :=
  let bytes := if byteOrderMark.isPrefixOf bytes then bytes.drop byteOrderMark.length else bytes
  assignAll env ∅ (logicalLines [] .complete (rawLines bytes))

end SigningConsole.EnvironmentFile
