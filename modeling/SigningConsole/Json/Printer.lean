import SigningConsole.Json.Basic
import SigningConsole.Number.Shortest
import SigningConsole.Text.Quoted
/-!
Writing JSON: on one line, or with one member or item per line and two blanks for each level.
-/

namespace SigningConsole.Json

open Text

/-- One character of a string. -/
def escapeChar (c : Char) : List Char :=
  match c with
  | '"' => ['\\', '"']
  | '\\' => ['\\', '\\']
  | '\x08' => ['\\', 'b']
  | '\x0C' => ['\\', 'f']
  | '\n' => ['\\', 'n']
  | '\r' => ['\\', 'r']
  | '\t' => ['\\', 't']
  | c =>
    if c.toNat < 0x20 then ['\\', 'u', '0', '0', hexLower (c.toNat / 16), hexLower (c.toNat % 16)]
    else [c]

/-- A string between quotes. -/
def stringText (s : String) : List Char := '"' :: (s.toList.flatMap escapeChar ++ ['"'])

mutual

/-- The characters of a value on one line. -/
def compactChars : Json → List Char
  | null => ['n', 'u', 'l', 'l']
  | bool true => ['t', 'r', 'u', 'e']
  | bool false => ['f', 'a', 'l', 's', 'e']
  | int n => decimalInt n
  | double x => x.text
  | str s => stringText s
  | arr items => '[' :: compactItems items
  | obj members => '{' :: compactMembers members

/-- The items of an array and its closing bracket. -/
def compactItems : List Json → List Char
  | [] => [']']
  | [v] => v.compactChars ++ [']']
  | v :: vs => v.compactChars ++ ',' :: compactItems vs

/-- The members of an object and its closing brace. -/
def compactMembers : List (String × Json) → List Char
  | [] => ['}']
  | [(k, v)] => stringText k ++ ':' :: (v.compactChars ++ ['}'])
  | (k, v) :: ms => stringText k ++ ':' :: (v.compactChars ++ ',' :: compactMembers ms)

end

/-- A line end and the blanks of a level. -/
def newLine (level : Nat) : List Char := '\n' :: List.replicate (2 * level) ' '

mutual

/-- The characters of a value over several lines, inside `level` containers. -/
def prettyChars (level : Nat) : Json → List Char
  | arr [] => ['[', ']']
  | arr (v :: vs) => '[' :: prettyItems level (v :: vs)
  | obj [] => ['{', '}']
  | obj (m :: ms) => '{' :: prettyMembers level (m :: ms)
  | null => compactChars null
  | bool b => compactChars (bool b)
  | int n => compactChars (int n)
  | double x => compactChars (double x)
  | str s => compactChars (str s)

/-- The items of an array, each on a line, and the closing bracket on its own. -/
def prettyItems (level : Nat) : List Json → List Char
  | [] => newLine level ++ [']']
  | [v] => newLine (level + 1) ++ v.prettyChars (level + 1) ++ newLine level ++ [']']
  | v :: vs => newLine (level + 1) ++ v.prettyChars (level + 1) ++ ',' :: prettyItems level vs

/-- The members of an object, each on a line, and the closing brace on its own. -/
def prettyMembers (level : Nat) : List (String × Json) → List Char
  | [] => newLine level ++ ['}']
  | [(k, v)] =>
    newLine (level + 1) ++ stringText k ++ [':', ' '] ++ v.prettyChars (level + 1) ++
    newLine level ++ ['}']
  | (k, v) :: ms =>
    newLine (level + 1) ++ stringText k ++ [':', ' '] ++ v.prettyChars (level + 1) ++ ',' ::
      prettyMembers level ms

end

/-- The text of a value on one line. -/
def compact (v : Json) : String := String.ofList v.compactChars

/-- The text of a value over several lines. -/
def pretty (v : Json) : String := String.ofList (v.prettyChars 0)

end SigningConsole.Json
