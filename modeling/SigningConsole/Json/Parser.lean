import SigningConsole.Json.Basic
import SigningConsole.Text.Decimal
import SigningConsole.Text.Hexadecimal
/-!
Reading JSON.

The grammar is followed to the letter: no byte order mark, no comments, nothing after the value,
no control characters and no lone surrogates in strings, at most 127 containers inside each
other. A number that overflows a double is an error. Each reader returns what it has read and
the text after it.

A value that nobody asks for is only passed over: its numbers and surrogates may be any,
and its depth too.
-/

namespace SigningConsole.Json.Parser

open Text

/-- Whether the character may stand between tokens. -/
def isSpace (c : Char) : Bool := c == ' ' || c == '\n' || c == '\t' || c == '\r'

/-- The text from its first token on. -/
def skip (cs : List Char) : List Char := cs.dropWhile isSpace

/-! ## Strings -/

/-- The number of four hexadecimal digits. -/
def hex4? (a b c d : Char) : Option Nat := hexValue? [a, b, c, d]

/-- The character of a one-letter escape. -/
def escape? : Char → Option Char
  | '"' => some '"'
  | '\\' => some '\\'
  | '/' => some '/'
  | 'b' => some '\x08'
  | 'f' => some '\x0C'
  | 'n' => some '\n'
  | 'r' => some '\r'
  | 't' => some '\t'
  | _ => none

/-- The character of two UTF-16 units, a leading and a trailing surrogate. -/
def joinSurrogates (high low : Nat) : Char :=
  Char.ofNat (0x10000 + (high - 0xD800) * 0x400 + (low - 0xDC00))

/-- Reads a string after its opening quote. -/
def string : List Char → Option (List Char × List Char)
  | '"' :: rest => some ([], rest)
  | '\\' :: 'u' :: a :: b :: c :: d :: rest =>
    match hex4? a b c d with
    | none => none
    | some u =>
      if 0xD800 ≤ u ∧ u ≤ 0xDBFF then
        match rest with
        | '\\' :: 'u' :: a :: b :: c :: d :: rest =>
          match hex4? a b c d with
          | none => none
          | some l =>
            if 0xDC00 ≤ l ∧ l ≤ 0xDFFF then
              (string rest).map fun (s, rest) => (joinSurrogates u l :: s, rest)
            else none
        | _ => none
      else if 0xDC00 ≤ u ∧ u ≤ 0xDFFF then none
      else (string rest).map fun (s, rest) => (Char.ofNat u :: s, rest)
  | '\\' :: c :: rest =>
    match escape? c with
    | none => none
    | some e => (string rest).map fun (s, rest) => (e :: s, rest)
  | c :: rest =>
    if c.toNat < 0x20 ∨ c = '\\' then none
    else (string rest).map fun (s, rest) => (c :: s, rest)
  | [] => none

/-- Passes over a string after its opening quote. -/
def skipString : List Char → Option (List Char)
  | '"' :: rest => some rest
  | '\\' :: 'u' :: a :: b :: c :: d :: rest =>
    if (hex4? a b c d).isSome then skipString rest else none
  | '\\' :: c :: rest => if (escape? c).isSome then skipString rest else none
  | c :: rest => if c.toNat < 0x20 ∨ c = '\\' then none else skipString rest
  | [] => none

/-! ## Numbers -/

/-- A numeral taken apart. -/
structure Numeral where
  negative : Bool
  whole : List Char
  /-- The digits after the point, if there is one. -/
  fraction : Option (List Char)
  /-- The sign and the digits of the exponent, if there is one. -/
  exponent : Option (Bool × List Char)

/-- One digit and the digits after it. -/
def digits1? (cs : List Char) : Option (List Char × List Char) :=
  let ds := cs.takeWhile Char.isDigit
  if ds.isEmpty then none else some (ds, cs.dropWhile Char.isDigit)

/-- The digits before the point: no digit may follow a leading zero. -/
def whole? (cs : List Char) : Option (List Char × List Char) := do
  let (ds, rest) ← digits1? cs
  if ds.head? = some '0' ∧ 1 < ds.length then none else some (ds, rest)

/-- The point and the digits after it, if the text goes on with a point. -/
def fraction? : List Char → Option (Option (List Char) × List Char)
  | '.' :: cs => (digits1? cs).map fun (ds, rest) => (some ds, rest)
  | cs => some (none, cs)

/-- The exponent, if the text goes on with one. -/
def exponent? : List Char → Option (Option (Bool × List Char) × List Char)
  | c :: cs =>
    if c = 'e' ∨ c = 'E' then
      match cs with
      | '-' :: cs => (digits1? cs).map fun (ds, rest) => (some (true, ds), rest)
      | '+' :: cs => (digits1? cs).map fun (ds, rest) => (some (false, ds), rest)
      | cs => (digits1? cs).map fun (ds, rest) => (some (false, ds), rest)
    else some (none, c :: cs)
  | [] => some (none, [])

/-- Reads a numeral after its sign. -/
def numeral? (negative : Bool) (cs : List Char) : Option (Numeral × List Char) := do
  let (whole, cs) ← whole? cs
  let (fraction, cs) ← fraction? cs
  let (exponent, cs) ← exponent? cs
  return (⟨negative, whole, fraction, exponent⟩, cs)

/-- A significand in the making: digits gathered as long as they fit 64 bits, and those left
over. -/
structure Gathered where
  significand : Nat
  taken : Nat
  left : Nat

/-- Adds digits to a significand until one does not fit; from there on they are only counted. -/
def gather (start : Nat) (ds : List Char) : Gathered :=
  ds.foldl (fun g c =>
    let next := 10 * g.significand + (c.toNat - 48)
    if g.left = 0 ∧ next ≤ maxUInt64 then { g with significand := next, taken := g.taken + 1 }
    else { g with left := g.left + 1 }) ⟨start, 0, 0⟩

/-- The greatest exponent that is kept as a number. -/
def maxWrittenExponent : Nat := 2147483647

/-- The value of a numeral: an integer where one was written that fits 64 bits, else a
double. A digit that does not fit the significand raises the exponent before the point and
is dropped after it. -/
def Numeral.value? (n : Numeral) : Option Json :=
  let g := gather 0 n.whole
  let plain := n.fraction.isNone && n.exponent.isNone
  if plain ∧ g.left = 0 ∧ (!n.negative ∨ (0 < g.significand ∧ g.significand ≤ UInt64.size / 2)) then
    some (int (if n.negative then -(g.significand : Int) else g.significand))
  else
    let f := gather g.significand (n.fraction.getD [])
    let scale : Int := (g.left : Int) - f.taken
    let double (e : Int) := (Double.ofDecimal? n.negative f.significand e).map double
    match n.exponent with
    | none => double scale
    | some (negative, ds) =>
      let e := (digitsValue? ds).getD 0
      if maxWrittenExponent < e then
        if negative ∨ f.significand = 0 then some (.double (Double.zero n.negative)) else none
      else double (if negative then scale - e else scale + e)

/-- Reads the numeral of a number. -/
def signed? : List Char → Option (Numeral × List Char)
  | '-' :: cs => numeral? true cs
  | cs => numeral? false cs

/-- Reads a number. -/
def number (cs : List Char) : Option (Json × List Char) := do
  let (n, rest) ← signed? cs
  return (← n.value?, rest)

/-! ## Values -/

/-- How strings and numbers are read. -/
structure Leaves where
  /-- Reads a string after its opening quote. -/
  string : List Char → Option (String × List Char)
  number : List Char → Option (Json × List Char)

/-- Strings and numbers are read as what they write. -/
def Leaves.exact : Leaves where
  string cs := (Parser.string cs).map fun (s, rest) => (String.ofList s, rest)
  number := Parser.number

/-- Strings and numbers are passed over. -/
def Leaves.skipped : Leaves where
  string cs := (skipString cs).map fun rest => ("", rest)
  number cs := (signed? cs).map fun (_, rest) => (null, rest)

/-- Reads the items of an array that has one, up to the closing bracket; `fuel` bounds their
number. -/
def items (value : List Char → Option (Json × List Char)) :
    Nat → List Char → Option (List Json × List Char)
  | 0, _ => none
  | fuel + 1, cs => do
    let (v, rest) ← value (skip cs)
    match skip rest with
    | ']' :: rest => return ([v], rest)
    | ',' :: rest => do
      let (vs, rest) ← items value fuel rest
      return (v :: vs, rest)
    | _ => none

/-- Reads one member of an object; how its value is read may depend on its key. -/
def member (leaves : Leaves) (value : String → List Char → Option (Json × List Char))
    (cs : List Char) :
    Option ((String × Json) × List Char) :=
  match cs with
  | '"' :: cs => do
    let (k, rest) ← leaves.string cs
    match skip rest with
    | ':' :: rest => do
      let (v, rest) ← value k (skip rest)
      return ((k, v), rest)
    | _ => none
  | _ => none

/-- Reads the members of an object that has one, up to the closing brace; `fuel` bounds their
number. -/
def members (leaves : Leaves) (value : String → List Char → Option (Json × List Char)) :
    Nat → List Char → Option (List (String × Json) × List Char)
  | 0, _ => none
  | fuel + 1, cs => do
    let (m, rest) ← member leaves value (skip cs)
    match skip rest with
    | '}' :: rest => return ([m], rest)
    | ',' :: rest => do
      let (ms, rest) ← members leaves value fuel rest
      return (m :: ms, rest)
    | _ => none

/-- Reads an array after its opening bracket. -/
def array (value : List Char → Option (Json × List Char)) (cs : List Char) :
    Option (Json × List Char) :=
  match skip cs with
  | ']' :: rest => some (arr [], rest)
  | cs => (items value cs.length cs).map fun (vs, rest) => (arr vs, rest)

/-- Reads an object after its opening brace. -/
def object (leaves : Leaves) (value : String → List Char → Option (Json × List Char))
    (cs : List Char) :
    Option (Json × List Char) :=
  match skip cs with
  | '}' :: rest => some (obj [], rest)
  | cs => (members leaves value cs.length cs).map fun (ms, rest) => (obj ms, rest)

/-- Reads a value that stands at the beginning of the text, with at most `depth` containers
inside each other. -/
def value (leaves : Leaves) : Nat → List Char → Option (Json × List Char)
  | depth, cs =>
    match cs with
    | 'n' :: 'u' :: 'l' :: 'l' :: rest => some (null, rest)
    | 't' :: 'r' :: 'u' :: 'e' :: rest => some (bool true, rest)
    | 'f' :: 'a' :: 'l' :: 's' :: 'e' :: rest => some (bool false, rest)
    | '"' :: rest => (leaves.string rest).map fun (s, rest) => (str s, rest)
    | '[' :: rest => match depth with | 0 => none | depth + 1 => array (value leaves depth) rest
    | '{' :: rest =>
      match depth with | 0 => none | depth + 1 => object leaves (fun _ => value leaves depth) rest
    | cs => leaves.number cs

/-- How many containers may stand inside each other. -/
def maxDepth : Nat := 127

/-- Reads an exact value. -/
def exact (cs : List Char) : Option (Json × List Char) := value .exact maxDepth cs

/-- Passes over a value of any depth. -/
def skipped (cs : List Char) : Option (Json × List Char) := value .skipped cs.length cs

/-- Reads an object of which only the members with wanted keys matter; the others are passed
over. -/
def selected (wanted : String → Bool) (cs : List Char) : Option (Json × List Char) :=
  match cs with
  | '{' :: rest =>
    object .exact (fun k => if wanted k then value .exact (maxDepth - 1) else skipped) rest
  | cs => exact cs

/-- Reads a document: one value with nothing but blanks around it. -/
def document (value : List Char → Option (Json × List Char)) (cs : List Char) : Option Json := do
  let (v, rest) ← value (skip cs)
  if (skip rest).isEmpty then some v else none

end Parser

/-- The value that a text writes, members in the order of the text; `none` if it is no JSON
document. -/
def parse? (s : String) : Option Json := Parser.document Parser.exact s.toList

/-- The value that a text writes, where only the members with wanted keys matter if it is an
object. -/
def parseSelected? (wanted : String → Bool) (s : String) : Option Json :=
  Parser.document (Parser.selected wanted) s.toList

end SigningConsole.Json
