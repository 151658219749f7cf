import SigningConsole.Text.Hexadecimal
import SigningConsole.Text.Utf8
/-!
Percent-encoding: a character of a set is replaced by its UTF-8 bytes, each written as `%` and two
hexadecimal digits. Characters beyond ASCII belong to every set.
-/

namespace SigningConsole.Url

open Text

/-- A byte as `%` and two digits. -/
def escapeByte (b : UInt8) : List Char := ['%', hexUpper (b.toNat / 16), hexUpper (b.toNat % 16)]

/-- One character under the set `reserved`. -/
def encodeChar (reserved : Char → Bool) (c : Char) : List Char :=
  if c.toNat < 0x80 ∧ !reserved c then [c] else (String.utf8EncodeChar c).flatMap escapeByte

/-- A text under the set `reserved`. -/
def encode (reserved : Char → Bool) (cs : List Char) : List Char := cs.flatMap (encodeChar reserved)

/-- The bytes of a text with every `%` and two hexadecimal digits read as the byte they write. -/
def decode : List Char → List UInt8
  | '%' :: a :: b :: cs =>
    match hexDigit? a, hexDigit? b with
    | some x, some y => UInt8.ofNat (x * 16 + y) :: decode cs
    | _, _ => UInt8.ofNat 0x25 :: decode (a :: b :: cs)
  | c :: cs => String.utf8EncodeChar c ++ decode cs
  | [] => []

/-! ## Sets -/

/-- Controls. -/
def isControl (c : Char) : Bool := c.toNat < 0x20 || c.toNat == 0x7F

/-- What is encoded in a fragment. -/
def inFragmentSet (c : Char) : Bool :=
  isControl c || c == ' ' || c == '"' || c == '<' || c == '>' || c.toNat == 0x60

/-- What is encoded in a query. -/
def inQuerySet (c : Char) : Bool :=
  isControl c || c == ' ' || c == '"' || c == '#' || c == '<' || c == '>'

/-- What is encoded in the query of a special scheme. -/
def inSpecialQuerySet (c : Char) : Bool := inQuerySet c || c.toNat == 0x27

/-- What is encoded in a path. -/
def inPathSet (c : Char) : Bool := inFragmentSet c || c == '#' || c == '?' || c == '{' || c == '}'

/-- What is encoded in user names and passwords. -/
def inUserSet (c : Char) : Bool :=
  inPathSet c || c == '/' || c == ':' || c == ';' || c == '=' || c == '@' || c == '[' ||
    c == '\\' || c == ']' || c == '^' || c == '|'

end SigningConsole.Url
