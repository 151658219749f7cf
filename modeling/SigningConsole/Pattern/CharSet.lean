import SigningConsole.Pattern.Property
import SigningConsole.Text.Folding
/-!
Sets of characters, built from ranges and properties.
-/

namespace SigningConsole.Pattern

open Text

/-- A set of characters. -/
inductive CharSet where
  | none
  | range (first last : Char)
  | property (p : Property)
  | union (a b : CharSet)
  | inter (a b : CharSet)
  | diff (a b : CharSet)
  /-- What is in one of two sets and not in the other. -/
  | oneOf (a b : CharSet)
  | complement (a : CharSet)
  /-- The set with all characters that differ from one of its own in case only. -/
  | caseless (a : CharSet)
deriving DecidableEq, Repr

namespace CharSet

/-- Whether a character is in a set. -/
def contains : CharSet → Char → Bool
  | none, _ => false
  | range first last, c => first ≤ c && c ≤ last
  | property p, c => p.holds c
  | union a b, c => a.contains c || b.contains c
  | inter a b, c => a.contains c && b.contains c
  | diff a b, c => a.contains c && !b.contains c
  | oneOf a b, c => a.contains c != b.contains c
  | complement a, c => !a.contains c
  | caseless a, c => (caseVariants c).any fun d => a.contains d

/-- About how many steps of a machine it takes to know the characters of a set. -/
def size : CharSet → Nat
  | none => 1
  | range _ last => if last.toNat < 0x80 then 1 else 4
  | property p => p.size
  | union a b => a.size + b.size
  | inter a b => a.size + b.size
  | diff a b => a.size + b.size
  | oneOf a b => a.size + b.size
  | complement a => a.size + 4
  | caseless a => a.size

/-- The set of one character. -/
def single (c : Char) : CharSet := range c c

/-- The set of ranges of characters. -/
def ofRanges (ranges : List (Char × Char)) : CharSet :=
  ranges.foldr (fun (first, last) set => union (range first last) set) none

/-- The sets of ASCII characters that have names. -/
def named : List (String × CharSet) := [
    ("alnum", ofRanges [('0', '9'), ('A', 'Z'), ('a', 'z')]),
    ("alpha", ofRanges [('A', 'Z'), ('a', 'z')]),
    ("ascii", ofRanges [('\x00', '\x7F')]), ("blank", ofRanges [('\t', '\t'), (' ', ' ')]),
    ("cntrl", ofRanges [('\x00', '\x1F'), ('\x7F', '\x7F')]), ("digit", ofRanges [('0', '9')]),
    ("graph", ofRanges [('!', '~')]), ("lower", ofRanges [('a', 'z')]),
    ("print", ofRanges [(' ', '~')]),
    ("punct", ofRanges [('!', '/'), (':', '@'), ('[', Char.ofNat 0x60), ('\x7b', '~')]),
    ("space", ofRanges [('\t', '\r'), (' ', ' ')]), ("upper", ofRanges [('A', 'Z')]),
    ("word", ofRanges [('0', '9'), ('A', 'Z'), ('_', '_'), ('a', 'z')]),
    ("xdigit", ofRanges [('0', '9'), ('A', 'F'), ('a', 'f')])]

/-- The set of ASCII characters with a name. -/
def ascii (name : String) : CharSet := (named.lookup name).getD none

end CharSet

end SigningConsole.Pattern
