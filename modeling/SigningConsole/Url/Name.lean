import SigningConsole.Text.Composition
import SigningConsole.Text.Direction
import SigningConsole.Text.Joining
import SigningConsole.Url.NameTable
import SigningConsole.Url.Percent
import SigningConsole.Url.Punycode
/-!
Names of hosts in the characters of all scripts, and their form in ASCII.

A name is first brought into one spelling: each character is replaced by its image, and the text is
composed. Then every label is checked and, where it has characters beyond ASCII, written in
Punycode after `xn--`.
-/

namespace SigningConsole.Url

open Text

namespace Name

/-- The image of a character in names: none at all for what does not count; no answer for what
may not stand there. -/
def image? (c : Char) : Option (List Char) :=
  if c.toNat < 0x80 then some [c.toLower]
  else if isRefused c then none
  else if inRanges ignoredRanges c then some []
  else
    match shifted? imageRuns c with
    | some d => some [d]
    | none => some ((images.find? c.toNat).getD [c])

/-- Whether the character stands for itself. -/
def isOwnImage (c : Char) : Bool := image? c == some [c]

/-- What begins a label in Punycode. -/
def codeMark : List Char := ['x', 'n', '-', '-']

/-- The Punycode of a label that is written in it. -/
def code? (label : List Char) : Option (List Char) :=
  if codeMark.isPrefixOf label then some (label.drop codeMark.length) else none

/-- The longest Punycode that is read. -/
def maxCodeLength : Nat := 2000

/-- The longest label with characters beyond ASCII. -/
def maxLabelLength : Nat := 1000

/-- Whether all characters are ASCII. -/
def isAscii (cs : List Char) : Bool := cs.all (·.toNat < 0x80)

/-- The label that a Punycode stands for: it has characters beyond ASCII, is in the one spelling of
names, and has this Punycode. -/
def ofCode? (code : List Char) : Option (List Char) :=
  if maxCodeLength < code.length ∨ !isAscii code then none
  else
    (Punycode.decode? code).filter fun label =>
      !isAscii label && label.all isOwnImage && composed label == label &&
      Punycode.encode label == code

/-- A label in its own characters. -/
def own? (label : List Char) : Option (List Char) :=
  match code? label with
  | some code => ofCode? code
  | none => some label

/-- Whether a label, in its own characters, is well formed by itself: it does not begin with a mark,
its joiners mean something, and it is not too long. -/
def isWellFormed (label : List Char) : Bool :=
  isAscii label ||
    (!label.head?.any (fun c => (Category.of c).isMark) && joinersFit [] label &&
      label.length ≤ maxLabelLength)

/-- A label, in its own characters, in ASCII. -/
def asciiLabel (label : List Char) : List Char :=
  if isAscii label then label else codeMark ++ Punycode.encode label

/-- What may not stand in a name. -/
def isForbidden (c : Char) : Bool :=
  isControl c || c == ' ' || c == '#' || c == '%' || c == '/' || c == ':' || c == '<' ||
  c == '>' || c == '?' ||
    c == '@' || c == '[' || c == '\\' || c == ']' || c == '^' || c == '|'

/-- The labels of a name in their own characters. -/
def labels? (cs : List Char) : Option (List (List Char)) := do
  let images ← cs.mapM image?
  (splitAll '.' (composed images.flatten)).mapM own?

/-- A name in ASCII. -/
def ascii? (cs : List Char) : Option (List Char) := do
  let labels ← labels? cs
  let name := joinAll ['.'] (labels.map asciiLabel)
  let ordered := !labels.any runsLeft || labels.all keepsOrder
  if labels.all isWellFormed && ordered && !name.any isForbidden then some name else none

end Name

end SigningConsole.Url
