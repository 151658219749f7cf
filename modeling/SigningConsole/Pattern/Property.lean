import SigningConsole.Text.Blank
import SigningConsole.Text.Letter
import SigningConsole.Text.Script
/-!
Properties of characters that a pattern can ask for, and their names.

A property is asked for by the letters or the name of a category, by the name of one of a few
others, or by the code or the name of a script. Case, blanks, hyphens, underscores and a leading
`is` do not count in a name.
-/

namespace SigningConsole.Pattern

open Text

/-- A property of characters. -/
inductive Property where
  | category (k : Category)
  /-- The categories that share their first letter. -/
  | categories (first : Char)
  /-- Letters with case: small, capital and title letters. -/
  | cased
  | letter
  | lower
  | upper
  | blank
  /-- What may stand in a word: letters, marks, decimal digits, connectors and joiners. -/
  | word
  | script (code : String)
  | ascii
  | assigned
  | any
deriving DecidableEq, Repr

namespace Property

/-- Whether a character may stand in a word. -/
def isWordChar (c : Char) : Bool :=
  if c.toNat < 0x80 then c.isAlphanum || c == '_'
  else
    let k := Category.of c
    isLetter c || k.isMark || k == .decimalNumber || k == .connectorPunctuation ||
    c == '\u200C' || c == '\u200D'

/-- Whether a character has a property. -/
def holds (c : Char) : Property → Bool
  | category k => Category.of c == k
  | categories first => (Category.of c).letters.1 == first
  | cased => [Category.upperLetter, .lowerLetter, .titleLetter].contains (Category.of c)
  | letter => isLetter c
  | lower => isLowerCase c
  | upper => isUpperCase c
  | blank => isBlank c
  | word => isWordChar c
  | script code => Script.of c == code
  | ascii => c.toNat < 0x80
  | assigned => Category.of c != .unassigned
  | any => true

/-- About how many steps of a machine it takes to know the characters with a property. -/
def size : Property → Nat
  | ascii => 1
  | any => 8
  | blank => 16
  | category .decimalNumber => 200
  | word => 1600
  | _ => 800

/-! ## Names -/

/-- A name as it is looked up. -/
def plainName (name : List Char) : List Char :=
  let plain (cs : List Char) :=
    (cs.filter fun c => c.toNat < 0x80 && c != ' ' && c != '_' && c != '-').map Char.toLower
  match name with
  | i :: s :: rest =>
    if i.toLower = 'i' ∧ s.toLower = 's' then
      let rest := plain rest
      if rest = ['c'] then ['i', 's', 'c'] else rest
    else plain name
  | name => plain name

/-- The long names of categories, with their letters. -/
def categoryNames : List (String × String) := [
    ("other", "c"), ("control", "cc"), ("cntrl", "cc"), ("format", "cf"), ("unassigned", "cn"),
    ("privateuse", "co"), ("letter", "l"), ("casedletter", "lc"), ("lowercaseletter", "ll"),
    ("modifierletter", "lm"), ("otherletter", "lo"), ("titlecaseletter", "lt"),
    ("uppercaseletter", "lu"), ("mark", "m"), ("combiningmark", "m"), ("spacingmark", "mc"),
    ("enclosingmark", "me"), ("nonspacingmark", "mn"), ("number", "n"), ("decimalnumber", "nd"),
    ("digit", "nd"), ("letternumber", "nl"), ("othernumber", "no"), ("punctuation", "p"),
    ("punct", "p"), ("connectorpunctuation", "pc"), ("dashpunctuation", "pd"),
    ("closepunctuation", "pe"), ("finalpunctuation", "pf"), ("initialpunctuation", "pi"),
    ("otherpunctuation", "po"), ("openpunctuation", "ps"), ("symbol", "s"),
    ("currencysymbol", "sc"), ("modifiersymbol", "sk"), ("mathsymbol", "sm"), ("othersymbol", "so"),
    ("separator", "z"), ("lineseparator", "zl"), ("paragraphseparator", "zp"),
    ("spaceseparator", "zs")]

/-- The property of a category's letters; surrogates are no characters and have none. -/
def ofLetters? : List Char → Option Property
  | [a] =>
    if ['C', 'L', 'M', 'N', 'P', 'S', 'Z'].contains a.toUpper then some (categories a.toUpper)
    else none
  | ['l', 'c'] => some cased
  | [a, b] => ((Category.ofLetters? a.toUpper b).filter (· ≠ .surrogate)).map category
  | _ => none

/-- The property of a category's name, as it is looked up. -/
def ofCategoryName? (name : List Char) : Option Property :=
  match String.ofList name with
  | "any" => some any
  | "assigned" => some assigned
  | "ascii" => some ascii
  | text => ofLetters? ((categoryNames.lookup text).elim name String.toList)

/-- The property of a script's code or name, as it is looked up. -/
def ofScriptName? (name : List Char) : Option Property :=
  let names (s : String) := plainName s.toList == name
  if name == "qaai".toList then some (script "Zinh")
  else if name == "qaac".toList then some (script "Copt")
  else (Script.names.find? fun (code, long) => names code || names long).map
    fun (code, _) => script code

/-- The other properties by their names. -/
def others : List (String × Property) := [
    ("alphabetic", letter), ("alpha", letter), ("lowercase", lower), ("lower", lower),
    ("uppercase", upper), ("upper", upper), ("whitespace", blank), ("wspace", blank),
    ("space", blank)]

/-- The property of a name. -/
def ofName? (name : List Char) : Option Property :=
  let name := plainName name
  ((others.lookup (String.ofList name)).or (ofCategoryName? name)).or (ofScriptName? name)

/-- The property of a name that belongs to a kind of property. -/
def ofKind? (kind name : List Char) : Option Property :=
  match String.ofList (plainName kind) with
  | "generalcategory" => ofCategoryName? (plainName name)
  | "gc" => ofCategoryName? (plainName name)
  | "script" => ofScriptName? (plainName name)
  | "sc" => ofScriptName? (plainName name)
  | _ => none

end Property

end SigningConsole.Pattern
