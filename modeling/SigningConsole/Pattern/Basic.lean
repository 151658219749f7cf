import SigningConsole.Pattern.CharSet
/-!
Patterns of text, and the texts that contain a match of one.

`Pattern.ends` gives the places at which a match that begins at a place may end. A place is the
number of characters before it.
-/

namespace SigningConsole

open Text

/-- A demand on the characters on both sides of a place. -/
inductive Pattern.Look where
  | textStart
  | textEnd
  | lineStart
  | lineEnd
  /-- As `lineStart`, where a carriage return, a line feed or both together end a line. -/
  | anyLineStart
  | anyLineEnd
  | boundary
  | noBoundary
  | wordStart
  | wordEnd
  /-- No word goes on before the place. -/
  | noWordBefore
  /-- No word goes on after the place. -/
  | noWordAfter
deriving DecidableEq, Repr

/-- A pattern. -/
inductive Pattern where
  | empty
  | one (set : Pattern.CharSet)
  /-- A demand, under which words are made of the characters of a set. -/
  | look (demand : Pattern.Look) (word : Pattern.CharSet)
  | cat (p q : Pattern)
  | alt (p q : Pattern)
  /-- A number of matches, one after the other. -/
  | times (p : Pattern) (least : Nat) (most : Option Nat)
  | group (p : Pattern)
deriving DecidableEq, Repr

namespace Pattern

/-- Whether a demand is met between two characters; there is none at the ends of the text. -/
def Look.holds (word : CharSet) (before after : Option Char) : Look → Bool
  | textStart => before.isNone
  | textEnd => after.isNone
  | lineStart => before.all (· == '\n')
  | lineEnd => after.all (· == '\n')
  | anyLineStart => before.all fun c => c == '\n' || (c == '\r' && after != some '\n')
  | anyLineEnd => after.all fun c => c == '\r' || (c == '\n' && before != some '\r')
  | boundary => before.any word.contains != after.any word.contains
  | noBoundary => before.any word.contains == after.any word.contains
  | wordStart => !before.any word.contains && after.any word.contains
  | wordEnd => before.any word.contains && !after.any word.contains
  | noWordBefore => !before.any word.contains
  | noWordAfter => !after.any word.contains

/-! ## Matches -/

/-- The places that a step leads to from places. -/
def advance (step : Nat → List Nat) (places : List Nat) : List Nat :=
  (places.flatMap step).eraseDups

/-- The places after exactly a number of steps. -/
def exactly (step : Nat → List Nat) : Nat → List Nat → List Nat
  | 0, places => places
  | n + 1, places =>
    let next := advance step places
    if next = places then places else exactly step n next

/-- The places after at most a number of steps: `reached` so far, `fresh` ones the last step has
added. -/
def upTo (step : Nat → List Nat) : Nat → List Nat → List Nat → List Nat
  | 0, reached, _ => reached
  | n + 1, reached, fresh =>
    let fresh := (advance step fresh).filter fun i => !reached.contains i
    if fresh.isEmpty then reached else upTo step n (reached ++ fresh) fresh

/-- The places at which a match that begins at a place may end. -/
def ends (text : Array Char) : Pattern → Nat → List Nat
  | empty, i => [i]
  | one set, i => if (text[i]?).any set.contains then [i + 1] else []
  | look demand word, i =>
    if demand.holds word (if i = 0 then none else text[i - 1]?) (text[i]?) then [i] else []
  | cat p q, i => advance (ends text q) (ends text p i)
  | alt p q, i => (ends text p i ++ ends text q i).eraseDups
  | times p least most, i =>
    let places := exactly (ends text p) least [i]
    -- each further match must reach a new place, and there are no more than these
    upTo (ends text p) (most.elim (text.size + 1) (· - least)) places places
  | group p, i => ends text p i

/-- Whether a match of the pattern stands anywhere in a text. -/
def occursIn (p : Pattern) (text : String) : Bool :=
  let cs := text.toList.toArray
  (List.range (cs.size + 1)).any fun i => !(ends cs p i).isEmpty

/-! ## Sizes -/

mutual

/-- How deep the parts of a pattern stand inside each other. -/
def depth : Pattern → Nat
  | empty => 0
  | one _ => 0
  | look _ _ => 0
  | cat p q => 1 + max p.depth q.catDepth
  | alt p q => 1 + max p.depth q.altDepth
  | times p _ _ => 1 + p.depth
  | group p => 1 + p.depth

/-- The greatest depth among the parts of a sequence. -/
def catDepth : Pattern → Nat
  | cat p q => max p.depth q.catDepth
  | empty => 0
  | one _ => 0
  | look _ _ => 0
  | alt p q => 1 + max p.depth q.altDepth
  | times p _ _ => 1 + p.depth
  | group p => 1 + p.depth

/-- The greatest depth among the parts of a choice. -/
def altDepth : Pattern → Nat
  | alt p q => max p.depth q.altDepth
  | empty => 0
  | one _ => 0
  | look _ _ => 0
  | cat p q => 1 + max p.depth q.catDepth
  | times p _ _ => 1 + p.depth
  | group p => 1 + p.depth

end

/-- Whether a match of the pattern never has a character. -/
def isVoid : Pattern → Bool
  | empty => true
  | one _ => false
  | look _ _ => true
  | cat p q => p.isVoid && q.isVoid
  | alt p q => p.isVoid && q.isVoid
  | times p _ most => p.isVoid || most == some 0
  | group p => p.isVoid

/-- About how many steps a machine has that looks for the pattern, its repetitions written out. -/
def size : Pattern → Nat
  | empty => 1
  | one set => set.size
  | look _ _ => 1
  | cat p q => p.size + q.size
  | alt p q => 1 + p.size + q.size
  | times p least most =>
    let copies := most.getD least
    if p.isVoid then p.size + 1 else p.size * max 1 copies + (copies - least) + 1
  | group p => p.size + 2

/-- How deep the parts of a pattern may stand inside each other. -/
def maxDepth : Nat := 250

/-- How large a pattern may be. -/
def maxSize : Nat := 327680

end Pattern

end SigningConsole
