import SigningConsole.Calendar.Display
import SigningConsole.Pattern.Reader
import SigningConsole.Text.Blank
import SigningConsole.Text.Split
/-!
The log: entries with a level and a component, the filter that selects them, and the line of an
entry.

A filter is a list of levels, each for the components whose name begins with a text; the longest
such text decides.
-/

namespace SigningConsole.Log

open Calendar Text

/-- How grave an entry is, the gravest first. -/
inductive Level where
  | error
  | warn
  | info
  | debug
  | trace
deriving DecidableEq, Repr

namespace Level

/-- The rank of a level. -/
def rank : Level → Nat
  | error => 1
  | warn => 2
  | info => 3
  | debug => 4
  | trace => 5

/-- The name of a level. -/
def name : Level → String
  | error => "ERROR"
  | warn => "WARN"
  | info => "INFO"
  | debug => "DEBUG"
  | trace => "TRACE"

/-- The number of a level's color, if it has one. -/
def color? : Level → Option String
  | error => some "196"
  | warn => some "208"
  | _ => none

/-- The name of a level, filled up to five characters and colored. -/
def label (level : Level) : List Char :=
  let padded := level.name.toList ++ List.replicate (5 - level.name.length) ' '
  match level.color? with
  | some color => "\x1b[38;5;".toList ++ color.toList ++ 'm' :: (padded ++ "\x1b[0m".toList)
  | none => padded

end Level

/-- One entry. -/
structure Entry where
  level : Level
  /-- The part of the console that wrote the entry. -/
  component : String
  text : String
deriving DecidableEq, Repr

/-- The line of an entry, written at a time. -/
def Entry.line (e : Entry) (at' : Instant) : List Char :=
  at'.civil.clock ++ ' ' :: (e.level.label ++ ' ' :: (e.text.toList ++ ['\n']))

/-! ## Filters -/

/-- Up to which rank entries pass, for the components whose name begins with a text. -/
structure Rule where
  component : String
  rank : Nat
deriving DecidableEq, Repr

/-- Which entries pass: by rules, and by a pattern that must occur in them. -/
structure Filter where
  rules : List Rule
  pattern : Option Pattern := none
deriving DecidableEq, Repr

/-- The rank up to which a level's name lets entries pass. -/
def rankOf? (word : List Char) : Option Nat :=
  [("off", 0), ("error", 1), ("warn", 2), ("info", 3), ("debug", 4), ("trace", 5)].lookup
    (String.ofList (word.map Char.toLower))

/-- The rule of a component's name and the rank, unless the name has blanks inside. -/
def Rule.of? (component : List Char) (rank : Option Nat) : Option Rule :=
  if component.any isBlank then none else rank.map fun rank => ⟨String.ofList component, rank⟩

/-- The rule of one part of a filter's text: a level, a component, or a component with a level. -/
def Rule.ofText? (part : List Char) : Option Rule :=
  match (splitAll '=' part).map trim with
  | [word] =>
    match rankOf? word with
    | some rank => some ⟨"", rank⟩
    | none => Rule.of? word (some Level.trace.rank)
  | [component, []] => Rule.of? component (some Level.trace.rank)
  | [component, word] => Rule.of? component (rankOf? word)
  | _ => none

namespace Filter

/-- Reads a filter: rules between commas, blank ones being passed over, and after a slash the
pattern that must occur in entries. -/
def ofText? (s : String) : Option Filter :=
  let rules (cs : List Char) :=
    ((splitAll ',' cs).filter fun part => !part.all isBlank).mapM Rule.ofText?
  match splitAll '/' s.toList with
  | [cs] => (rules cs).map fun rules => { rules }
  | [cs, text] => do
        return { rules := ← rules cs, pattern := some (← Pattern.ofText? (String.ofList text)) }
  | _ => none

/-- The filter that lets entries pass up to a level. -/
def upTo (level : Level) : Filter := { rules := [⟨"", level.rank⟩] }

/-- The rule with the longest text that a component's name begins with, the first one of several. -/
def rule? (f : Filter) (component : String) : Option Rule :=
  (f.rules.filter fun r => r.component.toList.isPrefixOf component.toList).foldl
    (fun best r =>
      match best with
      | some b => if b.component.length < r.component.length then some r else some b
      | none => some r)
    none

/-- Whether an entry passes. -/
def passes (f : Filter) (e : Entry) : Bool :=
  (match f.rule? e.component with
    | some r => e.level.rank ≤ r.rank
    | none => false) &&
  f.pattern.all fun p => p.occursIn e.text

end Filter

end SigningConsole.Log
