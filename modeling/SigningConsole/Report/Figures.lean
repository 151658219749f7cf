import SigningConsole.Number.Double
import SigningConsole.Text.Decimal
import SigningConsole.Text.Split
/-!
Figures as the console shows them: grouped and compact numbers, shares of a total, and lengths of
time.
-/

namespace SigningConsole.Report

open Text

/-- The characters one after the other, with a comma wherever a multiple of three of them is
left. -/
def punctuate : List Char → List Char
  | [] => []
  | c :: cs => if cs ≠ [] ∧ cs.length % 3 = 0 then c :: ',' :: punctuate cs else c :: punctuate cs

/-- `1234567` as `1,234,567`. -/
def grouped (n : Nat) : String := String.ofList (punctuate (decimal n))

/-- `1234` as `1.2K`: thousands with one place, cut off and not rounded; below a
thousand as it is. -/
def abbreviated (n : Nat) : String :=
  if n < 1000 then natText n
  else
    let tenths := n / 100
    if tenths % 10 = 0 then natText (tenths / 10) ++ "K"
    else natText (tenths / 10) ++ "." ++ natText (tenths % 10) ++ "K"

/-- The share of a part in a total in percent, computed in doubles. -/
def share? (part total : Nat) : Option Double := do
  let part ← Double.ofNat? part
  let total ← Double.ofNat? total
  let quotient ← part.div? total
  quotient.mul? (← Double.ofNat? 100)

/-- The share of a part in a total with one place, a half going to the even digit; none of
nothing is `0.0%`. -/
def shareText (part total : Nat) : String :=
  if total = 0 then "0.0%"
  else
    match share? part total with
    | some x => String.ofList (x.fixed 1 decimal) ++ "%"
    | none => "inf%"

/-- A length of time in days, hours, minutes and seconds. -/
structure TimeParts where
  days : Nat
  hours : Nat
  minutes : Nat
  seconds : Nat
deriving DecidableEq, Repr

/-- The parts of a number of seconds. -/
def TimeParts.ofSeconds (n : Nat) : TimeParts where
  days := n / 86400
  hours := n % 86400 / 3600
  minutes := n % 3600 / 60
  seconds := n % 60

/-- The parts with their units, the greatest unit first. -/
def TimeParts.toList (p : TimeParts) : List (Nat × String) :=
  [(p.days, "days"), (p.hours, "h"), (p.minutes, "min"), (p.seconds, "s")]

/-- `93784` seconds as `1days 2h 3min 4s`: parts that are zero are left out, no time at all is
`0s`. -/
def spanText (n : Nat) : String :=
  let parts := (TimeParts.ofSeconds n).toList.filter (·.1 ≠ 0)
  if parts.isEmpty then "0s" else " ".intercalate (parts.map fun (k, u) => natText k ++ u)

end SigningConsole.Report
