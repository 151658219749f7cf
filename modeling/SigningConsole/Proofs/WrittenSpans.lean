import SigningConsole.Proofs.Numerals
import SigningConsole.Report.Figures
import SigningConsole.Text.Blank
/-!
Lengths of time in words, and the seconds that are read back from them.

A length of time is cut into days, hours, minutes and seconds, of which no part but the days
reaches the next unit. Its text has a word for each part that is not zero (`Report.Tells`,
`Report.tells_spanText`): the number and the name of the unit, where the name begins as the
digits end. So each word is read for itself (`Report.readPart?_word`), and a part that has no
word adds nothing.

Main statement: `Report.span_read_back`.
-/

namespace SigningConsole.Report

open Text

/-! ## Units -/

/-- The units of the parts. -/
inductive TimeUnit where
  | day | hour | minute | second
deriving DecidableEq, Repr

namespace TimeUnit

def name : TimeUnit → String
  | day => "days"
  | hour => "h"
  | minute => "min"
  | second => "s"

def seconds : TimeUnit → Nat
  | day => 86400
  | hour => 3600
  | minute => 60
  | second => 1

/-- The unit that has the name. -/
def ofName? (cs : List Char) : Option TimeUnit :=
  [day, hour, minute, second].find? (·.name.toList = cs)

theorem ofName?_name (u : TimeUnit) : ofName? u.name.toList = some u := by cases u <;> decide

theorem noDigit_name (u : TimeUnit) : NoDigit u.name.toList := by
  have hhead : u.name.toList.head?.any Char.isDigit = false := by cases u <;> decide
  intro c hc
  rw [Option.mem_def.1 hc] at hhead
  exact hhead

theorem space_not_mem_name (u : TimeUnit) : ' ' ∉ u.name.toList := by cases u <;> decide

end TimeUnit

/-! ## Parts -/

/-- The parts with their units. -/
def TimeParts.inUnits (p : TimeParts) : List (Nat × TimeUnit) :=
  [(p.days, .day), (p.hours, .hour), (p.minutes, .minute), (p.seconds, .second)]

theorem TimeParts.toList_eq (p : TimeParts) :
    p.toList = p.inUnits.map fun part => (part.1, part.2.name) := rfl

/-- The seconds of all parts. -/
def total : List (Nat × TimeUnit) → Nat
  | [] => 0
  | part :: parts => part.1 * part.2.seconds + total parts

theorem TimeParts.ofSeconds_spec (n : Nat) :
    (ofSeconds n).hours < 24 ∧ (ofSeconds n).minutes < 60 ∧ (ofSeconds n).seconds < 60 ∧
      (ofSeconds n).days * 86400 + (ofSeconds n).hours * 3600 + (ofSeconds n).minutes * 60 +
      (ofSeconds n).seconds = n := by
  unfold ofSeconds
  refine ⟨?_, ?_, ?_, ?_⟩ <;> dsimp only <;> omega

theorem total_inUnits (p : TimeParts) :
    total p.inUnits = p.days * 86400 + p.hours * 3600 + p.minutes * 60 + p.seconds := by
  simp only [total, TimeParts.inUnits, TimeUnit.seconds]
  omega

theorem total_ofSeconds (n : Nat) : total (TimeParts.ofSeconds n).inUnits = n := by
  obtain ⟨-, -, -, hsum⟩ := TimeParts.ofSeconds_spec n
  rw [total_inUnits, hsum]

/-! ## Words -/

/-- A part as it is written. -/
def word (part : Nat × TimeUnit) : List Char := decimal part.1 ++ part.2.name.toList

/-- The words are the parts that are not zero, in their order. -/
inductive Tells : List (Nat × TimeUnit) → List (List Char) → Prop where
  | nil : Tells [] []
  | leave {u : TimeUnit} {parts : List (Nat × TimeUnit)} {words : List (List Char)}
      (h : Tells parts words) :
    Tells ((0, u) :: parts) words
  | tell {k : Nat} {u : TimeUnit} {parts : List (Nat × TimeUnit)}
    {words : List (List Char)} (hk : 0 < k) (h : Tells parts words) :
    Tells ((k, u) :: parts) (word (k, u) :: words)

/-- The words of those parts that are not zero. -/
def spanWords (parts : List (Nat × TimeUnit)) : List (List Char) :=
  (parts.filter (·.1 ≠ 0)).map word

theorem tells_spanWords (parts : List (Nat × TimeUnit)) : Tells parts (spanWords parts) := by
  induction parts with
  | nil => exact .nil
  | cons part parts ih =>
    obtain ⟨k, u⟩ := part
    cases k with
    | zero => exact .leave ih
    | succ k => exact .tell (Nat.succ_pos k) ih

theorem space_not_mem_word (part : Nat × TimeUnit) : ' ' ∉ word part := by
  intro h
  obtain h | h := List.mem_append.1 h
  · exact not_mem_decimal rfl part.1 h
  · exact part.2.space_not_mem_name h

/-! ## Reading -/

/-- The seconds of a word: the digits that it begins with, and the unit that the rest of it
names. -/
def readPart? (cs : List Char) : Option Nat :=
  (readDigits? (cs.takeWhile Char.isDigit)).bind fun k =>
    (TimeUnit.ofName? (cs.dropWhile Char.isDigit)).map fun u => k * u.seconds

/-- The seconds of all words. -/
def readParts? : List (List Char) → Option Nat
  | [] => some 0
  | cs :: words => (readPart? cs).bind fun k => (readParts? words).map (k + ·)

/-- The seconds of a text whose words are parts. -/
def readSpan? (s : String) : Option Nat := readParts? (splitAll ' ' s.toList)

theorem readPart?_word (part : Nat × TimeUnit) :
    readPart? (word part) = some (part.1 * part.2.seconds) := by
  obtain ⟨htake, hdrop⟩ :=
    cut_append (fun c => isDigit_of_mem_decimal (n := part.1)) part.2.noDigit_name
  rw [readPart?, word, htake, hdrop, readDigits?_decimal, TimeUnit.ofName?_name]
  rfl

theorem readParts?_of_tells {parts : List (Nat × TimeUnit)} {words : List (List Char)}
    (h : Tells parts words) :
    readParts? words = some (total parts) := by
  induction h with
  | nil => rfl
  | leave h ih =>
    rw [ih, total, Nat.zero_mul, Nat.zero_add]
  | tell hk h ih =>
    rw [readParts?, readPart?_word, ih]
    rfl

/-! ## Texts -/

theorem spanText_zero : spanText 0 = "0s" := rfl

/-- Some part of a length of time is not zero. -/
theorem spanWords_ne_nil {n : Nat} (h : n ≠ 0) :
    spanWords (TimeParts.ofSeconds n).inUnits ≠ [] := by
  intro hnil
  have hread := readParts?_of_tells (tells_spanWords (TimeParts.ofSeconds n).inUnits)
  -- no words at all are read as no seconds
  rw [hnil, total_ofSeconds] at hread
  exact h (Option.some.inj hread).symm

theorem toList_spanText {n : Nat} (h : n ≠ 0) :
    (spanText n).toList = joinAll [' '] (spanWords (TimeParts.ofSeconds n).inUnits) := by
  have hparts : (TimeParts.ofSeconds n).toList.filter (·.1 ≠ 0) =
      ((TimeParts.ofSeconds n).inUnits.filter (·.1 ≠ 0)).map fun part => (part.1, part.2.name) := by
    rw [TimeParts.toList_eq, List.filter_map]
    rfl
  have hne := spanWords_ne_nil h
  unfold spanWords at hne ⊢
  unfold spanText
  rw [hparts, if_neg (by simpa using hne), String.toList_intercalate, joinAll_eq_intercalate,
    List.map_map, List.map_map]
  congr 1
  refine List.map_congr_left fun part _ => ?_
  show (natText part.1 ++ part.2.name).toList = word part
  rw [String.toList_append, natText, String.toList_ofList, word]

theorem tells_spanText {n : Nat} (h : n ≠ 0) :
    Tells (TimeParts.ofSeconds n).inUnits (splitAll ' ' (spanText n).toList) := by
  have htells := tells_spanWords (TimeParts.ofSeconds n).inUnits
  have hspace : ∀ cs ∈ spanWords (TimeParts.ofSeconds n).inUnits, ' ' ∉ cs :=
    List.forall_mem_map.2 fun part _ => space_not_mem_word part
  have htext := toList_spanText h
  obtain ⟨first, rest, hwords⟩ := List.exists_cons_of_ne_nil (spanWords_ne_nil h)
  rw [hwords] at htells hspace htext
  rw [htext, splitAll_joinAll List.not_mem_nil hspace]
  simpa using htells

theorem readSpan?_spanText (n : Nat) : readSpan? (spanText n) = some n := by
  by_cases h : n = 0
  · subst h
    decide
  · rw [readSpan?, readParts?_of_tells (tells_spanText h), total_ofSeconds]

/-- A number of seconds is the sum of its parts, of which the hours are less than a day, the minutes
less than an hour and the seconds less than a minute. Its text has the parts that are not zero for
words, the greatest unit first, and is `0s` where there are none. The number is read back from the
text, so no two numbers have the same one. -/
theorem span_read_back :
    (∀ n, let p := TimeParts.ofSeconds n
      (p.hours < 24 ∧ p.minutes < 60 ∧ p.seconds < 60 ∧
        p.days * 86400 + p.hours * 3600 + p.minutes * 60 + p.seconds = n) ∧
      (n ≠ 0 → Tells [(p.days, .day), (p.hours, .hour), (p.minutes, .minute), (p.seconds, .second)]
        (splitAll ' ' (spanText n).toList)) ∧
      readSpan? (spanText n) = some n) ∧
      spanText 0 = "0s" ∧ ∀ m n, spanText m = spanText n → m = n := by
  refine ⟨fun n => ⟨TimeParts.ofSeconds_spec n, tells_spanText, readSpan?_spanText n⟩,
    spanText_zero, fun m n h => ?_⟩
  have hread : some m = some n := by rw [← readSpan?_spanText, h, readSpan?_spanText]
  exact Option.some.inj hread

example : spanText 93784 = "1days 2h 3min 4s" := by cbv

example : spanText 3600 = "1h" := by cbv

end SigningConsole.Report
