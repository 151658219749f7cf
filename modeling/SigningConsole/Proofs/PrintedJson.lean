import SigningConsole.Json.Parser
import SigningConsole.Json.Printer
import SigningConsole.Proofs.Numerals
/-!
Printed JSON reads back as the value that was printed.

Each reader is met by the printer of its kind: `Parser.string` reads what `stringText` writes, and
`Parser.number` reads an integer that was printed, as long as it fits 64 bits. Arrays and objects
are elements between brackets: `Parser.elements` reads what `Parser.elementLines` writes as soon as
the elements are read one by one. That a value has only such integers, no doubles, and at most
`depth` containers inside each other is `Parser.Readable depth`, and `Parser.value_prettyChars`
follows by induction on the value.
-/

namespace SigningConsole.Json

open Text

namespace Parser

/-! ## Strings -/

theorem hex4?_control {n : Nat} (h : n < 0x20) :
    hex4? '0' '0' (hexLower (n / 16)) (hexLower (n % 16)) = some n := by
  have hall : ∀ n : Fin 0x20,
      hex4? '0' '0' (hexLower (n.val / 16)) (hexLower (n.val % 16)) = some n.val := by
    decide
  exact hall ⟨n, h⟩

/-- Other characters than quotes, backslashes and control characters stand for themselves. -/
theorem string_cons {c : Char} (rest : List Char) (hq : c ≠ '"') (hb : c ≠ '\\')
    (hc : 0x20 ≤ c.toNat) :
    string (c :: rest) = (string rest).map fun (s, rest) => (c :: s, rest) := by
  have hplain : ¬ (c.toNat < 0x20 ∨ c = '\\') := by
    rintro (h | h)
    · omega
    · exact hb h
  rw [string.eq_def]
  split
  · rename_i h
    exact absurd (List.cons.inj h).1 hq
  · rename_i h
    exact absurd (List.cons.inj h).1 hb
  · rename_i h
    exact absurd (List.cons.inj h).1 hb
  · rename_i h
    obtain ⟨rfl, rfl⟩ := List.cons.inj h
    rw [if_neg hplain]
  · rename_i h
    cases h

/-- An escaped character is read as the character. -/
theorem string_escapeChar (c : Char) (rest : List Char) :
    string (escapeChar c ++ rest) = (string rest).map fun (s, rest) => (c :: s, rest) := by
  unfold escapeChar
  split
  -- the characters with an escape of one letter
  iterate 7
    · simp only [List.cons_append, List.nil_append]
      rw [string]
      · rfl
      · simp
  · rename_i hq hb _ _ _ _ _
    split
    · rename_i hcontrol
      have hu : ¬ (0xD800 ≤ c.toNat ∧ c.toNat ≤ 0xDBFF) := by omega
      have hl : ¬ (0xDC00 ≤ c.toNat ∧ c.toNat ≤ 0xDFFF) := by omega
      simp only [List.cons_append, List.nil_append]
      rw [string, hex4?_control hcontrol]
      dsimp only
      rw [if_neg hu, if_neg hl, Char.ofNat_toNat]
    · rename_i hcontrol
      exact string_cons rest hq hb (by omega)

theorem string_flatMap (cs rest : List Char) :
    string (cs.flatMap escapeChar ++ '"' :: rest) = some (cs, rest) := by
  induction cs with
  | nil => rw [List.flatMap_nil, List.nil_append, string]
  | cons c cs ih =>
    rw [List.flatMap_cons, List.append_assoc, string_escapeChar, ih]
    rfl

/-- A printed string is read after its opening quote. -/
theorem exact_string (s : String) (rest : List Char) :
    Leaves.exact.string (s.toList.flatMap escapeChar ++ '"' :: rest) = some (s, rest) := by
  show (string _).map _ = _
  rw [string_flatMap, Option.map_some]
  dsimp only
  rw [String.ofList_toList]

/-! ## Numbers -/

theorem digits1?_append {ds rest : List Char} (hd : ∀ c ∈ ds, c.isDigit = true) (hne : ds ≠ [])
    (hr : NoDigit rest) :
    digits1? (ds ++ rest) = some (ds, rest) := by
  obtain ⟨htake, hdrop⟩ := cut_append hd hr
  unfold digits1?
  rw [htake, hdrop]
  dsimp only
  rw [if_neg (by simpa using hne)]

theorem whole?_decimal (n : Nat) {rest : List Char} (hr : NoDigit rest) :
    whole? (decimal n ++ rest) = some (decimal n, rest) := by
  have hzero : ¬ ((decimal n).head? = some '0' ∧ 1 < (decimal n).length) := by
    rintro ⟨hhead, hlength⟩
    by_cases hn : n = 0
    · subst hn
      rw [decimal_of_lt (by decide)] at hlength
      exact absurd hlength (by decide)
    · exact head?_decimal (Nat.pos_of_ne_zero hn) hhead
  unfold whole?
  rw [digits1?_append (fun c hc => isDigit_of_mem_decimal hc) (decimal_ne_nil n) hr]
  show (if _ then _ else _) = _
  rw [if_neg hzero]

/-- The text does not go on as a numeral would. -/
def EndsNumeral (cs : List Char) : Prop :=
  ∀ c ∈ cs.head?, c.isDigit = false ∧ c ≠ '.' ∧ c ≠ 'e' ∧ c ≠ 'E'

theorem EndsNumeral.noDigit {cs : List Char} (h : EndsNumeral cs) : NoDigit cs :=
  fun c hc => (h c hc).1

/-- What is read in one piece leaves the digits of an integer as its whole part. -/
theorem numeral?_decimal (negative : Bool) (n : Nat) {rest : List Char} (hr : EndsNumeral rest) :
    numeral? negative (decimal n ++ rest) = some (⟨negative, decimal n, none, none⟩, rest) := by
  have hfraction : fraction? rest = some (none, rest) := by
    cases rest with
    | nil => rfl
    | cons c rest =>
      have hc := (hr c rfl).2.1
      unfold fraction?
      split
      · rename_i h
        exact absurd (List.cons.inj h).1 hc
      · rfl
  have hexponent : exponent? rest = some (none, rest) := by
    cases rest with
    | nil => rfl
    | cons c rest =>
      have hc : ¬ (c = 'e' ∨ c = 'E') := by
        rintro (h | h)
        · exact (hr c rfl).2.2.1 h
        · exact (hr c rfl).2.2.2 h
      unfold exponent?
      dsimp only
      rw [if_neg hc]
  unfold numeral?
  rw [whole?_decimal n hr.noDigit]
  show (fraction? rest).bind _ = _
  rw [hfraction]
  show (exponent? rest).bind _ = _
  rw [hexponent]
  rfl

/-- As long as the digits fit 64 bits, none of them is left over. -/
theorem gather_of_le {start : Nat} {ds : List Char} (h : extend start ds ≤ maxUInt64) :
    gather start ds = ⟨extend start ds, ds.length, 0⟩ := by
  have hrun : ∀ (g : Gathered), g.left = 0 → extend g.significand ds ≤ maxUInt64 →
      ds.foldl (fun g c =>
        let next := 10 * g.significand + (c.toNat - 48)
        if g.left = 0 ∧ next ≤ maxUInt64 then { g with significand := next, taken := g.taken + 1 }
        else { g with left := g.left + 1 }) g = ⟨extend g.significand ds,
          g.taken + ds.length, 0⟩ := by
    clear h
    induction ds with
    | nil =>
      rintro ⟨significand, taken, left⟩ rfl _
      rfl
    | cons c ds ih =>
      rintro ⟨significand, taken, left⟩ rfl h
      rw [extend_cons] at h
      have hfits : 10 * significand + (c.toNat - 48) ≤ maxUInt64 := Nat.le_trans (le_extend _ _) h
      rw [List.foldl_cons]
      dsimp only
      rw [if_pos ⟨rfl, hfits⟩, ih _ rfl h, extend_cons, List.length_cons]
      dsimp only
      rw [Nat.add_assoc, Nat.add_comm 1]
  have hstart := hrun ⟨start, 0, 0⟩ rfl h
  rw [Nat.zero_add] at hstart
  exact hstart

/-- The integers that are read as they are printed. -/
def Fits (n : Int) : Prop := -(UInt64.size / 2 : Nat) ≤ n ∧ n < UInt64.size

theorem value?_decimal {n : Int} (h : Fits n) :
    Numeral.value? ⟨decide (n < 0), decimal n.natAbs, none, none⟩ = some (int n) := by
  obtain ⟨hlow, hhigh⟩ := h
  have hmax : maxUInt64 = 18446744073709551615 := by decide
  have hsize : UInt64.size = 18446744073709551616 := rfl
  have hle : extend 0 (decimal n.natAbs) ≤ maxUInt64 := by
    rw [extend_decimal, hmax]
    omega
  have hinteger : (!decide (n < 0)) = true ∨ (0 < n.natAbs ∧ n.natAbs ≤ UInt64.size / 2) := by
    rw [hsize]
    by_cases hn : n < 0
    · right
      omega
    · left
      rw [decide_eq_false hn]
      rfl
  have hvalue : (if decide (n < 0) = true then -(n.natAbs : Int) else n.natAbs) = n := by
    by_cases hn : n < 0
    · rw [if_pos (decide_eq_true hn)]
      omega
    · rw [if_neg (by rw [decide_eq_false hn]; exact Bool.false_ne_true)]
      omega
  unfold Numeral.value?
  dsimp only
  rw [gather_of_le hle, extend_decimal, if_pos ⟨rfl, rfl, hinteger⟩, hvalue]

/-- What is written of a natural begins with a digit. -/
theorem decimal_eq_cons (n : Nat) : ∃ c cs, decimal n = c :: cs ∧ c.isDigit = true := by
  have hhead := List.head_mem (decimal_ne_nil n)
  exact ⟨_, _, (List.cons_head_tail (decimal_ne_nil n)).symm, isDigit_of_mem_decimal hhead⟩

/-- What is written of an integer begins with a digit or a minus sign. -/
theorem decimalInt_eq_cons (n : Int) :
    ∃ c cs, decimalInt n = c :: cs ∧ (c.isDigit = true ∨ c = '-') := by
  unfold decimalInt
  obtain ⟨c, cs, hn, hc⟩ := decimal_eq_cons n.natAbs
  split
  · exact ⟨_, _, rfl, .inr rfl⟩
  · exact ⟨c, cs, hn, .inl hc⟩

theorem number_decimalInt {n : Int} (h : Fits n) {rest : List Char} (hr : EndsNumeral rest) :
    number (decimalInt n ++ rest) = some (int n, rest) := by
  have hsigned :
      signed? (decimalInt n ++ rest) = some (⟨decide (n < 0), decimal n.natAbs, none, none⟩,
        rest) := by
    unfold decimalInt
    by_cases hn : n < 0
    · rw [if_pos hn, List.cons_append, signed?, numeral?_decimal true _ hr, decide_eq_true hn]
    · rw [if_neg hn, signed?, numeral?_decimal false _ hr, decide_eq_false hn]
      intro cs hcs
      obtain ⟨c, ds, hd, hc⟩ := decimal_eq_cons n.natAbs
      rw [hd, List.cons_append] at hcs
      rw [(List.cons.inj hcs).1] at hc
      exact absurd hc (by decide)
  unfold number
  rw [hsigned]
  show (Numeral.value? _).bind _ = _
  rw [value?_decimal h]
  rfl

/-! ## Values -/

/-- The values that are read as they are printed: without doubles, with integers that fit 64 bits,
and with at most `depth` containers inside each other. -/
inductive Readable : Nat → Json → Prop where
  | null {depth} : Readable depth null
  | bool {depth} (b : Bool) : Readable depth (bool b)
  | int {depth n} (h : Fits n) : Readable depth (int n)
  | str {depth} (s : String) : Readable depth (str s)
  | arr {depth items} (h : ∀ v ∈ items, Readable depth v) : Readable (depth + 1) (arr items)
  | obj {depth members} (h : ∀ m ∈ members, Readable depth m.2) : Readable (depth + 1) (obj members)

/-- The text begins with a token that closes nothing. -/
def Opens (cs : List Char) : Prop :=
  ∃ c rest, cs = c :: rest ∧ isSpace c = false ∧ c ≠ ']' ∧ c ≠ '}'

theorem Opens.append {cs : List Char} (h : Opens cs) (ds : List Char) : Opens (cs ++ ds) := by
  obtain ⟨c, rest, rfl, hc⟩ := h
  exact ⟨c, rest ++ ds, rfl, hc⟩

theorem Opens.skip_eq {cs : List Char} (h : Opens cs) : skip cs = cs := by
  obtain ⟨c, rest, rfl, hc, -⟩ := h
  unfold skip
  rw [List.dropWhile_cons, hc]
  rfl

theorem opens_stringText (s : String) : Opens (stringText s) :=
  ⟨_, _, rfl, by decide, by decide, by decide⟩

theorem plain_of_isDigit {c : Char} (h : c.isDigit = true) :
    isSpace c = false ∧ c ≠ ']' ∧ c ≠ '}' := by
  refine ⟨?_, ?_, ?_⟩
  · cases hspace : isSpace c with
    | false => rfl
    | true =>
      simp only [isSpace, Bool.or_eq_true, beq_iff_eq] at hspace
      obtain ((rfl | rfl) | rfl) | rfl := hspace <;> cases h
  · rintro rfl
    cases h
  · rintro rfl
    cases h

theorem Readable.opens {depth : Nat} {v : Json} (h : Readable depth v) (level : Nat) :
    Opens (v.prettyChars level) := by
  cases h with
  | null => exact ⟨_, _, rfl, by decide, by decide, by decide⟩
  | bool b => cases b <;> exact ⟨_, _, rfl, by decide, by decide, by decide⟩
  | @int _ n _ =>
    obtain ⟨c, cs, hcs, hc⟩ := decimalInt_eq_cons n
    refine ⟨c, cs, hcs, ?_⟩
    obtain hc | rfl := hc
    · exact plain_of_isDigit hc
    · exact ⟨by decide, by decide, by decide⟩
  | str s => exact opens_stringText s
  | @arr _ items _ => cases items <;> exact ⟨_, _, rfl, by decide, by decide, by decide⟩
  | @obj _ members _ => cases members <;> exact ⟨_, _, rfl, by decide, by decide, by decide⟩

theorem skip_newLine (level : Nat) (cs : List Char) : skip (newLine level ++ cs) = skip cs := by
  unfold skip newLine
  rw [List.cons_append, List.dropWhile_cons, if_pos (by decide)]
  generalize 2 * level = n
  induction n with
  | zero => rfl
  | succ n ih =>
    rw [List.replicate_succ, List.cons_append, List.dropWhile_cons, if_pos (by decide)]
    exact ih

theorem skip_skip (cs : List Char) : skip (skip cs) = skip cs := by
  induction cs with
  | nil => rfl
  | cons c cs ih =>
    unfold skip at ih ⊢
    rw [List.dropWhile_cons]
    split
    · exact ih
    · rename_i hc
      rw [List.dropWhile_cons, if_neg hc]

/-! ## Elements between brackets -/

section Elements

variable {α : Type} {element : List Char → Option (α × List Char)} {text : α → List Char}
  {close : Char} {level fuel : Nat} {a : α} {as : List α}

/-- Reads elements with commas between them, up to the closing character. -/
def elements (close : Char) (element : List Char → Option (α × List Char)) :
    Nat → List Char → Option (List α × List Char)
  | 0, _ => none
  | fuel + 1, cs => do
    let (a, rest) ← element (skip cs)
    match skip rest with
    | [] => none
    | c :: rest =>
      if c = close then
        return ([a], rest)
      else if c = ',' then do
        let (as, rest) ← elements close element fuel rest
        return (a :: as, rest)
      else none

/-- What follows an element: a comma and the elements after it, or the closing character on
a line of its own. -/
def afterElement (text : α → List Char) (close : Char) (level : Nat) : List α → List Char
  | [] => newLine level ++ [close]
  | a :: as => ',' :: (newLine (level + 1) ++ (text a ++ afterElement text close level as))

/-- Elements, each on a line of its own, up to the closing character. -/
def elementLines (text : α → List Char) (close : Char) (level : Nat) (a : α) (as : List α) :
    List Char :=
  newLine (level + 1) ++ (text a ++ afterElement text close level as)

theorem elements_skip (fuel : Nat) (cs : List Char) :
    elements close element fuel (skip cs) = elements close element fuel cs := by
  cases fuel with
  | zero => rfl
  | succ fuel => rw [elements, elements, skip_skip]

theorem elements_last {cs after rest : List Char} (he : element (skip cs) = some (a, after))
    (ha : skip after = close :: rest) :
    elements close element (fuel + 1) cs = some ([a], rest) := by
  rw [elements, he]
  simp [ha]

theorem elements_more {cs after others rest : List Char} (hc : ',' ≠ close)
    (he : element (skip cs) = some (a, after)) (ha : skip after = ',' :: others)
    (hes : elements close element fuel others = some (as, rest)) :
    elements close element (fuel + 1) cs = some (a :: as, rest) := by
  rw [elements, he]
  simp [ha, hc, hes]

theorem endsNumeral_afterElement (as : List α) (rest : List Char) :
    EndsNumeral (afterElement text close level as ++ rest) := by
  cases as with
  | nil => simp [EndsNumeral, afterElement, newLine]
  | cons a as => simp [EndsNumeral, afterElement]

theorem length_lt_afterElement (as : List α) :
    as.length < (afterElement text close level as).length := by
  induction as with
  | nil => simp [afterElement]
  | cons a as ih =>
    simp only [afterElement, List.length_cons, List.length_append]
    omega

theorem skip_elementLines (ha : Opens (text a)) (as : List α) (rest : List Char) :
    skip (elementLines text close level a as ++ rest) = text a ++
    (afterElement text close level as ++ rest) := by
  unfold elementLines
  rw [List.append_assoc, skip_newLine, List.append_assoc]
  exact (ha.append _).skip_eq

/-- The elements are read if each of them is, with whatever follows it. -/
theorem elements_elementLines (hspace : isSpace close = false) (hcomma : ',' ≠ close)
    (hopens : ∀ b ∈ a :: as, Opens (text b))
    (hread : ∀ b ∈ a :: as, ∀ rest, EndsNumeral rest → element (text b ++ rest) = some (b, rest))
    (hfuel : as.length < fuel) (rest : List Char) :
    elements close element fuel (elementLines text close level a as ++ rest) =
      some (a :: as, rest) := by
  have hfirst : ∀ b ∈ a :: as, ∀ bs,
      element (skip (elementLines text close level b bs ++ rest)) =
        some (b, afterElement text close level bs ++ rest) := by
    intro b hb bs
    rw [skip_elementLines (hopens b hb)]
    exact hread b hb _ (endsNumeral_afterElement bs rest)
  clear hopens hread
  induction as generalizing a fuel with
  | nil =>
    obtain ⟨fuel, rfl⟩ : ∃ n, fuel = n + 1 := ⟨fuel - 1, by omega⟩
    have hclose : skip (afterElement text close level [] ++ rest) = close :: rest := by
      rw [afterElement, List.append_assoc, skip_newLine]
      unfold skip
      rw [List.singleton_append, List.dropWhile_cons, hspace]
      rfl
    exact elements_last (hfirst a List.mem_cons_self []) hclose
  | cons b bs ih =>
    rw [List.length_cons] at hfuel
    obtain ⟨fuel, rfl⟩ : ∃ n, fuel = n + 1 := ⟨fuel - 1, by omega⟩
    have hothers : elements close element fuel (elementLines text close level b bs ++ rest) =
        some (b :: bs, rest) :=
      ih (by omega) fun c hc => hfirst c (List.mem_cons_of_mem _ hc)
    exact elements_more hcomma (hfirst a List.mem_cons_self (b :: bs)) rfl hothers

/-- The text that is left after the blanks before the first element begins with a token that closes
nothing, and is long enough to count the elements. -/
theorem elements_skip_elementLines (level : Nat) (hspace : isSpace close = false)
    (hcomma : ',' ≠ close) (hopens : ∀ b ∈ a :: as, Opens (text b))
    (hread : ∀ b ∈ a :: as, ∀ rest, EndsNumeral rest → element (text b ++ rest) = some (b, rest))
    (rest : List Char) :
    ∃ c cs, skip (elementLines text close level a as ++ rest) = c :: cs ∧ c ≠ ']' ∧ c ≠ '}' ∧
      elements close element (c :: cs).length (c :: cs) = some (a :: as, rest) := by
  have ha := hopens a List.mem_cons_self
  obtain ⟨c, cs, hcs, -, hbracket, hbrace⟩ := ha.append (afterElement text close level as ++ rest)
  have hskip : skip (elementLines text close level a as ++ rest) = c :: cs :=
    (skip_elementLines ha as rest).trans hcs
  have hfuel : as.length < (c :: cs).length := by
    have hafter : as.length < (afterElement text close level as).length := length_lt_afterElement as
    rw [← hcs]
    simp only [List.length_append]
    omega
  refine ⟨c, cs, hskip, hbracket, hbrace, ?_⟩
  have hread :
      elements close element (c :: cs).length (elementLines text close level a as ++
        rest) = some (a :: as, rest) := elements_elementLines hspace hcomma hopens hread hfuel rest
  rw [← elements_skip, hskip] at hread
  exact hread

end Elements

/-! ## Arrays -/

theorem items_eq_elements (value : List Char → Option (Json × List Char)) (fuel : Nat)
    (cs : List Char) :
    items value fuel cs = elements ']' value fuel cs := by
  induction fuel generalizing cs with
  | zero => rfl
  | succ fuel ih =>
    rw [items, elements]
    refine congrArg (Option.bind (value (skip cs))) (funext fun r => ?_)
    obtain ⟨v, rest⟩ := r
    dsimp only
    split
    · rename_i h
      rw [h]
      rfl
    · rename_i h
      rw [h]
      dsimp only
      rw [ih]
      rfl
    · rename_i hclose hcomma
      cases hrest : skip rest with
      | nil => rfl
      | cons c cs =>
        have hc : c ≠ ']' := fun hc => hclose cs (hc ▸ hrest)
        have hc' : c ≠ ',' := fun hc => hcomma cs (hc ▸ hrest)
        dsimp only
        rw [if_neg hc, if_neg hc']

theorem prettyItems_eq (level : Nat) (v : Json) (vs : List Json) :
    prettyItems level (v :: vs) = elementLines (prettyChars (level + 1)) ']' level v vs := by
  induction vs generalizing v with
  | nil => simp [prettyItems, elementLines, afterElement]
  | cons w vs ih =>
    rw [prettyItems, ih, elementLines, elementLines, afterElement, List.append_assoc]
    simp

/-- A printed array is read after its opening bracket. -/
theorem array_prettyItems {value : List Char → Option (Json × List Char)} {level : Nat} {v : Json}
    {vs : List Json} (hopens : ∀ w ∈ v :: vs, Opens (w.prettyChars (level + 1)))
    (hvalue : ∀ w ∈ v :: vs, ∀ rest, EndsNumeral rest →
      value (w.prettyChars (level + 1) ++ rest) = some (w, rest))
    (rest : List Char) :
    array value (prettyItems level (v :: vs) ++ rest) = some (arr (v :: vs), rest) := by
  obtain ⟨c, cs, hskip, hc, -, hitems⟩ :=
    elements_skip_elementLines level (show isSpace ']' = false by decide) (by decide)
      hopens hvalue rest
  rw [← items_eq_elements] at hitems
  rw [prettyItems_eq, array, hskip]
  split
  · rename_i h
    exact absurd (List.cons.inj h).1 hc
  · rw [hitems]
    rfl

/-! ## Objects -/

theorem members_eq_elements (leaves : Leaves)
    (value : String → List Char → Option (Json × List Char)) (fuel : Nat) (cs : List Char) :
    members leaves value fuel cs = elements '}' (member leaves value) fuel cs := by
  induction fuel generalizing cs with
  | zero => rfl
  | succ fuel ih =>
    rw [members, elements]
    refine congrArg (Option.bind (member leaves value (skip cs))) (funext fun r => ?_)
    obtain ⟨m, rest⟩ := r
    dsimp only
    split
    · rename_i h
      rw [h]
      rfl
    · rename_i h
      rw [h]
      dsimp only
      rw [ih]
      rfl
    · rename_i hclose hcomma
      cases hrest : skip rest with
      | nil => rfl
      | cons c cs =>
        have hc : c ≠ '}' := fun hc => hclose cs (hc ▸ hrest)
        have hc' : c ≠ ',' := fun hc => hcomma cs (hc ▸ hrest)
        dsimp only
        rw [if_neg hc, if_neg hc']

/-- A member with its key. -/
def memberText (level : Nat) (m : String × Json) : List Char :=
  stringText m.1 ++ ':' :: ' ' :: m.2.prettyChars (level + 1)

theorem opens_memberText (level : Nat) (m : String × Json) : Opens (memberText level m) :=
  (opens_stringText m.1).append _

theorem prettyMembers_eq (level : Nat) (m : String × Json) (ms : List (String × Json)) :
    prettyMembers level (m :: ms) = elementLines (memberText level) '}' level m ms := by
  induction ms generalizing m with
  | nil => simp [prettyMembers, elementLines, afterElement, memberText]
  | cons m' ms ih =>
    rw [prettyMembers, ih, elementLines, elementLines, afterElement]
    · simp [memberText]
    · exact List.cons_ne_nil m' ms

theorem member_of_eq {leaves : Leaves} {value : String → List Char → Option (Json × List Char)}
    {cs afterKey afterColon rest : List Char} {k : String} {v : Json}
    (hk : leaves.string cs = some (k, afterKey)) (hc : skip afterKey = ':' :: afterColon)
    (hv : value k (skip afterColon) = some (v, rest)) :
    member leaves value ('"' :: cs) = some ((k, v), rest) := by
  unfold member
  simp [hk, hc, hv]

/-- A printed member is read if its value is. -/
theorem member_memberText {value : String → List Char → Option (Json × List Char)} {level : Nat}
    {m : String × Json} (hopens : Opens (m.2.prettyChars (level + 1))) {rest : List Char}
    (hvalue : value m.1 (m.2.prettyChars (level + 1) ++ rest) = some (m.2, rest)) :
    member .exact value (memberText level m ++ rest) = some (m, rest) := by
  have htext : memberText level m ++ rest =
      '"' :: (m.1.toList.flatMap escapeChar ++ '"' :: ':' :: ' ' ::
        (m.2.prettyChars (level + 1) ++ rest)) := by
    simp [memberText, stringText]
  have hskip :
      skip (' ' :: (m.2.prettyChars (level + 1) ++ rest)) = m.2.prettyChars (level + 1) ++ rest :=
    (hopens.append rest).skip_eq
  rw [htext]
  refine member_of_eq (exact_string m.1 _) rfl ?_
  rw [hskip]
  exact hvalue

/-- A printed object is read after its opening brace. -/
theorem object_prettyMembers {value : String → List Char → Option (Json × List Char)} {level : Nat}
    {m : String × Json} {ms : List (String × Json)}
    (hopens : ∀ m' ∈ m :: ms, Opens (m'.2.prettyChars (level + 1)))
    (hvalue : ∀ m' ∈ m :: ms, ∀ rest, EndsNumeral rest →
      value m'.1 (m'.2.prettyChars (level + 1) ++ rest) = some (m'.2, rest))
    (rest : List Char) :
    object .exact value (prettyMembers level (m :: ms) ++ rest) = some (obj (m :: ms), rest) := by
  have hmember : ∀ m' ∈ m :: ms, ∀ rest, EndsNumeral rest →
      member .exact value (memberText level m' ++ rest) = some (m', rest) :=
    fun m' hm' rest hr => member_memberText (hopens m' hm') (hvalue m' hm' rest hr)
  obtain ⟨c, cs, hskip, -, hc, hmembers⟩ := elements_skip_elementLines level
    (show isSpace '}' = false by decide) (by decide)
      (fun m' _ => opens_memberText level m') hmember rest
  rw [← members_eq_elements] at hmembers
  rw [prettyMembers_eq, object, hskip]
  split
  · rename_i h
    exact absurd (List.cons.inj h).1 hc
  · rw [hmembers]
    rfl

/-! ## Whole values -/

/-- A number is read where no other value begins. -/
theorem value_number (leaves : Leaves) (depth : Nat) {c : Char} (hc : c.isDigit = true ∨ c = '-')
    (cs : List Char) :
    value leaves depth (c :: cs) = leaves.number (c :: cs) := by
  rw [value.eq_def]
  dsimp only
  split
  -- the first character of each other value is no digit and no minus sign
  iterate 6
    · rename_i h
      rw [(List.cons.inj h).1] at hc
      exact absurd hc (by decide)
  · rfl

/-- A value is read as it is printed. -/
theorem value_prettyChars {depth : Nat} {v : Json} (h : Readable depth v) (level : Nat)
    {rest : List Char} (hr : EndsNumeral rest) :
    value .exact depth (v.prettyChars level ++ rest) = some (v, rest) := by
  induction h generalizing level rest with
  | null =>
    show value .exact _ ('n' :: 'u' :: 'l' :: 'l' :: rest) = _
    rw [value]
  | bool b =>
    cases b with
    | false =>
      show value .exact _ ('f' :: 'a' :: 'l' :: 's' :: 'e' :: rest) = _
      rw [value]
    | true =>
      show value .exact _ ('t' :: 'r' :: 'u' :: 'e' :: rest) = _
      rw [value]
  | @int depth n h =>
    have hnumber := number_decimalInt h hr
    obtain ⟨c, cs, hcs, hc⟩ := decimalInt_eq_cons n
    show value .exact depth (decimalInt n ++ rest) = _
    rw [hcs, List.cons_append] at hnumber ⊢
    rw [value_number _ _ hc]
    exact hnumber
  | str s =>
    have htext :
        prettyChars level (str s) ++ rest = '"' ::
        (s.toList.flatMap escapeChar ++ '"' :: rest) := by
      simp [prettyChars, compactChars, stringText]
    rw [htext, value, exact_string]
    rfl
  | @arr depth items h ih =>
    cases items with
    | nil => rfl
    | cons v vs =>
      have hopens : ∀ w ∈ v :: vs, Opens (w.prettyChars (level + 1)) :=
        fun w hw => (h w hw).opens (level + 1)
      rw [prettyChars, List.cons_append, value]
      exact array_prettyItems hopens (fun w hw rest hr => ih w hw (level + 1) hr) rest
  | @obj depth members h ih =>
    cases members with
    | nil => rfl
    | cons m ms =>
      have hopens : ∀ m' ∈ m :: ms, Opens (m'.2.prettyChars (level + 1)) :=
        fun m' hm' => (h m' hm').opens (level + 1)
      rw [prettyChars, List.cons_append, value]
      exact object_prettyMembers hopens (fun m' hm' rest hr => ih m' hm' (level + 1) hr) rest

/-- An object is read as it is printed if all its keys are wanted. -/
theorem selected_prettyChars {wanted : String → Bool} {ms : List (String × Json)}
    (h : Readable maxDepth (obj ms)) (hw : ∀ m ∈ ms, wanted m.1 = true) (rest : List Char) :
    selected wanted ((obj ms).prettyChars 0 ++ rest) = some (obj ms, rest) := by
  cases h with
  | obj h =>
    cases ms with
    | nil => rfl
    | cons m ms =>
      have hopens : ∀ m' ∈ m :: ms, Opens (m'.2.prettyChars 1) := fun m' hm' => (h m' hm').opens 1
      rw [prettyChars, List.cons_append, selected]
      refine object_prettyMembers hopens (fun m' hm' rest hr => ?_) rest
      rw [if_pos (hw m' hm')]
      exact value_prettyChars (h m' hm') 1 hr

theorem document_of_eq {read : List Char → Option (Json × List Char)} {cs : List Char} {v : Json}
    (ho : Opens cs) (h : read cs = some (v, [])) : document read cs = some v := by
  unfold document
  rw [ho.skip_eq, h]
  rfl

end Parser

/-- The text of a value is read as the value. -/
theorem parse?_pretty {v : Json} (h : Parser.Readable Parser.maxDepth v) :
    parse? v.pretty = some v := by
  have hend : Parser.EndsNumeral [] := by simp [Parser.EndsNumeral]
  have hv := Parser.value_prettyChars h 0 hend
  rw [List.append_nil] at hv
  unfold parse? pretty
  rw [String.toList_ofList]
  exact Parser.document_of_eq (h.opens 0) hv

/-- The text of an object is read as the object by those who want its members. -/
theorem parseSelected?_pretty {wanted : String → Bool} {ms : List (String × Json)}
    (h : Parser.Readable Parser.maxDepth (obj ms)) (hw : ∀ m ∈ ms, wanted m.1 = true) :
    parseSelected? wanted (obj ms).pretty = some (obj ms) := by
  have hv := Parser.selected_prettyChars h hw []
  rw [List.append_nil] at hv
  unfold parseSelected? pretty
  rw [String.toList_ofList]
  exact Parser.document_of_eq (h.opens 0) hv

end SigningConsole.Json
