import SigningConsole.Proofs.PrintedJson
/-!
A value on one line reads back as the value that was printed.

On one line there is nothing but a comma between two elements, so each element stands right where
the one before it ends. Sorting the members of a value, as it is done with every body that is sent,
leaves it readable (`Readable.normalize`).

Main statements: `parse?_compact`, `Parser.Readable.normalize`.
-/

namespace SigningConsole

namespace StringMap

variable {α : Type}

theorem mem_ofList {es : List (String × α)} {e : String × α} (h : e ∈ (ofList es).entries) :
    e ∈ es := by
  have hfold : ∀ m : StringMap α, e ∈ (es.foldl (fun m e => m.insert e.1 e.2) m).entries →
      e ∈ m.entries ∨ e ∈ es := by
    clear h
    induction es with
    | nil => exact fun m h => .inl h
    | cons e' es ih =>
      intro m h
      obtain h | h := ih (m.insert e'.1 e'.2) h
      · obtain rfl | h := mem_insertEntry h
        · exact .inr List.mem_cons_self
        · exact .inl h
      · exact .inr (List.mem_cons_of_mem _ h)
  exact (hfold empty h).resolve_left List.not_mem_nil

end StringMap

namespace Json

open Text

theorem normalizeItems_eq (vs : List Json) : normalizeItems vs = vs.map normalize := by
  induction vs with
  | nil => rfl
  | cons v vs ih => rw [normalizeItems, ih, List.map_cons]

theorem normalizeMembers_eq (ms : List (String × Json)) :
    normalizeMembers ms = ms.map fun m => (m.1, m.2.normalize) := by
  induction ms with
  | nil => rfl
  | cons m ms ih => rw [normalizeMembers, ih, List.map_cons]

namespace Parser

/-- Sorting members makes no container deeper and no number larger. -/
theorem Readable.normalize {depth : Nat} {v : Json} (h : Readable depth v) :
    Readable depth v.normalize := by
  induction h with
  | null => exact .null
  | bool b => exact .bool b
  | int h => exact .int h
  | str s => exact .str s
  | @arr depth items h ih =>
    unfold Json.normalize
    rw [normalizeItems_eq]
    refine .arr fun w hw => ?_
    obtain ⟨v, hv, rfl⟩ := List.mem_map.1 hw
    exact ih v hv
  | @obj depth members h ih =>
    unfold Json.normalize
    rw [normalizeMembers_eq]
    refine .obj fun w hw => ?_
    obtain ⟨m, hm, rfl⟩ := List.mem_map.1 (StringMap.mem_ofList hw)
    exact ih m hm

/-! ## Elements on one line -/

section Elements

variable {α : Type} {element : List Char → Option (α × List Char)} {text : α → List Char}
  {close : Char} {fuel : Nat} {a : α} {as : List α}

/-- Elements with a comma between them, up to the closing character. -/
def elementLine (text : α → List Char) (close : Char) (a : α) : List α → List Char
  | [] => text a ++ [close]
  | b :: bs => text a ++ ',' :: elementLine text close b bs

theorem length_lt_elementLine (a : α) (as : List α) :
    as.length < (elementLine text close a as).length := by
  induction as generalizing a with
  | nil => simp [elementLine]
  | cons b bs ih =>
    have hrest := ih b
    simp only [elementLine, List.length_append, List.length_cons]
    omega

theorem Opens.elementLine (ha : Opens (text a)) (as : List α) :
    Opens (elementLine text close a as) := by
  cases as with
  | nil => exact ha.append _
  | cons b bs => exact ha.append _

/-- The elements are read if each of them is, with whatever follows it. -/
theorem elements_elementLine (hspace : isSpace close = false) (hcomma : ',' ≠ close)
    (hends : ∀ rest, EndsNumeral (close :: rest)) (hopens : ∀ b ∈ a :: as, Opens (text b))
    (hread : ∀ b ∈ a :: as, ∀ rest, EndsNumeral rest → element (text b ++ rest) = some (b, rest))
    (hfuel : as.length < fuel) (rest : List Char) :
    elements close element fuel (elementLine text close a as ++ rest) = some (a :: as, rest) := by
  have hfirst : ∀ b ∈ a :: as, ∀ rest, EndsNumeral rest →
      element (skip (text b ++ rest)) = some (b, rest) := by
    intro b hb rest hrest
    rw [((hopens b hb).append rest).skip_eq]
    exact hread b hb rest hrest
  clear hopens hread
  induction as generalizing a fuel with
  | nil =>
    obtain ⟨fuel, rfl⟩ : ∃ n, fuel = n + 1 := ⟨fuel - 1, by omega⟩
    have hclose : skip (close :: rest) = close :: rest := by
      unfold skip
      rw [List.dropWhile_cons, hspace]
      rfl
    rw [elementLine, List.append_assoc]
    exact elements_last (hfirst a List.mem_cons_self _ (hends rest)) hclose
  | cons b bs ih =>
    rw [List.length_cons] at hfuel
    obtain ⟨fuel, rfl⟩ : ∃ n, fuel = n + 1 := ⟨fuel - 1, by omega⟩
    have hothers :
        elements close element fuel (elementLine text close b bs ++ rest) = some (b :: bs, rest) :=
      ih (by omega) fun c hc => hfirst c (List.mem_cons_of_mem _ hc)
    have hends : EndsNumeral (',' :: (elementLine text close b bs ++ rest)) := by simp [EndsNumeral]
    rw [elementLine, List.append_assoc]
    exact elements_more hcomma (hfirst a List.mem_cons_self _ hends) rfl hothers

/-- What stands after the opening character begins with a token that closes nothing, and is long
enough to count the elements. -/
theorem elements_line (hspace : isSpace close = false) (hcomma : ',' ≠ close)
    (hends : ∀ rest, EndsNumeral (close :: rest)) (hopens : ∀ b ∈ a :: as, Opens (text b))
    (hread : ∀ b ∈ a :: as, ∀ rest, EndsNumeral rest → element (text b ++ rest) = some (b, rest))
    (rest : List Char) :
    ∃ c cs, skip (elementLine text close a as ++ rest) = c :: cs ∧ c ≠ ']' ∧ c ≠ '}' ∧
      elements close element (c :: cs).length (c :: cs) = some (a :: as, rest) := by
  have hopen : Opens (elementLine text close a as ++ rest) :=
    ((hopens a List.mem_cons_self).elementLine as).append rest
  have hfuel : as.length < (elementLine text close a as ++ rest).length := by
    have hlength : as.length < (elementLine text close a as).length := length_lt_elementLine a as
    rw [List.length_append]
    omega
  have helements := elements_elementLine hspace hcomma hends hopens hread hfuel rest
  have hskip := hopen.skip_eq
  obtain ⟨c, cs, hcs, -, hbracket, hbrace⟩ := hopen
  rw [hcs] at hskip helements ⊢
  exact ⟨c, cs, hskip, hbracket, hbrace, helements⟩

end Elements

/-! ## Whole values -/

theorem compactItems_eq (v : Json) (vs : List Json) :
    compactItems (v :: vs) = elementLine compactChars ']' v vs := by
  induction vs generalizing v with
  | nil => simp [compactItems, elementLine]
  | cons w vs ih =>
    rw [compactItems, ih, elementLine]
    simp

/-- A member with its key, on one line. -/
def memberLine (m : String × Json) : List Char := stringText m.1 ++ ':' :: m.2.compactChars

theorem compactMembers_eq (m : String × Json) (ms : List (String × Json)) :
    compactMembers (m :: ms) = elementLine memberLine '}' m ms := by
  induction ms generalizing m with
  | nil => simp [compactMembers, elementLine, memberLine]
  | cons m' ms ih =>
    rw [compactMembers, ih, elementLine]
    · simp [memberLine]
    · exact List.cons_ne_nil m' ms

theorem Readable.opens_compact {depth : Nat} {v : Json} (h : Readable depth v) :
    Opens v.compactChars := by
  cases h with
  | null => exact (Readable.null : Readable 0 Json.null).opens 0
  | bool b => exact (Readable.bool b : Readable 0 _).opens 0
  | int h => exact (Readable.int h : Readable 0 _).opens 0
  | str s => exact opens_stringText s
  | arr h => exact ⟨_, _, rfl, by decide, by decide, by decide⟩
  | obj h => exact ⟨_, _, rfl, by decide, by decide, by decide⟩

/-- A member on one line is read if its value is. -/
theorem member_memberLine {value : String → List Char → Option (Json × List Char)}
    {m : String × Json} (hopens : Opens m.2.compactChars) {rest : List Char}
    (hvalue : value m.1 (m.2.compactChars ++ rest) = some (m.2, rest)) :
    member .exact value (memberLine m ++ rest) = some (m, rest) := by
  have htext : memberLine m ++ rest =
      '"' :: (m.1.toList.flatMap escapeChar ++ '"' :: ':' :: (m.2.compactChars ++ rest)) := by
    simp [memberLine, stringText]
  rw [htext]
  refine member_of_eq (exact_string m.1 _) rfl ?_
  rw [(hopens.append rest).skip_eq]
  exact hvalue

theorem array_compactItems {value : List Char → Option (Json × List Char)} {v : Json}
    {vs : List Json} (hopens : ∀ w ∈ v :: vs, Opens w.compactChars)
    (hvalue : ∀ w ∈ v :: vs, ∀ rest, EndsNumeral rest →
      value (w.compactChars ++ rest) = some (w, rest))
    (rest : List Char) :
    array value (compactItems (v :: vs) ++ rest) = some (arr (v :: vs), rest) := by
  have hends : ∀ rest, EndsNumeral (']' :: rest) := fun rest => by simp [EndsNumeral]
  obtain ⟨c, cs, hskip, hc, -, hitems⟩ :=
    elements_line (show isSpace ']' = false by decide) (by decide) hends hopens hvalue rest
  rw [← items_eq_elements] at hitems
  rw [compactItems_eq, array, hskip]
  split
  · rename_i h
    exact absurd (List.cons.inj h).1 hc
  · rw [hitems]
    rfl

theorem object_compactMembers {value : String → List Char → Option (Json × List Char)}
    {m : String × Json} {ms : List (String × Json)}
    (hopens : ∀ m' ∈ m :: ms, Opens m'.2.compactChars)
    (hvalue : ∀ m' ∈ m :: ms, ∀ rest, EndsNumeral rest →
      value m'.1 (m'.2.compactChars ++ rest) = some (m'.2, rest))
    (rest : List Char) :
    object .exact value (compactMembers (m :: ms) ++ rest) = some (obj (m :: ms), rest) := by
  have hends : ∀ rest, EndsNumeral ('}' :: rest) := fun rest => by simp [EndsNumeral]
  have hline : ∀ m' ∈ m :: ms, Opens (memberLine m') := fun m' _ => (opens_stringText m'.1).append _
  have hmember : ∀ m' ∈ m :: ms, ∀ rest, EndsNumeral rest →
      member .exact value (memberLine m' ++ rest) = some (m', rest) :=
    fun m' hm' rest hr => member_memberLine (hopens m' hm') (hvalue m' hm' rest hr)
  obtain ⟨c, cs, hskip, -, hc, hmembers⟩ :=
    elements_line (show isSpace '}' = false by decide) (by decide) hends hline hmember rest
  rw [← members_eq_elements] at hmembers
  rw [compactMembers_eq, object, hskip]
  split
  · rename_i h
    exact absurd (List.cons.inj h).1 hc
  · rw [hmembers]
    rfl

/-- A value is read as it is printed on one line. -/
theorem value_compactChars {depth : Nat} {v : Json} (h : Readable depth v) {rest : List Char}
    (hr : EndsNumeral rest) : value .exact depth (v.compactChars ++ rest) = some (v, rest) := by
  induction h generalizing rest with
  -- what is no container is printed the same in both ways
  | null => exact value_prettyChars .null 0 hr
  | bool b => exact value_prettyChars (.bool b) 0 hr
  | int h => exact value_prettyChars (.int h) 0 hr
  | str s => exact value_prettyChars (.str s) 0 hr
  | @arr depth items h ih =>
    cases items with
    | nil => rfl
    | cons v vs =>
      have hopens : ∀ w ∈ v :: vs, Opens w.compactChars := fun w hw => (h w hw).opens_compact
      rw [compactChars, List.cons_append, value]
      exact array_compactItems hopens (fun w hw rest hr => ih w hw hr) rest
  | @obj depth members h ih =>
    cases members with
    | nil => rfl
    | cons m ms =>
      have hopens : ∀ m' ∈ m :: ms, Opens m'.2.compactChars :=
        fun m' hm' => (h m' hm').opens_compact
      rw [compactChars, List.cons_append, value]
      exact object_compactMembers hopens (fun m' hm' rest hr => ih m' hm' hr) rest

end Parser

/-- The text of a value on one line is read as the value. -/
theorem parse?_compact {v : Json} (h : Parser.Readable Parser.maxDepth v) :
    parse? v.compact = some v := by
  have hend : Parser.EndsNumeral [] := by simp [Parser.EndsNumeral]
  have hv := Parser.value_compactChars h hend
  rw [List.append_nil] at hv
  unfold parse? compact
  rw [String.toList_ofList]
  exact Parser.document_of_eq h.opens_compact hv

end Json

end SigningConsole
