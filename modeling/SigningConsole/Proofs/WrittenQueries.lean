import SigningConsole.Proofs.WrittenPaths
/-!
Queries as reading leaves them.

The query of a URL is encoded as its scheme asks (`EncodedQuery`), whether it was read with the URL,
comes from the base that the URL was read against, or was set or extended afterwards. `Made` says
that a URL came about in these ways, and `Made.encodedQuery` that its query is encoded. Such a query
is written anew as it is (`queryText_of_kept`).
-/

namespace SigningConsole.Url

open Text

/-! ## Queries in a text -/

/-- A query with its mark. -/
def queryChars : Option String → List Char
  | some q => '?' :: q.toList
  | none => []

/-- Another query leaves the text of a URL before and behind it as it is. -/
theorem chars_around_query (u : Url) :
    ∃ front back, ∀ query, chars { u with query } = front ++ queryChars query ++ back := by
  have hback : ∀ query, tailChars { u with query } = queryChars query ++
      tailChars { u with query := none } := by
    intro query
    cases query <;> rfl
  refine ⟨u.scheme.toList ++ ':' :: (u.authorityChars ++ u.path.chars),
    tailChars { u with query := none }, fun query => ?_⟩
  have hauthority : authorityChars { u with query } = u.authorityChars := rfl
  unfold chars
  rw [hauthority, hback]
  simp

/-! ## Encoded queries -/

theorem keepsEscapes_querySet (scheme : String) : KeepsEscapes (querySet scheme) := by
  unfold querySet KeepsEscapes Kept
  split <;> decide

/-- The query of the URL is encoded as the scheme asks. -/
def EncodedQuery (u : Url) : Prop :=
  ∀ q, u.query = some q → ∀ c ∈ q.toList, Kept (querySet u.scheme) c

theorem kept_of_mem_queryText {scheme : String} {cs : List Char} {c : Char}
    (hc : c ∈ (queryText scheme cs).toList) :
    Kept (querySet scheme) c := by
  unfold queryText at hc
  rw [String.toList_ofList] at hc
  exact kept_of_mem_encode (keepsEscapes_querySet scheme) hc

/-- No tab and no line end is kept, so a query of kept characters is written as it is. -/
theorem queryText_of_kept {scheme : String} {cs : List Char}
    (h : ∀ c ∈ cs, Kept (querySet scheme) c) :
    queryText scheme (withoutBreaks cs) = String.ofList cs := by
  have hbreaks : ∀ c, c = '\t' ∨ c = '\n' ∨ c = '\r' → ¬ Kept (querySet scheme) c := by
    rintro c (rfl | rfl | rfl) <;> unfold querySet Kept <;> split <;> decide
  have hwhole : withoutBreaks cs = cs := by
    refine List.filter_eq_self.2 fun c hc => ?_
    have hno : ¬ (c = '\t' ∨ c = '\n' ∨ c = '\r') := fun hbreak => hbreaks c hbreak (h c hc)
    simpa [not_or] using hno
  unfold queryText
  rw [hwhole, encode_of_kept h]

/-! ## Reading -/

namespace Parser

variable {scheme : String} {cs : List Char} {base u : Url}

/-- A query that is read is encoded for the scheme. -/
theorem encodedQuery_withTail (u : Url) (cs : List Char) : (withTail u cs).EncodedQuery := by
  have htail : ∀ q, (tail u.scheme cs).1 = some q → ∃ text, q = queryText u.scheme text := by
    intro q hq
    unfold tail at hq
    split at hq
    · dsimp only at hq
      split at hq <;> exact ⟨_, (Option.some.inj hq).symm⟩
    · cases hq
    · cases hq
  intro q hq c hc
  obtain ⟨text, rfl⟩ := htail q hq
  exact kept_of_mem_queryText hc

theorem afterSlashes_encodedQuery : Yields EncodedQuery (afterSlashes scheme cs) :=
  afterSlashes_yields fun u cs _ _ _ => encodedQuery_withTail u cs

/-- What is read against a base keeps the base's query or reads another. -/
theorem file_encodedQuery {base : Option Url}
    (hbase : ∀ b, base = some b → b.scheme = "file" ∧ b.EncodedQuery) :
    Yields EncodedQuery (file base cs) :=
  file_yields (fun u cs _ => encodedQuery_withTail u cs) (fun _ hq => nomatch hq)
    fun b hb => ⟨(hbase b hb).1, fun _ => (hbase b hb).2⟩

theorem relative_encodedQuery (hbase : base.EncodedQuery) :
    Yields EncodedQuery (relative base cs) := by
  have honto : ∀ before rest, Yields EncodedQuery (relative.onto base before rest) :=
    fun before rest => .ok (encodedQuery_withTail _ _)
  unfold relative
  split
  · exact .ok hbase
  · exact .ok (encodedQuery_withTail _ _)
  · exact .ok hbase
  · split
    · split
      · split
        · exact afterSlashes_encodedQuery
        · exact honto _ _
      · exact honto _ _
    · exact honto _ _

theorem document_encodedQuery {base : Option Url} (hbase : ∀ b, base = some b → b.EncodedQuery) :
    Yields EncodedQuery (document base cs) := by
  have hfiltered : ∀ b, base.filter (·.scheme = "file") = some b → b.scheme = "file" ∧
      b.EncodedQuery := by
    intro b hb
    obtain ⟨hbase', hscheme⟩ := Option.filter_eq_some_iff.1 hb
    exact ⟨of_decide_eq_true hscheme, hbase b hbase'⟩
  unfold document
  dsimp only
  split
  · unfold afterScheme
    split
    · exact file_encodedQuery hfiltered
    · split
      · dsimp only
        split
        · next b =>
          split
          · exact relative_encodedQuery (hbase b rfl)
          · exact afterSlashes_encodedQuery
        · exact afterSlashes_encodedQuery
      · exact notSpecial_yields fun u cs _ => encodedQuery_withTail u cs
  · split
    · exact .error _
    · next b =>
      split
      · exact .ok (hbase b rfl)
      · split
        · exact .error _
        · split
          · next hscheme =>
            refine file_encodedQuery fun b' hb => ?_
            obtain rfl := Option.some.inj hb
            exact ⟨hscheme, hbase b rfl⟩
          · exact relative_encodedQuery (hbase b rfl)

end Parser

/-! ## Changes -/

/-- What stands for itself in a form does so in a query. -/
theorem kept_of_isFormSafe {scheme : String} {c : Char} (h : Kept (fun c => !isFormSafe c) c) :
    Kept (querySet scheme) c := by
  have hsets : ∀ n : Fin 128, isFormSafe (Char.ofNat n) = true →
      inSpecialQuerySet (Char.ofNat n) = false ∧ inQuerySet (Char.ofNat n) = false := by decide
  have hsafe : isFormSafe c = true := by simpa using h.2
  have hset := hsets ⟨c.toNat, h.1⟩
  rw [Char.ofNat_toNat] at hset
  unfold querySet
  split
  · exact ⟨h.1, (hset hsafe).1⟩
  · exact ⟨h.1, (hset hsafe).2⟩

theorem kept_separators (scheme : String) : ∀ c ∈ ['&', '=', '+'], Kept (querySet scheme) c := by
  simp only [List.forall_mem_cons, List.not_mem_nil, false_implies, implies_true, and_true]
  unfold querySet Kept
  split <;> decide

theorem kept_of_mem_formEncode {scheme s : String} {c : Char} (hc : c ∈ formEncode s) :
    Kept (querySet scheme) c := by
  obtain ⟨d, -, hd⟩ := List.mem_flatMap.1 hc
  split at hd
  · exact kept_separators scheme c (by simp [List.mem_singleton.1 hd])
  · have hencoded : c ∈ encode (fun c => !isFormSafe c) [d] := by simpa [encode] using hd
    exact kept_of_mem_encode_of_imp (keepsEscapes_querySet scheme)
      (fun _ => kept_of_isFormSafe) hencoded

theorem kept_of_mem_appendPair {scheme k v : String} {query : List Char}
    (h : ∀ c ∈ query, Kept (querySet scheme) c) :
    ∀ c ∈ appendPair query k v, Kept (querySet scheme) c := by
  intro c hc
  unfold appendPair at hc
  simp only [List.mem_append, List.mem_cons] at hc
  rcases hc with (hc | hc) | rfl | hc
  · split at hc
    · cases hc
    · rcases List.mem_append.1 hc with hc | hc
      · exact h c hc
      · exact kept_separators scheme c (by simp [List.mem_singleton.1 hc])
  · exact kept_of_mem_formEncode hc
  · exact kept_separators scheme _ (by simp)
  · exact kept_of_mem_formEncode hc

theorem EncodedQuery.addPairs {u : Url} (h : u.EncodedQuery) (pairs : List (String × String)) :
    (u.addPairs pairs).EncodedQuery := by
  have hfold : ∀ query : List Char, (∀ c ∈ query, Kept (querySet u.scheme) c) →
      ∀ c ∈ pairs.foldl (fun q e => appendPair q e.1 e.2) query, Kept (querySet u.scheme) c := by
    induction pairs with
    | nil => exact fun query hquery => hquery
    | cons e rest ih => exact fun query hquery => ih _ (kept_of_mem_appendPair hquery)
  intro q hq c hc
  obtain rfl := Option.some.inj hq
  rw [String.toList_ofList] at hc
  refine hfold (u.query.getD "").toList (fun d hd => ?_) c hc
  cases hquery : u.query with
  | none => rw [hquery] at hd; cases hd
  | some q => rw [hquery] at hd; exact h q hquery d hd

theorem encodedQuery_withQuery (u : Url) (query : Option String) :
    (u.withQuery query).EncodedQuery := by
  intro q hq c hc
  rw [withQuery_query] at hq
  obtain ⟨text, -, rfl⟩ := Option.map_eq_some_iff.1 hq
  rw [withQuery_scheme]
  exact kept_of_mem_queryText hc

/-- A URL that was read, by itself or against another one, or that was made of another one by a
change. -/
inductive Made : Url → Prop where
  | parse {s : String} {u : Url} (h : Url.parse s = .ok u) : Made u
  | join {base u : Url} {s : String} (hbase : Made base) (h : base.join s = .ok u) : Made u
  | withQuery {u : Url} (hu : Made u) (query : Option String) : Made (u.withQuery query)
  | addPairs {u : Url} (hu : Made u) (pairs : List (String × String)) : Made (u.addPairs pairs)
  | withoutUser {u : Url} (hu : Made u) : Made u.withoutUser
  | asDirectory {u : Url} (hu : Made u) : Made u.asDirectory

theorem Made.encodedQuery {u : Url} (h : u.Made) : u.EncodedQuery := by
  induction h with
  | parse h =>
    refine Parser.document_encodedQuery (fun b hb => ?_) _ h
    cases hb
  | join _ h ih =>
    refine Parser.document_encodedQuery (fun b hb => ?_) _ h
    obtain rfl := Option.some.inj hb
    exact ih
  | withQuery _ query _ => exact encodedQuery_withQuery _ query
  | addPairs _ pairs ih => exact ih.addPairs pairs
  | withoutUser _ ih => exact ih
  | asDirectory _ ih => exact ih

end SigningConsole.Url
