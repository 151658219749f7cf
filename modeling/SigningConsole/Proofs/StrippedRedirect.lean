import SigningConsole.Login.Redirect
import SigningConsole.Proofs.After
import SigningConsole.Proofs.WrittenQueries
/-!
What is left of a redirect when its code and state are taken out.

Whether a query holds a code or a state is seen in its decoded pairs, but what is taken out are
pieces of its text. Both look at the same key (`pairOf_fst`), so the pieces that are left hold
neither (`isRedirect_eq_false_iff`). They are joined and read as a query again, which changes
nothing, because they are pieces of an encoded query and are cut apart where they were joined
(`queryPieces_joined`, `strippedQuery_written`).
-/

namespace SigningConsole.Url

open Text

/-! ## Keys -/

/-- The decoded key of a piece of a query: what stands before its first equals sign, or all of
it. -/
def keyOf (piece : List Char) : String := formDecode (piece.takeWhile (· ≠ '='))

/-- The keys of a redirect's parameters. -/
def redirectKeys : List String := ["code", "state"]

theorem pairOf_fst (piece : List Char) : (pairOf piece).1 = keyOf piece := by
  unfold pairOf keyOf
  cases hcut : splitFirst? '=' piece with
  | none =>
    have hequals : '=' ∉ piece := splitFirst?_eq_none.1 hcut
    have hpiece : ∀ c ∈ piece, decide (c ≠ '=') = true :=
      fun c hc => decide_eq_true fun heq => hequals (heq ▸ hc)
    rw [takeWhile_eq_iff.2 ⟨hpiece, [], (List.append_nil piece).symm, nofun⟩]
  | some cut =>
    obtain ⟨before, after⟩ := cut
    obtain ⟨hequals, rfl⟩ := not_mem_of_splitFirst? hcut
    have hbefore : ∀ c ∈ before, decide (c ≠ '=') = true :=
      fun c hc => decide_eq_true fun heq => hequals (heq ▸ hc)
    rw [takeWhile_eq_iff.2 ⟨hbefore, _, rfl, by simp⟩]

theorem isRedirectKey_iff (key : String) : isRedirectKey key = true ↔ key ∈ redirectKeys := by
  simp [isRedirectKey, redirectKeys, codeKey, stateKey]

/-- The pieces of a query that are no parameters of a redirect; empty pieces are none at all. -/
def piecesLeft (query : String) : List (List Char) :=
  (queryPieces query).filter fun piece => piece ≠ [] ∧ keyOf piece ∉ redirectKeys

theorem staysInQuery_eq (piece : List Char) :
    staysInQuery piece = decide (piece ≠ [] ∧ keyOf piece ∉ redirectKeys) := by
  rw [Bool.eq_iff_iff, decide_eq_true_iff, ← isRedirectKey_iff]
  unfold staysInQuery
  rw [pairOf_fst]
  simp

theorem isRedirect_eq_false_iff (u : Url) :
    u.isRedirect = false ↔ ∀ piece ∈ queryPieces (u.query.getD ""), piece ≠ [] →
      keyOf piece ∉ redirectKeys := by
  unfold isRedirect queryPairs formPairs
  rw [List.any_eq_false]
  constructor
  · intro h piece hpiece hne hkey
    have hmem : piece ∈ (queryPieces (u.query.getD "")).filter fun piece => !piece.isEmpty :=
      List.mem_filter.2 ⟨hpiece, by simpa using hne⟩
    refine h _ (List.mem_map_of_mem hmem) ?_
    show isRedirectKey (pairOf piece).1 = true
    rw [pairOf_fst, isRedirectKey_iff]
    exact hkey
  · intro h e he hkey
    obtain ⟨piece, hpiece, rfl⟩ := List.mem_map.1 he
    obtain ⟨hmem, hne⟩ := List.mem_filter.1 hpiece
    have hkey : isRedirectKey (pairOf piece).1 = true := hkey
    rw [pairOf_fst, isRedirectKey_iff] at hkey
    exact h piece hmem (by simpa using hne) hkey

/-- Without a code there is none to redeem. -/
theorem redirectCode?_eq_none {u : Url} (h : u.isRedirect = false) : u.redirectCode? = none := by
  have hlookup : u.queryPairs.lookup codeKey = none := by
    refine List.lookup_eq_none_iff.2 fun e he => ?_
    have hkey : ¬ isRedirectKey e.1 = true := List.any_eq_false.1 h e he
    rw [bne_iff_ne]
    intro heq
    refine hkey ?_
    rw [← heq]
    rfl
  unfold redirectCode? firstValue?
  rw [hlookup]
  rfl

/-! ## Queries -/

variable {query : String}

theorem strippedQuery_eq (query : String) :
    strippedQuery query =
      if piecesLeft query = [] then
        none else some (String.ofList (joinAll ['&'] (piecesLeft query))) := by
  have hkept : (queryPieces query).filter staysInQuery = piecesLeft query :=
    List.filter_congr fun piece _ => staysInQuery_eq piece
  unfold strippedQuery
  rw [hkept]
  simp only [List.isEmpty_iff]

/-- The pieces that are left are cut apart where they were joined. -/
theorem queryPieces_joined (h : piecesLeft query ≠ []) :
    queryPieces (String.ofList (joinAll ['&'] (piecesLeft query))) = piecesLeft query := by
  have hwhole : ∀ piece ∈ piecesLeft query, '&' ∉ piece :=
    fun piece hpiece => not_mem_of_mem_splitAll (List.mem_filter.1 hpiece).1
  obtain ⟨first, rest, hleft⟩ := List.exists_cons_of_ne_nil h
  rw [hleft] at hwhole ⊢
  unfold queryPieces
  rw [String.toList_ofList, splitAll_joinAll List.not_mem_nil hwhole]
  simp

/-- What is left of an encoded query is encoded. -/
theorem strippedQuery_written {scheme : String} (h : ∀ c ∈ query.toList, Kept (querySet scheme) c) :
    queryText scheme (withoutBreaks (joinAll ['&'] (piecesLeft query))) =
      String.ofList (joinAll ['&'] (piecesLeft query)) := by
  refine queryText_of_kept fun c hc => ?_
  obtain hc | ⟨piece, hpiece, hc⟩ := mem_of_mem_joinAll hc
  · rw [List.mem_singleton.1 hc]
    exact kept_separators scheme '&' (by simp)
  · exact h c (mem_of_mem_splitAll (List.mem_filter.1 hpiece).1 hc)

/-- Nothing but the query of a URL with a root is changed. -/
theorem withQuery_eq {u : Url} (hroot : u.isRootless = false) (query : Option String) :
    u.withQuery query = { u with query := (u.withQuery query).query } := by
  unfold withQuery
  cases query with
  | some q => rfl
  | none =>
    dsimp only
    split
    · next text hpath =>
      unfold isRootless at hroot
      rw [hpath] at hroot
      cases hroot
    · rfl

/-- What is left of an encoded query is set as it stands. -/
theorem withQuery_strippedQuery_query {u : Url} (hmade : u.Made) :
    (u.withQuery (strippedQuery (u.query.getD ""))).query = strippedQuery (u.query.getD "") := by
  have hkept : ∀ c ∈ (u.query.getD "").toList, Kept (querySet u.scheme) c := by
    cases hquery : u.query with
    | none => exact fun c hc => nomatch hc
    | some q => exact hmade.encodedQuery q hquery
  rw [withQuery_query, strippedQuery_eq]
  split
  · rfl
  · rw [Option.map_some, String.toList_ofList, strippedQuery_written hkept]

/-! ## Taking out -/

variable {u : Url}

theorem withoutRedirect_of_isRedirect (h : u.isRedirect = true) :
    u.withoutRedirect = u.withQuery (strippedQuery (u.query.getD "")) := if_pos h

theorem withoutRedirect_of_not_isRedirect (h : u.isRedirect = false) : u.withoutRedirect = u :=
  if_neg (Bool.eq_false_iff.1 h)

theorem withoutRedirect_query (hmade : u.Made) (h : u.isRedirect = true) :
    u.withoutRedirect.query =
      let left := piecesLeft (u.query.getD "")
      if left = [] then none else some (String.ofList (joinAll ['&'] left)) := by
  rw [withoutRedirect_of_isRedirect h, withQuery_strippedQuery_query hmade, strippedQuery_eq]

/-- What is left is what can be read afterwards, whether anything was taken out or not. -/
theorem queryPieces_withoutRedirect (hmade : u.Made) :
    (queryPieces (u.withoutRedirect.query.getD "")).filter (· ≠ []) = piecesLeft
      (u.query.getD "") := by
  cases hredirect : u.isRedirect with
  | true =>
    rw [withoutRedirect_query hmade hredirect]
    dsimp only
    split
    · next hnone => rw [hnone]; rfl
    · next hsome =>
      rw [Option.getD_some, queryPieces_joined hsome]
      exact List.filter_eq_self.2 fun piece hpiece =>
        decide_eq_true (of_decide_eq_true (List.mem_filter.1 hpiece).2).1
  | false =>
    rw [withoutRedirect_of_not_isRedirect hredirect]
    refine List.filter_congr fun piece hpiece => ?_
    rw [decide_eq_decide]
    exact ⟨fun hne => ⟨hne, (isRedirect_eq_false_iff u).1 hredirect piece hpiece hne⟩, And.left⟩

theorem isRedirect_withoutRedirect (hmade : u.Made) : u.withoutRedirect.isRedirect = false := by
  refine (isRedirect_eq_false_iff _).2 fun piece hpiece hne => ?_
  have hleft : piece ∈ piecesLeft (u.query.getD "") := by
    rw [← queryPieces_withoutRedirect hmade]
    exact List.mem_filter.2 ⟨hpiece, decide_eq_true hne⟩
  exact (of_decide_eq_true (List.mem_filter.1 hleft).2).2

/-- Taking code and state out of a URL with a root leaves neither, and nothing to take out.
Nothing but the query is changed, and of that the pieces that are no parameters of a redirect
are left as they stand, in order; where none is left, there is no query. A URL that has
neither is left alone. -/
theorem redirect_taken_out {u : Url} (hmade : u.Made) (hroot : u.isRootless = false) :
    let clean := u.withoutRedirect
    let left := (queryPieces (u.query.getD "")).filter fun piece =>
      piece ≠ [] ∧ keyOf piece ∉ ["code", "state"]
    (clean.isRedirect = false ∧ clean.redirectCode? = none) ∧ clean.withoutRedirect = clean ∧
    clean = { u with query := clean.query } ∧
    (queryPieces (clean.query.getD "")).filter (· ≠ []) = left ∧
    (u.isRedirect = true →
      clean.query = if left = [] then none else some (String.ofList (joinAll ['&'] left))) ∧
    (u.isRedirect = false → clean = u) := by
  have hnone : u.withoutRedirect.isRedirect = false := isRedirect_withoutRedirect hmade
  have hfields : u.withoutRedirect = { u with query := u.withoutRedirect.query } := by
    cases hredirect : u.isRedirect with
    | true =>
      rw [withoutRedirect_of_isRedirect hredirect]
      exact withQuery_eq hroot _
    | false => rw [withoutRedirect_of_not_isRedirect hredirect]
  exact ⟨⟨hnone, redirectCode?_eq_none hnone⟩, withoutRedirect_of_not_isRedirect hnone, hfields,
    queryPieces_withoutRedirect hmade, withoutRedirect_query hmade,
    withoutRedirect_of_not_isRedirect⟩

/-- A key that is written with an escape is taken out as well, and what is left keeps its
escapes. -/
theorem encoded_code_taken_out :
    let u : Url :=
      ⟨"https", "", none, some (.name "c.io"), none, .segments ["keys"],
        some "a=1&&co%64e=x&b=%20y&state", some "/all"⟩
    Url.parse "https://c.io/keys?a=1&&co%64e=x&b= y&state#/all" = .ok u ∧ u.isRootless = false ∧
      u.redirectCode? = some ⟨"x", none⟩ ∧
      u.withoutRedirect = { u with query := some "a=1&b=%20y" } ∧
      u.withoutRedirect.redirectCode? = none := by
  intro u
  have hparse : Url.parse "https://c.io/keys?a=1&&co%64e=x&b= y&state#/all" = .ok u :=
    eq_ok_of_toOption (by decide +kernel)
  have hredirect : u.isRedirect = true := by decide +kernel
  have hleft :
      (queryPieces (u.query.getD "")).filter (fun piece => piece ≠ [] ∧
        keyOf piece ∉ ["code", "state"]) = ["a=1".toList, "b=%20y".toList] := by decide +kernel
  obtain ⟨⟨-, hcode⟩, -, hfields, -, hquery, -⟩ := redirect_taken_out (.parse hparse) rfl
  refine ⟨hparse, rfl, by decide +kernel, hfields.trans ?_, hcode⟩
  rw [hquery hredirect, hleft]
  rfl

end SigningConsole.Url
