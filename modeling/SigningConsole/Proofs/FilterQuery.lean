import SigningConsole.Http.Adapter
import SigningConsole.Http.Endpoint
import SigningConsole.Proofs.FormPairs
import SigningConsole.Proofs.Numerals
import SigningConsole.Proofs.RecordValues
import SigningConsole.Proofs.TablePages
import SigningConsole.Proofs.TableScopes
/-!
What the query of a table says of its filter, and that nothing of it is lost on the way.

A query is written twice, as pairs and as JSON. Both have the same keys in the same order, and a
value of the one is the text of the value of the other (`KeyQuery.members_text`), so what is shown
of the pairs holds of both. No key occurs twice (`KeyQuery.nodup_pairs`), and under its key each
field is found again (`KeyQuery.get?_pairs`). The pairs are read back from the URL to which they are
sent, so that different queries are different requests (`KeyQuery.request_injective`).

Main statements: `KeyTable.textFor_query`, `KeyTable.query_eq_iff`, `KeyTable.query_tells_filter`.
-/

namespace SigningConsole

open Json Text

variable {σ : Type}

/-! ## Texts of numbers -/

namespace Text

/-- A number that is not negative has no sign. -/
theorem intText_natCast (n : Nat) : intText n = natText n := by
  unfold intText natText decimalInt
  rw [if_neg (by omega), Int.natAbs_natCast]

end Text

/-! ## Pairs -/

namespace Parameters

theorem get?_add? (params : Parameters) (key : String) (value : Option String) (k : String) :
    (params.add? key value).get? k = (params.get? k).or (if k = key then value else none) := by
  cases value with
  | none => simp [add?]
  | some v =>
    show (params ++ [(key, v)]).lookup k = _
    rw [List.lookup_append, lookup_cons_eq]
    rfl

theorem keys_add? (params : Parameters) (key : String) (value : Option String) :
    ((params.add? key value).map (·.1)).Sublist (params.map (·.1) ++ [key]) := by
  cases value with
  | none => exact List.sublist_append_left _ _
  | some v =>
    rw [add?, add, List.map_append]
    exact List.Sublist.refl _

end Parameters

/-- The text under which a value stands in a query: that of a text itself, and the
decimal text of a number. -/
def Json.queryText? : Json → Option String
  | .str s => some s
  | .int n => some (intText n)
  | _ => none

theorem lookup_map_snd {α β : Type} (f : α → β) (es : List (String × α)) (k : String) :
    (es.map fun e => (e.1, f e.2)).lookup k = (es.lookup k).map f := by
  induction es with
  | nil => rfl
  | cons e es ih =>
    rw [List.map_cons, lookup_cons_eq, ih, show e = (e.1, e.2) from rfl, lookup_cons_eq]
    by_cases hk : k = e.1 <;> simp [hk]

/-! ## The query -/

namespace KeyQuery

/-- The keys of a query in the order in which they are sent. -/
def keys : List String :=
  ["visibility", "page_size", "page_number", "name", "description", "key_type"]

/-- The members of the query as JSON. -/
def members (q : KeyQuery) : List (String × Json) :=
  [("visibility", q.visibility.toJson), ("page_size", ofUInt64 q.pageSize),
    ("page_number", ofUInt64 q.pageNumber)] ++
    optionalMember "name" (q.name.map str) ++
    optionalMember "description" (q.description.map str) ++
    optionalMember "key_type" (q.keyType.map str)

theorem toJson_eq (q : KeyQuery) : q.toJson = obj q.members := rfl

/-- Each member stands among the pairs, in its place, with its text. -/
theorem members_text (q : KeyQuery) :
    q.members.map (fun m => (m.1, m.2.queryText?)) = q.pairs.map fun p => (p.1, some p.2) := by
  have hoptional : ∀ (params : Parameters) (key : String) (value : Option String),
      (params.add? key value).map (fun p => (p.1, some p.2)) =
        params.map (fun p => (p.1, some p.2)) ++
          (optionalMember key (value.map str)).map fun m => (m.1, m.2.queryText?) := by
    intro params key value
    cases value with
    | none => exact (List.append_nil _).symm
    | some v =>
      rw [Parameters.add?, Parameters.add, List.map_append]
      rfl
  unfold members pairs
  dsimp only
  rw [hoptional, hoptional, hoptional, List.map_append, List.map_append, List.map_append]
  simp [Visibility.toJson, ofUInt64, queryText?, intText_natCast]

theorem keys_members (q : KeyQuery) : q.members.map (·.1) = q.pairs.map (·.1) := by
  have h := congrArg (List.map (·.1)) q.members_text
  simpa [List.map_map, Function.comp_def] using h

theorem keys_pairs (q : KeyQuery) : (q.pairs.map (·.1)).Sublist keys := by
  have hname :=
    Parameters.keys_add?
      [("visibility", q.visibility.text), ("page_size", natText q.pageSize.toNat),
        ("page_number", natText q.pageNumber.toNat)] "name" q.name
  have hdescription :=
    (Parameters.keys_add? _ "description" q.description).trans (hname.append_right ["description"])
  exact (Parameters.keys_add? _ "key_type" q.keyType).trans (hdescription.append_right ["key_type"])

/-- No key occurs twice. -/
theorem nodup_pairs (q : KeyQuery) : (q.pairs.map (·.1)).Nodup :=
  q.keys_pairs.nodup (by decide)

/-- As maps, the JSON and the pairs agree. -/
theorem get?_toJson (q : KeyQuery) (key : String) :
    (q.toJson.get? key).bind Json.queryText? = q.pairs.get? key := by
  have hmembers : q.toJson.get? key = q.members.lookup key := by
    rw [toJson_eq]
    exact get?_obj (q.keys_members ▸ q.nodup_pairs) key
  have hlookup := congrArg (List.lookup key) q.members_text
  rw [lookup_map_snd, lookup_map_snd] at hlookup
  have htexts := congrArg (·.bind id) hlookup
  simpa [hmembers, Parameters.get?, Option.bind_map, Function.comp_def] using htexts

/-- Each field is found under its key. -/
theorem get?_pairs (q : KeyQuery) :
    q.pairs.get? "visibility" = some q.visibility.text ∧
    q.pairs.get? "page_size" = some (natText q.pageSize.toNat) ∧
      q.pairs.get? "page_number" = some (natText q.pageNumber.toNat) ∧
      q.pairs.get? "name" = q.name ∧ q.pairs.get? "description" = q.description ∧
      q.pairs.get? "key_type" = q.keyType := by
  unfold pairs
  simp only [Parameters.get?_add?]
  simp [Parameters.get?, lookup_cons_eq]

/-- Different queries have different pairs. -/
theorem pairs_injective {q q' : KeyQuery} (h : q.pairs = q'.pairs) : q = q' := by
  obtain ⟨hvisibility, hsize, hnumber, hname, hdescription, htype⟩ := q.get?_pairs
  rw [h] at hvisibility hsize hnumber hname hdescription htype
  obtain ⟨hvisibility', hsize', hnumber', hname', hdescription', htype'⟩ := q'.get?_pairs
  have htext : q'.visibility.text = q.visibility.text :=
    Option.some.inj (hvisibility'.symm.trans hvisibility)
  have hscope : q.visibility = q'.visibility := by
    have hread := congrArg Visibility.ofText? htext
    rw [Visibility.ofText?_text, Visibility.ofText?_text] at hread
    exact (Except.ok.inj hread).symm
  have hpage : q.pageSize = q'.pageSize :=
    UInt64.toNat_inj.1 (natText_injective (Option.some.inj (hsize.symm.trans hsize')))
  have hplace : q.pageNumber = q'.pageNumber :=
    UInt64.toNat_inj.1 (natText_injective (Option.some.inj (hnumber.symm.trans hnumber')))
  have htexts : q.name = q'.name ∧ q.description = q'.description ∧ q.keyType = q'.keyType :=
    ⟨hname.symm.trans hname', hdescription.symm.trans hdescription', htype.symm.trans htype'⟩
  obtain ⟨hn, hd, ht⟩ := htexts
  cases q
  cases q'
  simp_all

/-- Requests with the same URL and headers that list keys are the same just when they list the
same. -/
theorem request_eq_iff (q q' : KeyQuery) (url : Url) (headers : List (String × String)) :
    (Endpoint.listKeys q).request url headers = (Endpoint.listKeys q').request url headers ↔
    q = q' := by
  constructor
  · intro h
    have hsent : ∀ q : KeyQuery, (Endpoint.listKeys q).request url headers =
        .ok (.to .get (url.addPairs q.pairs) headers .none) := by
      intro q
      have hsome : q.pairs ≠ [] := by
        intro hnil
        have hfirst := q.get?_pairs.1
        rw [hnil] at hfirst
        cases hfirst
      unfold Endpoint.listKeys CallPlan.get CallPlan.request CallPlan.badMime?
      simp [hsome]
    rw [hsent, hsent] at h
    have hurl : (url.addPairs q.pairs).asked = (url.addPairs q'.pairs).asked :=
      congrArg Request.url (Except.ok.inj h)
    have hread : url.queryPairs ++ q.pairs = url.queryPairs ++ q'.pairs := by
      rw [← Url.queryPairs_addPairs, ← Url.queryPairs_asked, hurl, Url.queryPairs_asked,
        Url.queryPairs_addPairs]
    exact pairs_injective (List.append_cancel_left hread)
  · rintro rfl
    rfl

/-- The text that a field is asked to match. -/
def textFor (q : KeyQuery) : KeyField → Option String
  | .name => q.name
  | .description => q.description

/-- A search sets the text of its field, unless it is blank. -/
theorem textFor_searching (q : KeyQuery) (field : KeyField) (text : String) (f : KeyField) :
    (q.searching field text).textFor f =
      if f = field ∧ allBlank text = false then some (trimmed text) else q.textFor f := by
  unfold searching
  dsimp only
  rw [isEmpty_trimmed]
  cases hblank : allBlank text with
  | true => simp
  | false => cases field <;> cases f <;> simp [textFor]

/-- A search touches nothing but the texts. -/
theorem searching_paging (q : KeyQuery) (field : KeyField) (text : String) :
    let q' := q.searching field text
    q'.visibility = q.visibility ∧ q'.pageSize = q.pageSize ∧ q'.pageNumber = q.pageNumber ∧
      q'.keyType = q.keyType := by
  unfold searching
  dsimp only
  split
  · exact ⟨rfl, rfl, rfl, rfl⟩
  · cases field <;> exact ⟨rfl, rfl, rfl, rfl⟩

theorem ext_textFor {q q' : KeyQuery} (hvisibility : q.visibility = q'.visibility)
    (hsize : q.pageSize = q'.pageSize) (hnumber : q.pageNumber = q'.pageNumber)
    (htexts : ∀ f, q.textFor f = q'.textFor f) (htype : q.keyType = q'.keyType) :
    q = q' := by
  have hname : q.name = q'.name := htexts .name
  have hdescription : q.description = q'.description := htexts .description
  cases q
  cases q'
  simp_all

end KeyQuery

/-! ## The filter of a table -/

namespace KeyTable

/-- The field that is searched and the text without the blanks around it, if there is
anything to search for. -/
def searched? (t : KeyTable) : Option (KeyField × String) :=
  if allBlank t.paging.search then none else some (t.paging.select, trimmed t.paging.search)

/-- The selected field is asked to match the search text, and no other. -/
theorem textFor_query (t : KeyTable) (f : KeyField) :
    t.query.textFor f =
      if f = t.paging.select ∧ allBlank t.paging.search = false then some (trimmed t.paging.search)
      else none := by
  have hpage : (KeyQuery.page t.visibility t.paging.pageSize t.paging.page).textFor f = none := by
    cases f <;> rfl
  rw [query, KeyQuery.textFor_searching, hpage]

theorem query_paging (t : KeyTable) :
    t.query.visibility = t.visibility ∧ t.query.pageSize = t.paging.pageSize ∧
    t.query.pageNumber = t.paging.page ∧
      t.query.keyType = none :=
  KeyQuery.searching_paging (KeyQuery.page t.visibility t.paging.pageSize t.paging.page)
    t.paging.select t.paging.search

theorem textFor_of_searched? (t : KeyTable) (f : KeyField) :
    t.query.textFor f = t.searched?.bind fun s => if s.1 = f then some s.2 else none := by
  rw [textFor_query, searched?]
  cases hblank : allBlank t.paging.search with
  | true => simp
  | false =>
    by_cases hf : f = t.paging.select
    · simp [hf]
    · simp [hf, Ne.symm hf]

/-- The texts say whether there is a search, and which. -/
theorem searched?_eq_iff (t t' : KeyTable) :
    t.searched? = t'.searched? ↔ ∀ f, t.query.textFor f = t'.query.textFor f := by
  simp only [textFor_of_searched?]
  generalize t.searched? = s
  generalize t'.searched? = s'
  constructor
  · rintro rfl f
    rfl
  · intro h
    rcases s with _ | ⟨f, text⟩
    · rcases s' with _ | ⟨f', text'⟩
      · rfl
      · simpa using h f'
    · have hf := h f
      rcases s' with _ | ⟨f', text'⟩
      · simp at hf
      · by_cases hfield : f' = f
        · simpa [hfield] using hf
        · simp [hfield] at hf

/-- Two tables ask for the same just when they have the same scope, page and page size and
search for the same. -/
theorem query_eq_iff (t t' : KeyTable) :
    t.query = t'.query ↔ t.visibility = t'.visibility ∧ t.paging.pageSize = t'.paging.pageSize ∧
      t.paging.page = t'.paging.page ∧ t.searched? = t'.searched? := by
  obtain ⟨hvisibility, hsize, hpage, htype⟩ := t.query_paging
  obtain ⟨hvisibility', hsize', hpage', htype'⟩ := t'.query_paging
  rw [searched?_eq_iff, ← hvisibility, ← hvisibility', ← hsize, ← hsize', ← hpage, ← hpage']
  constructor
  · intro h
    rw [h]
    exact ⟨rfl, rfl, rfl, fun f => rfl⟩
  · rintro ⟨hv, hs, hp, htexts⟩
    exact KeyQuery.ext_textFor hv hs hp htexts (htype.trans htype'.symm)

/-- What an event makes of a table is a table of the same scope. -/
theorem after_visibility (t : KeyTable) (e : TableEvent) :
    (t.after e).visibility = t.visibility := by
  cases e with
  | acted action => exact step_visibility t action
  | asked query reply =>
    cases reply with
    | ok page => exact apply_visibility t t.ticket page
    | error e => rfl

theorem foldl_after_visibility (t : KeyTable) (events : List TableEvent) :
    (events.foldl after t).visibility = t.visibility := by
  induction events generalizing t with
  | nil => rfl
  | cons e rest ih => exact (ih (t.after e)).trans (after_visibility t e)

/-- Whatever was done with a table, its query has its scope, page and page size, and the search
text without the blanks around it for the selected field alone, unless the text is blank; and
tables whose queries have the same pairs ask for the same. No key of a query occurs twice, its
JSON has the same keys with the same texts, and different queries have different pairs and are
different requests. -/
theorem query_tells_filter (calls : KeyCalls σ) (visibility : Visibility) (source : TotalFrom)
    (operations : List TableOperation) (w : σ) :
    (After (performAll calls operations (empty visibility source)) (w, []) fun t _ =>
      (t.query.visibility = visibility ∧ t.query.pageSize = t.paging.pageSize ∧
        t.query.pageNumber = t.paging.page ∧ t.query.keyType = none) ∧
      (1 ≤ t.query.pageSize ∧ 1 ≤ t.query.pageNumber) ∧
      (∀ f, t.query.textFor f =
        if f = t.paging.select ∧ allBlank t.paging.search = false then
          some (trimmed t.paging.search)
        else none) ∧
      (t.query.name = none ∨ t.query.description = none) ∧
      ∀ t' : KeyTable, t.query.pairs = t'.query.pairs ↔
        t.visibility = t'.visibility ∧ t.paging.pageSize = t'.paging.pageSize ∧
          t.paging.page = t'.paging.page ∧ t.searched? = t'.searched?) ∧
    ∀ q : KeyQuery,
      (q.pairs.map (·.1)).Nodup ∧
      (∃ members, q.toJson = obj members ∧ members.map (·.1) = q.pairs.map (·.1)) ∧
      (∀ key, (q.toJson.get? key).bind Json.queryText? = q.pairs.get? key) ∧
      ∀ q' : KeyQuery, (q.pairs = q'.pairs ↔ q = q') ∧ ∀ url headers,
        (Endpoint.listKeys q).request url headers = (Endpoint.listKeys q').request url headers ↔
        q = q' := by
  have hpairs : ∀ q q' : KeyQuery, q.pairs = q'.pairs ↔ q = q' :=
    fun q q' => ⟨KeyQuery.pairs_injective, congrArg KeyQuery.pairs⟩
  constructor
  · refine (performAll_after calls operations (empty visibility source) (w, [])).mono
      fun t w' ht => ?_
    obtain ⟨events, -, rfl⟩ := ht
    have hscope := foldl_after_visibility (empty visibility source) events
    have hshows := (shows_empty visibility source).foldl events
    generalize events.foldl after (empty visibility source) = t at hscope hshows
    obtain ⟨hvisibility, hsize, hpage, htype⟩ := t.query_paging
    have hone : t.query.name = none ∨ t.query.description = none := by
      have hname := t.textFor_query .name
      have hdescription := t.textFor_query .description
      cases hselect : t.paging.select with
      | name => exact .inr (by simpa [hselect, KeyQuery.textFor] using hdescription)
      | description => exact .inl (by simpa [hselect, KeyQuery.textFor] using hname)
    have hpositive : 1 ≤ t.query.pageSize ∧ 1 ≤ t.query.pageNumber := by
      rw [hsize, hpage]
      exact ⟨hshows.size, hshows.first⟩
    exact ⟨⟨hvisibility.trans hscope, hsize, hpage, htype⟩, hpositive, t.textFor_query, hone,
      fun t' => (hpairs _ _).trans (t.query_eq_iff t')⟩
  · intro q
    exact ⟨q.nodup_pairs, ⟨q.members, q.toJson_eq, q.keys_members⟩, q.get?_toJson,
      fun q' => ⟨hpairs q q', q.request_eq_iff q'⟩⟩

end KeyTable

end SigningConsole
