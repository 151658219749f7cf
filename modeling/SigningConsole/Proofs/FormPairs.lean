import SigningConsole.Http.Target
import SigningConsole.Login.Redirect
import SigningConsole.Proofs.EncodedText
import SigningConsole.Proofs.WrittenQueries
/-!
Pairs that are added to the query of a URL are read back from it.

In form encoding a character stands for itself, a space is a plus sign, and every other character is
written as its UTF-8 bytes, each behind a percent sign. A plus sign of the text is itself escaped,
so reading plus signs as spaces first does no harm (`formDecode_formEncode`). No ampersand and no
equals sign is left in a key or value (`mem_formEncode`), so the query is cut where the pairs were
joined, whatever stood in it before.

Main statements: `formDecode_formEncode`, `queryPairs_addPairs`, and `providerLogout_tells_return`
of the logout page of an identity provider, which is told by such a pair where to go afterwards.
-/

namespace SigningConsole.Url

open Text

/-! ## Keys and values -/

/-- What reading a form makes of a character before the escapes are read. -/
def unplus (c : Char) : Char := if c = '+' then ' ' else c

/-- The characters that form encoding writes. -/
def FormWritten (c : Char) : Prop := isFormSafe c = true ∨ c = '+' ∨ c = '%'

theorem hexUpper_formSafe {d : Nat} (h : d < 16) :
    isFormSafe (hexUpper d) = true ∧ unplus (hexUpper d) = hexUpper d := by
  have hall : ∀ d : Fin 16, isFormSafe (hexUpper d) = true ∧
      unplus (hexUpper d) = hexUpper d := by decide
  exact hall ⟨d, h⟩

/-- What form encoding writes for a character. -/
def formChar (c : Char) : List Char :=
  if c = ' ' then ['+'] else encodeChar (fun c => !isFormSafe c) c

theorem formEncode_eq (s : String) : formEncode s = s.toList.flatMap formChar := rfl

/-- A character is a plus sign, stands for itself, or is escaped. -/
theorem formChar_cases (c : Char) :
    (c = ' ' ∧ formChar c = ['+']) ∨ (isFormSafe c = true ∧ formChar c = [c]) ∨
      formChar c = (String.utf8EncodeChar c).flatMap escapeByte := by
  unfold formChar
  by_cases hspace : c = ' '
  · exact .inl ⟨hspace, if_pos hspace⟩
  · rw [if_neg hspace]
    by_cases hkept : Kept (fun c => !isFormSafe c) c
    · have hsafe : isFormSafe c = true := by simpa using hkept.2
      exact .inr (.inl ⟨hsafe, encodeChar_of_kept hkept⟩)
    · exact .inr (.inr (encodeChar_of_not_kept hkept))

theorem mem_escapeByte {b : UInt8} {c : Char} (h : c ∈ escapeByte b) : FormWritten c := by
  have hlt : b.toNat < 256 := b.toNat_lt
  simp only [escapeByte, List.mem_cons, List.not_mem_nil, or_false] at h
  rcases h with rfl | rfl | rfl
  · exact .inr (.inr rfl)
  · exact .inl (hexUpper_formSafe (by omega)).1
  · exact .inl (hexUpper_formSafe (by omega)).1

theorem mem_formEncode {s : String} {c : Char} (h : c ∈ formEncode s) : FormWritten c := by
  rw [formEncode_eq] at h
  obtain ⟨d, -, hd⟩ := List.mem_flatMap.1 h
  rcases formChar_cases d with ⟨-, hchar⟩ | ⟨hsafe, hchar⟩ | hchar
  · rw [hchar] at hd
    exact .inr (.inl (List.mem_singleton.1 hd))
  · rw [hchar] at hd
    rw [List.mem_singleton.1 hd]
    exact .inl hsafe
  · rw [hchar] at hd
    obtain ⟨b, -, hb⟩ := List.mem_flatMap.1 hd
    exact mem_escapeByte hb

/-- No separator of pairs is left in a key or value. -/
theorem not_mem_formEncode (s : String) : '&' ∉ formEncode s ∧ '=' ∉ formEncode s := by
  have hnot : ∀ c, c = '&' ∨ c = '=' → ¬ FormWritten c := by
    rintro c (rfl | rfl) <;> simp [FormWritten, isFormSafe]
  exact ⟨fun h => hnot _ (.inl rfl) (mem_formEncode h), fun h => hnot _ (.inr rfl)
    (mem_formEncode h)⟩

/-! ## Reading escapes -/

theorem decode_cons {c : Char} (h : c ≠ '%') (rest : List Char) :
    decode (c :: rest) = String.utf8EncodeChar c ++ decode rest := by
  rw [decode]
  exact fun _ _ _ hc => absurd hc h

theorem decode_escapeByte (b : UInt8) (rest : List Char) :
    decode (escapeByte b ++ rest) = b :: decode rest := by
  have hlt : b.toNat < 256 := b.toNat_lt
  have hhigh := hexDigit?_hexUpper (d := b.toNat / 16) (by omega)
  have hlow := hexDigit?_hexUpper (d := b.toNat % 16) (by omega)
  have hdigits : b.toNat / 16 * 16 + b.toNat % 16 = b.toNat := by omega
  show decode ('%' :: hexUpper (b.toNat / 16) :: hexUpper (b.toNat % 16) :: rest) = _
  rw [decode, hhigh, hlow]
  dsimp only
  rw [hdigits, UInt8.ofNat_toNat]

theorem map_unplus_escapeByte (b : UInt8) : (escapeByte b).map unplus = escapeByte b := by
  have hlt : b.toNat < 256 := b.toNat_lt
  have hhigh := (hexUpper_formSafe (d := b.toNat / 16) (by omega)).2
  have hlow := (hexUpper_formSafe (d := b.toNat % 16) (by omega)).2
  show ['%', unplus (hexUpper (b.toNat / 16)), unplus (hexUpper (b.toNat % 16))] = _
  rw [hhigh, hlow]
  rfl

/-- Escaped bytes are read as they were. -/
theorem decode_escapeBytes (bs : List UInt8) (rest : List Char) :
    decode ((bs.flatMap escapeByte).map unplus ++ rest) = bs ++ decode rest := by
  induction bs with
  | nil => rfl
  | cons b bs ih =>
    rw [List.flatMap_cons, List.map_append, List.append_assoc, map_unplus_escapeByte,
      decode_escapeByte, ih]
    rfl

/-- What stands for a character is read as its bytes. -/
theorem decode_formChar (c : Char) (rest : List Char) :
    decode ((formChar c).map unplus ++ rest) = String.utf8EncodeChar c ++ decode rest := by
  rcases formChar_cases c with ⟨rfl, hchar⟩ | ⟨hsafe, hchar⟩ | hchar
  · rw [hchar]
    exact decode_cons (by decide) rest
  · have hne : ∀ d, isFormSafe d = false → c ≠ d := by
      rintro d hd rfl
      rw [hsafe] at hd
      cases hd
    have hself : unplus c = c := if_neg (hne '+' (by decide))
    rw [hchar, List.map_singleton, hself]
    exact decode_cons (hne '%' (by decide)) rest
  · rw [hchar, decode_escapeBytes]

/-- A key or value is read as it was written. -/
theorem formDecode_formEncode (s : String) : formDecode (formEncode s) = s := by
  have hbytes : ∀ cs : List Char, decode ((cs.flatMap formChar).map unplus) = Utf8.encode cs := by
    intro cs
    induction cs with
    | nil => rfl
    | cons c cs ih =>
      rw [List.flatMap_cons, List.map_append, decode_formChar, ih]
      rfl
  have hread : Utf8.decodeLossy (Utf8.encode s.toList) = s.toList := by
    unfold Utf8.decodeLossy
    rw [Utf8.scan_encode, List.map_map]
    exact List.map_id _
  show String.ofList (Utf8.decodeLossy (decode ((formEncode s).map unplus))) = s
  rw [formEncode_eq, hbytes, hread, String.ofList_toList]

/-! ## Pairs -/

/-- A pair is cut at its equals sign. -/
theorem pairOf_written (k v : String) : pairOf (formEncode k ++ '=' :: formEncode v) = (k, v) := by
  unfold pairOf
  rw [splitFirst?_append (not_mem_formEncode k).2]
  dsimp only
  rw [formDecode_formEncode, formDecode_formEncode]

/-- A query with one more pair has this pair behind the ones that it had. -/
theorem formPairs_appendPair (query : List Char) (k v : String) :
    formPairs (String.ofList (appendPair query k v)) = formPairs (String.ofList query) ++
    [(k, v)] := by
  have hpiece : '&' ∉ formEncode k ++ '=' :: formEncode v := by
    simp [(not_mem_formEncode k).1, (not_mem_formEncode v).1]
  have hwhole : formEncode k ++ '=' :: formEncode v ≠ [] := by simp
  unfold formPairs queryPieces appendPair
  rw [String.toList_ofList, String.toList_ofList, List.append_assoc]
  by_cases hquery : query = []
  · subst hquery
    show ((splitAll '&' (formEncode k ++ '=' :: formEncode v)).filter _).map pairOf = [] ++ [(k, v)]
    rw [splitAll_of_not_mem hpiece]
    simp [pairOf_written]
  · rw [if_neg (by simpa using hquery), List.append_assoc, List.singleton_append,
      splitAll_append_sep, splitAll_of_not_mem hpiece, List.filter_append, List.map_append]
    simp [pairOf_written]

/-- User name and password have no part in the query. -/
theorem queryPairs_asked (u : Url) : u.asked.queryPairs = u.queryPairs := by
  obtain h | h := u.asked_eq_or <;> rw [h] <;> rfl

/-- Pairs that are added to a URL's query are read from it behind the pairs that were there. -/
theorem queryPairs_addPairs (u : Url) (pairs : List (String × String)) :
    (u.addPairs pairs).queryPairs = u.queryPairs ++ pairs := by
  have hfold : ∀ query : List Char,
      formPairs (String.ofList (pairs.foldl (fun q e => appendPair q e.1 e.2) query)) =
        formPairs (String.ofList query) ++ pairs := by
    induction pairs with
    | nil => exact fun query => (List.append_nil _).symm
    | cons e rest ih =>
      intro query
      rw [List.foldl_cons, ih, formPairs_appendPair, List.append_assoc]
      rfl
  have hquery : (u.addPairs pairs).queryPairs =
      formPairs
        (String.ofList (pairs.foldl (fun q e => appendPair q e.1 e.2) (u.query.getD "").toList)) :=
          rfl
  rw [hquery, hfold, String.ofList_toList]
  rfl

/-! ## The provider's logout page -/

/-- A pair is put behind a query as it stands. -/
theorem appendPair_eq_append (query : List Char) (k v : String) :
    ∃ added, appendPair query k v = query ++ added := by
  unfold appendPair
  by_cases hquery : query = []
  · exact ⟨formEncode k ++ '=' :: formEncode v, by simp [hquery]⟩
  · exact ⟨'&' :: (formEncode k ++ '=' :: formEncode v), by simp [hquery]⟩

/-- The provider's logout page is told where to go by one pair behind those that it has. Its query
stays in front as it is written, and all else of the page is as it was. -/
theorem providerLogout_tells_return (provider returnTo : Url) :
    let page := provider.providerLogout returnTo
    page.queryPairs = provider.queryPairs ++ [("redirect_uri", returnTo.text)] ∧
      (∃ added, page.query = some (provider.query.getD "" ++ added)) ∧
      page = { provider with query := page.query } ∧
      ∃ front back, provider.chars = front ++ queryChars provider.query ++ back ∧
        page.chars = front ++ queryChars page.query ++ back := by
  intro page
  obtain ⟨added, hadded⟩ :=
    appendPair_eq_append (provider.query.getD "").toList "redirect_uri" returnTo.text
  have hquery : page.query = some (provider.query.getD "" ++ String.ofList added) := by
    show some (String.ofList
      (appendPair (provider.query.getD "").toList "redirect_uri" returnTo.text)) = _
    rw [hadded, String.ofList_append, String.ofList_toList]
  obtain ⟨front, back, hchars⟩ := provider.chars_around_query
  exact ⟨queryPairs_addPairs provider _, ⟨_, hquery⟩, rfl, front, back, hchars provider.query,
    hchars page.query⟩

end SigningConsole.Url
