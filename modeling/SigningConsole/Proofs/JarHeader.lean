import SigningConsole.Proofs.Descent
/-!
What the `Cookie` header of a session says of its jar.

A name or value that is cut out of a `Set-Cookie` text is trimmed and holds no semicolon, and a name
holds no equals sign either. A value that is empty ends a cookie and is never kept. So a jar that is
filled from such texts alone is `Jar.Plain`, and this is just what it takes for the header to be cut
where the entries of the jar were joined: `Jar.pairs_header` reads them back as they stand, and
`Jar.find?_header` finds each value under its name.

Main statements: `Jar.pairs_header`, `Jar.find?_header`, `Session.absorbAll_plain`,
`Session.sent_cookies_read_back`.
-/

namespace SigningConsole

open Text

namespace Cookie

/-- A text that stands between two semicolons without blanks around it. -/
structure IsPart (cs : List Char) : Prop where
  trimmed : Trimmed cs
  whole : ';' ∉ cs
  ne_nil : cs ≠ []

/-- A name and a value that can stand side by side in a cookie string. -/
structure IsEntry (e : String × String) : Prop where
  name : IsPart e.1.toList
  value : IsPart e.2.toList
  unequal : '=' ∉ e.1.toList

theorem isPart_trim {part : List Char} (h : ';' ∉ part) (hne : trim part ≠ []) :
    IsPart (trim part) :=
  ⟨trimmed_trim part, mt mem_of_mem_trim h, hne⟩

/-- An entry is what a pair reads as, if its value is not empty. -/
theorem isEntry_of_pair? {part : List Char} {name value : String} (hp : ';' ∉ part)
    (h : pair? part = some (name, value)) (hv : value ≠ "") : IsEntry (name, value) := by
  unfold pair? at h
  cases hs : splitFirst? '=' part with
  | none =>
    rw [hs] at h
    cases h
  | some cut =>
    obtain ⟨before, after⟩ := cut
    rw [hs] at h
    dsimp only at h
    split at h
    · cases h
    · rename_i hempty
      cases h
      obtain ⟨hequals, rfl⟩ := not_mem_of_splitFirst? hs
      obtain ⟨hbefore, hafter⟩ := not_or.1 (mt List.mem_append.2 hp)
      have hname : trim before ≠ [] := by simpa using hempty
      have hvalue : trim after ≠ [] := fun hnil => hv (by rw [hnil])
      refine ⟨?_, ?_, ?_⟩
      · rw [String.toList_ofList]
        exact isPart_trim hbefore hname
      · rw [String.toList_ofList]
        exact isPart_trim (mt (List.mem_cons_of_mem _) hafter) hvalue
      · rw [String.toList_ofList]
        exact mt mem_of_mem_trim hequals

/-- The characters of an entry. -/
def entryChars (e : String × String) : List Char := e.1.toList ++ '=' :: e.2.toList

theorem not_mem_entryChars {e : String × String} (h : IsEntry e) : ';' ∉ entryChars e := by
  unfold entryChars
  simp [h.name.whole, h.value.whole]

/-- An entry is read as it is written, also behind a blank. -/
theorem pair?_entryChars {e : String × String} (h : IsEntry e) :
    pair? (entryChars e) = some e ∧ pair? (' ' :: entryChars e) = some e := by
  have hname : trim (' ' :: e.1.toList) = trim e.1.toList := trim_cons_blank (by decide) _
  have hblank : '=' ∉ ' ' :: e.1.toList := by simpa using h.unequal
  have hcut : splitFirst? '=' (' ' :: entryChars e) = some (' ' :: e.1.toList, e.2.toList) :=
    splitFirst?_append hblank _
  have hempty : ¬ (e.1.toList.isEmpty = true) := by simpa using h.name.ne_nil
  unfold pair?
  rw [hcut, entryChars, splitFirst?_append h.unequal]
  dsimp only
  rw [hname, h.name.trimmed.trim_eq, h.value.trimmed.trim_eq, if_neg hempty]
  simp only [String.ofList_toList, and_self]

/-- What a `Set-Cookie` text sets is an entry, unless it has no value. -/
theorem isEntry_of_parse? {raw name value : String} {maxAge : Option Nat}
    (h : parse? raw = some (name, value, maxAge)) (hv : value ≠ "") : IsEntry (name, value) := by
  unfold parse? at h
  cases hs : splitAll ';' raw.toList with
  | nil => exact absurd hs (splitAll_ne_nil _ _)
  | cons part attributes =>
    rw [hs] at h
    obtain ⟨cookie, hp, hcookie⟩ := Option.bind_eq_some_iff.1 h
    cases hcookie
    have hpart : ';' ∉ part := not_mem_of_mem_splitAll (by rw [hs]; exact List.mem_cons_self)
    exact isEntry_of_pair? hpart hp hv

end Cookie

namespace Jar

/-- Each entry of the jar can be written into a cookie string. -/
def Plain (jar : Jar) : Prop := ∀ e ∈ jar.entries, Cookie.IsEntry e

theorem plain_empty : Plain ∅ := fun _ he => absurd he List.not_mem_nil

theorem Plain.insert {jar : Jar} (h : jar.Plain) {name value : String}
    (he : Cookie.IsEntry (name, value)) :
    Plain (jar.insert name value) := by
  intro e hmem
  obtain rfl | hmem := StringMap.mem_insertEntry hmem
  · exact he
  · exact h e hmem

theorem Plain.erase {jar : Jar} (h : jar.Plain) (name : String) : Plain (jar.erase name) :=
  fun e hmem => h e (List.mem_filter.1 hmem).1

/-! ## Reading a header back -/

/-- Behind a blank each, as the header joins them, the entries are still read as they stand. -/
theorem filterMap_pair?_blank {es : List (String × String)} (h : ∀ e ∈ es, Cookie.IsEntry e) :
    ((es.map Cookie.entryChars).map (' ' :: ·)).filterMap Cookie.pair? = es := by
  induction es with
  | nil => rfl
  | cons e es ih =>
    rw [List.map_cons, List.map_cons, List.filterMap_cons_some
      (Cookie.pair?_entryChars (h e List.mem_cons_self)).2, ih
        fun e' he' => h e' (List.mem_cons_of_mem _ he')]

/-- The entries of the jar stand in the header in order, each once. -/
theorem pairs_header {jar : Jar} (h : jar.Plain) : Cookie.pairs jar.header = jar.entries := by
  unfold Cookie.pairs header
  rw [String.toList_ofList]
  show (splitAll ';' (joinAll [';', ' '] (jar.entries.map Cookie.entryChars))).filterMap
    Cookie.pair? = jar.entries
  cases hentries : jar.entries with
  | nil => rfl
  | cons e es =>
    have hall : ∀ e' ∈ e :: es, Cookie.IsEntry e' := by
      rw [← hentries]
      exact h
    have hsemicolon : ∀ p ∈ (e :: es).map Cookie.entryChars, ';' ∉ p := by
      intro p hp
      obtain ⟨e', he', rfl⟩ := List.mem_map.1 hp
      exact Cookie.not_mem_entryChars (hall e' he')
    have hrest := filterMap_pair?_blank fun e' he' => hall e' (List.mem_cons_of_mem _ he')
    rw [List.map_cons] at hsemicolon ⊢
    rw [splitAll_joinAll (by decide) hsemicolon,
      List.filterMap_cons_some (Cookie.pair?_entryChars (hall e List.mem_cons_self)).1]
    exact congrArg (e :: ·) hrest

/-- Under each name stands its value in the jar, if it has one. -/
theorem find?_header {jar : Jar} (h : jar.Plain) (name : String) :
    Cookie.find? jar.header name = jar.get? name := by
  have hfind : ∀ {es : List (String × String)}, (∀ e ∈ es, Cookie.IsEntry e) →
      (es.find? fun e => e.1 == name && !e.2.isEmpty).map (·.2) = StringMap.lookup name es := by
    intro es hes
    induction es with
    | nil => rfl
    | cons e es ih =>
      obtain ⟨n, v⟩ := e
      have hv : v.isEmpty = false := by
        have hne := (hes (n, v) List.mem_cons_self).value.ne_nil
        rw [← Bool.not_eq_true, String.isEmpty_iff]
        rintro rfl
        exact hne rfl
      have hrest := ih fun e he => hes e (List.mem_cons_of_mem _ he)
      by_cases hn : name = n
      · simp [StringMap.lookup, hn, hv]
      · simp [StringMap.lookup, hn, Ne.symm hn, hrest]
  unfold Cookie.find?
  rw [pairs_header h]
  exact hfind h

end Jar

/-! ## Jars that are filled by a server -/

theorem Credential.set_plain {c : Credential} (h : c.jar.Plain) {name value : String}
    (maxAge : Option Nat) (he : value ≠ "" → Cookie.IsEntry (name, value)) :
    (c.set name value maxAge).1.jar.Plain := by
  unfold set
  dsimp only
  split
  · split
    · exact h
    · exact h
  · split
    · exact h.erase name
    · rename_i hexpired
      have hv : value ≠ "" := by
        rintro rfl
        exact hexpired rfl
      exact h.insert (he hv)

theorem Credential.absorb_plain {c : Credential} (h : c.jar.Plain) (raw : String) :
    (c.absorb raw).1.jar.Plain := by
  unfold absorb
  cases hp : Cookie.parse? raw with
  | none => exact h
  | some cookie => exact set_plain h _ (Cookie.isEntry_of_parse? hp)

namespace Session

theorem absorb_plain {s : Session} (h : s.cookies.Plain) (raw : String) :
    (s.absorb raw).1.cookies.Plain := by
  unfold absorb
  cases s.kind with
  | apiKey => exact h
  | csrf => exact Credential.absorb_plain (c := ⟨s.token, s.cookies⟩) h raw

theorem absorbAll_plain {s : Session} (h : s.cookies.Plain) (raws : List String) :
    (s.absorbAll raws).1.cookies.Plain := by
  induction raws generalizing s with
  | nil => exact h
  | cons raw raws ih => exact ih (s.absorb_plain h raw)

/-- Whatever a server sets, the one `Cookie` header of a browser session says just what is in its
jar. -/
theorem sent_cookies_read_back {s : Session} (hkind : s.kind = .csrf) (hempty : s.cookies = ∅)
    (raws : List String) :
    let s' := (s.absorbAll raws).1
    (s'.headers.filter (·.1 == "Cookie") =
      if s'.cookies.isEmpty then [] else [("Cookie", s'.cookies.header)]) ∧
    Cookie.pairs s'.cookies.header = s'.cookies.entries ∧
    ∀ name, Cookie.find? s'.cookies.header name = s'.cookies.get? name := by
  intro s'
  have hplain : s'.cookies.Plain := absorbAll_plain (hempty ▸ Jar.plain_empty) raws
  have hkind' : s'.kind = .csrf := (s.absorbAll_sameHolder raws).kind.trans hkind
  refine ⟨?_, Jar.pairs_header hplain, Jar.find?_header hplain⟩
  have htoken : (if s'.token.isEmpty then [] else [(s'.kind.header, s'.token)]).filter
      (·.1 == "Cookie") = [] := by
    split
    · rfl
    · rw [hkind']
      rfl
  unfold headers
  rw [List.filter_append, htoken, List.append_nil]
  cases hjar : s'.cookies.isEmpty with
  | true => simp
  | false => simp [hkind']

/-- A value keeps its equals signs, its quotes and the blanks in it; one that is set again or
ends leaves no trace. -/
theorem quoted_cookies_read_back :
    let s : Session := { token := "", kind := .csrf }
    let s' :=
      (s.absorbAll ["sid=a; Path=/", " q = \"x y\" ; HttpOnly", "ü=ß\u2003", "old=1", "sid=b=c=",
        "; x=y", "old=; Max-Age=5", "Xsrf-Token=t"]).1
    s'.cookies.header = "q=\"x y\"; sid=b=c=; ü=ß" ∧ s'.token = "t" ∧
    s'.headers.filter (·.1 == "Cookie") = [("Cookie", s'.cookies.header)] ∧
    Cookie.pairs s'.cookies.header = [("q", "\"x y\""), ("sid", "b=c="), ("ü", "ß")] ∧
    Cookie.find? s'.cookies.header "sid" = some "b=c=" ∧
    Cookie.find? s'.cookies.header "old" = none := by
  intro s s'
  have hjar :
      s'.cookies.entries = [("q", "\"x y\""), ("sid", "b=c="), ("ü", "ß")] := by decide +kernel
  obtain ⟨hsent, hpairs, hfind⟩ :=
    sent_cookies_read_back (s := s) rfl rfl ["sid=a; Path=/", " q = \"x y\" ; HttpOnly",
      "ü=ß\u2003", "old=1", "sid=b=c=", "; x=y", "old=; Max-Age=5", "Xsrf-Token=t"]
  have hfull : s'.cookies.isEmpty = false := by decide +kernel
  refine ⟨by decide +kernel, by decide +kernel, ?_, hpairs.trans hjar, ?_, ?_⟩
  · exact hsent.trans (by rw [show _ = false from hfull]; rfl)
  · exact (hfind "sid").trans (by decide +kernel)
  · exact (hfind "old").trans (by decide +kernel)

end Session

end SigningConsole
