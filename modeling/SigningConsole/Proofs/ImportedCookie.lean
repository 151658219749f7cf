import SigningConsole.Proofs.JarHeader
import SigningConsole.Proofs.LoginOutcome
import SigningConsole.Proofs.Numerals
/-!
The session that is imported from a browser's cookies.

Three names are looked for in a `Cookie` header, and under each of them only the first value that is
not empty (`Cookie.FirstCookie`); what else stands in the header makes no difference. A `Set-Cookie`
text is read as a header in which the attributes are further cookies (`Cookie.pairs_text`). None of
them has one of the three names, so the cookie that is printed for a browser is imported as the
token that it was made of (`Session.cookies_imported`).
-/

namespace SigningConsole

open Calendar Text

namespace Cookie

/-! ## Looking for a cookie -/

/-- The first value that is not empty which the header has under the name. -/
def FirstCookie (name value header : String) : Prop :=
  value ≠ "" ∧ ∃ before after, pairs header = before ++ (name, value) :: after ∧
    ∀ e ∈ before, e.1 = name → e.2 = ""

/-- The header has no value under the name, or only empty ones. -/
def NoCookie (name header : String) : Prop := ∀ value, (name, value) ∈ pairs header → value = ""

variable {name value header : String}

theorem find?_eq_some_iff : find? header name = some value ↔ FirstCookie name value header := by
  unfold find? FirstCookie
  constructor
  · intro h
    obtain ⟨⟨n, v⟩, hfound, rfl⟩ := Option.map_eq_some_iff.1 h
    obtain ⟨hmatch, before, after, hpairs, hbefore⟩ := List.find?_eq_some_iff_append.1 hfound
    simp only [Bool.and_eq_true, beq_iff_eq, Bool.not_eq_true',
      String.isEmpty_eq_false_iff] at hmatch
    obtain ⟨rfl, hne⟩ := hmatch
    refine ⟨hne, before, after, hpairs, fun e he hname => ?_⟩
    simpa [hname] using hbefore e he
  · rintro ⟨hne, before, after, hpairs, hbefore⟩
    refine Option.map_eq_some_iff.2
      ⟨(name, value), List.find?_eq_some_iff_append.2 ⟨?_, before, after, hpairs, ?_⟩, rfl⟩
    · simp [hne]
    · intro e he
      by_cases hname : e.1 = name
      · simp [hbefore e he hname]
      · simp [hname]

theorem find?_eq_none_iff : find? header name = none ↔ NoCookie name header := by
  unfold find? NoCookie
  rw [Option.map_eq_none_iff, List.find?_eq_none]
  constructor
  · intro h value hmem
    simpa using h _ hmem
  · rintro h ⟨n, value⟩ hmem hmatch
    simp only [Bool.and_eq_true, beq_iff_eq] at hmatch
    obtain ⟨rfl, hne⟩ := hmatch
    simp [h value hmem] at hne

/-- The names that are looked for. -/
def importedNames : List String := [tokenName, sessionName, backendName]

/-- Whether a pair of a header is looked at: it has one of the names, and a value. -/
def isImported (e : String × String) : Bool := importedNames.contains e.1 && !e.2.isEmpty

/-- Other cookies are passed over. -/
theorem find?_congr {header' : String}
    (h : (pairs header').filter isImported = (pairs header).filter isImported)
    (hname : name ∈ importedNames) : find? header' name = find? header name := by
  have hfiltered : ∀ header, find? header name =
      (((pairs header).filter isImported).find? fun e => e.1 == name && !e.2.isEmpty).map
        (·.2) := by
    intro header
    have hlooked : ∀ e : String × String,
        (e.1 == name && !e.2.isEmpty) = decide
          (isImported e = true ∧ (e.1 == name && !e.2.isEmpty) = true) := by
      intro e
      rw [Bool.eq_iff_iff, decide_eq_true_iff, iff_and_self, Bool.and_eq_true, beq_iff_eq]
      rintro ⟨rfl, hvalue⟩
      exact Bool.and_eq_true_iff.2 ⟨List.contains_iff_mem.2 hname, hvalue⟩
    unfold find?
    rw [List.find?_filter]
    exact congrArg (Option.map (·.2)) (congrFun (congrArg List.find? (funext hlooked)) _)
  rw [hfiltered, hfiltered, h]

/-- The header without the cookies that are not looked at. -/
def importedOnly (header : String) : String :=
  String.ofList
    (joinAll [';'] ((splitAll ';' header.toList).filter fun part => (pair? part).any isImported))

theorem pairs_importedOnly (header : String) :
    pairs (importedOnly header) = (pairs header).filter isImported := by
  have hparts : ∀ parts : List (List Char), (∀ part ∈ parts, ';' ∉ part) →
      (splitAll ';' (joinAll [';'] parts)).filterMap pair? = parts.filterMap pair? := by
    intro parts hwhole
    cases parts with
    | nil => rfl
    | cons part parts =>
      rw [splitAll_joinAll List.not_mem_nil hwhole]
      simp
  unfold pairs importedOnly
  rw [String.toList_ofList, hparts _ fun part hpart => not_mem_of_mem_splitAll
    (List.mem_filter.1 hpart).1, List.filterMap_filter, List.filter_filterMap]
  refine congrFun (congrArg List.filterMap (funext fun part => ?_)) _
  cases pair? part with
  | none => rfl
  | some e => by_cases h : isImported e <;> simp [Option.filter, h]

/-! ## Reading a cookie that is set -/

/-- The attributes that are written behind a cookie, each with its name. -/
def writtenAttributes (c : Cookie) : List (String × List Char) :=
  (c.path.map fun path => ("Path", path.toList)).toList ++
    (c.domain.map fun domain => ("Domain", bareDomain domain)).toList ++
    (c.maxAge.map fun seconds => ("Max-Age", decimalInt seconds)).toList

/-- The characters of an attribute. -/
def attributeChars (a : String × List Char) : List Char := a.1.toList ++ '=' :: a.2

theorem chars_eq_joinAll (c : Cookie) :
    c.chars = joinAll [';', ' ']
      (entryChars (c.name, c.value) :: c.writtenAttributes.map attributeChars) := by
  obtain ⟨cookie, token, path, domain, maxAge⟩ := c
  cases path <;> cases domain <;> cases maxAge <;> simp [chars, writtenAttributes, attributeChars,
    entryChars, joinAll]

/-- The names of attributes. -/
def attributeNames : List String := ["Path", "Domain", "Max-Age"]

theorem mem_writtenAttributes {c : Cookie} (hpath : ∀ path ∈ c.path, ';' ∉ path.toList)
    (hdomain : ∀ domain ∈ c.domain, ';' ∉ domain.toList) {a : String × List Char}
    (h : a ∈ c.writtenAttributes) :
    a.1 ∈ attributeNames ∧ ';' ∉ a.2 := by
  unfold writtenAttributes at h
  rcases List.mem_append.1 h with h | h
  · rcases List.mem_append.1 h with h | h
    · obtain ⟨path, hset, rfl⟩ := Option.map_eq_some_iff.1 (Option.mem_toList.1 h)
      exact ⟨(by decide : "Path" ∈ attributeNames), hpath path hset⟩
    · obtain ⟨domain, hset, rfl⟩ := Option.map_eq_some_iff.1 (Option.mem_toList.1 h)
      refine ⟨(by decide : "Domain" ∈ attributeNames), fun hmem => hdomain domain hset ?_⟩
      dsimp only at hmem
      unfold bareDomain at hmem
      split at hmem
      · next cs hcs =>
        rw [hcs]
        exact List.mem_cons_of_mem _ hmem
      · exact hmem
  · obtain ⟨seconds, -, rfl⟩ := Option.map_eq_some_iff.1 (Option.mem_toList.1 h)
    refine ⟨(by decide : "Max-Age" ∈ attributeNames), fun hmem => ?_⟩
    rcases mem_decimalInt hmem with hminus | hdigit
    · exact absurd hminus (by decide)
    · exact absurd hdigit (by decide)

/-- An attribute is read as a cookie with its name. -/
theorem pair?_attributeChars {a : String × List Char} (h : a.1 ∈ attributeNames) :
    pair? (' ' :: attributeChars a) = some (a.1, String.ofList (trim a.2)) := by
  have hnames : ∀ name ∈ attributeNames,
      '=' ∉ ' ' :: name.toList ∧ trim (' ' :: name.toList) = name.toList ∧
      ¬ name.toList.isEmpty = true := by decide
  obtain ⟨hequals, htrim, hne⟩ := hnames a.1 h
  have hcut : splitFirst? '=' (' ' :: attributeChars a) = some (' ' :: a.1.toList, a.2) :=
    splitFirst?_append hequals _
  unfold pair?
  rw [hcut]
  dsimp only
  rw [htrim, if_neg hne, String.ofList_toList]

theorem filterMap_attributes {as : List (String × List Char)} (h : ∀ a ∈ as, a.1 ∈ attributeNames) :
    ((as.map attributeChars).map (' ' :: ·)).filterMap pair? = as.map
      fun a => (a.1, String.ofList (trim a.2)) := by
  induction as with
  | nil => rfl
  | cons a as ih =>
    obtain ⟨ha, has⟩ := List.forall_mem_cons.1 h
    rw [List.map_cons, List.map_cons, List.filterMap_cons_some (pair?_attributeChars ha), ih has,
      List.map_cons]

/-- Read as a header, the text that sets a cookie has the cookie first and its
attributes behind it. -/
theorem pairs_text {c : Cookie} (hentry : IsEntry (c.name, c.value))
    (hpath : ∀ path ∈ c.path, ';' ∉ path.toList)
    (hdomain : ∀ domain ∈ c.domain, ';' ∉ domain.toList) :
    pairs c.text = (c.name, c.value) :: c.writtenAttributes.map
      fun a => (a.1, String.ofList (trim a.2)) := by
  have hattributes : ∀ a ∈ c.writtenAttributes, a.1 ∈ attributeNames ∧ ';' ∉ attributeChars a := by
    intro a ha
    obtain ⟨hname, hvalue⟩ := mem_writtenAttributes hpath hdomain ha
    have hnames : ∀ name ∈ attributeNames, ';' ∉ name.toList := by decide
    unfold attributeChars
    simp [hname, hnames a.1 hname, hvalue]
  have hwhole : ∀ part ∈ entryChars (c.name, c.value) :: c.writtenAttributes.map attributeChars,
      ';' ∉ part := by
    refine List.forall_mem_cons.2 ⟨not_mem_entryChars hentry, fun part hpart => ?_⟩
    obtain ⟨a, ha, rfl⟩ := List.mem_map.1 hpart
    exact (hattributes a ha).2
  unfold pairs text
  rw [String.toList_ofList, chars_eq_joinAll, splitAll_joinAll (by decide) hwhole,
    List.filterMap_cons_some (pair?_entryChars hentry).1]
  exact congrArg ((c.name, c.value) :: ·) (filterMap_attributes fun a ha => (hattributes a ha).1)

end Cookie

/-! ## The session of a header -/

namespace Session

open Cookie

/-- What a session has of a header: the first token, of either name, and the first session
cookie of the backend. -/
structure Carried (header : String) (s : Session) : Prop where
  token : FirstCookie tokenName s.token header ∨
    NoCookie tokenName header ∧
      (FirstCookie sessionName s.token header ∨ NoCookie sessionName header ∧ s.token = "")
  /-- Nothing else is known of it. -/
  rest : (∃ value, FirstCookie backendName value header ∧
      s = { token := s.token, kind := .csrf, cookies := StringMap.insert ∅ backendName value }) ∨
    NoCookie backendName header ∧ s = { token := s.token, kind := .csrf }

/-- A session that is read is the one that is carried. -/
theorem carried_of_cookieHeader {header : String} {s : Session}
    (h : ofCookieHeader? header = some s) :
    Carried header s := by
  have htoken : ∀ {token : Option String},
      (find? header tokenName <|> find? header sessionName) = token →
      FirstCookie tokenName (token.getD "") header ∨ NoCookie tokenName header ∧
        (FirstCookie sessionName (token.getD "") header ∨ NoCookie sessionName header ∧
          token.getD "" = "") := by
    rintro _ rfl
    cases hfirst : find? header tokenName with
    | some value => exact .inl (find?_eq_some_iff.1 hfirst)
    | none =>
      refine .inr ⟨find?_eq_none_iff.1 hfirst, ?_⟩
      cases hsecond : find? header sessionName with
      | some value => exact .inl (find?_eq_some_iff.1 hsecond)
      | none => exact .inr ⟨find?_eq_none_iff.1 hsecond, rfl⟩
  unfold ofCookieHeader? at h
  dsimp only at h
  split at h
  · cases h
  · next token hnone _ =>
    cases h
    exact ⟨htoken rfl, .inr ⟨find?_eq_none_iff.1 ‹_›, rfl⟩⟩
  · next token value hvalue =>
    cases h
    exact ⟨htoken rfl, .inl ⟨value, find?_eq_some_iff.1 hvalue, rfl⟩⟩

/-- There is no session just when none of the three cookies has a value. -/
theorem ofCookieHeader?_eq_none_iff {header : String} :
    ofCookieHeader? header = none ↔ ∀ name ∈ importedNames, NoCookie name header := by
  have hnames : (∀ name ∈ importedNames, NoCookie name header) ↔
      find? header tokenName = none ∧ find? header sessionName = none ∧
      find? header backendName = none := by
    simp only [importedNames, List.forall_mem_cons, find?_eq_none_iff, List.not_mem_nil,
      false_implies, implies_true, and_true]
  rw [hnames]
  unfold ofCookieHeader?
  cases find? header tokenName <;> cases find? header sessionName <;> cases find? header
    backendName <;> simp

/-- Two headers that agree in the cookies that are looked at carry the same session. -/
theorem ofCookieHeader?_congr {header header' : String}
    (h : (pairs header').filter isImported = (pairs header).filter isImported) :
    ofCookieHeader? header' = ofCookieHeader? header := by
  have hfound : ∀ name ∈ importedNames, find? header' name = find? header name :=
    fun _ => find?_congr h
  unfold ofCookieHeader?
  rw [hfound tokenName (by decide), hfound sessionName (by decide), hfound backendName (by decide)]

/-- The characters at the ends are no blanks. -/
theorem trimmed_of_ends {cs : List Char} (first last : Char) (hfirst : cs.head? = some first)
    (hlast : cs.getLast? = some last) (hends : isBlank first = false ∧ isBlank last = false) :
    Trimmed cs where
  head c hc := by
    rw [Option.some.inj ((Option.mem_def.1 hc).symm.trans hfirst)]
    exact hends.1
  last c hc := by
    rw [Option.some.inj ((Option.mem_def.1 hc).symm.trans hlast)]
    exact hends.2

theorem isPart_sessionName : IsPart sessionName.toList :=
  ⟨trimmed_of_ends 'S' 't' rfl rfl (by decide), by decide, by decide⟩

/-- The cookie that hands a token over is imported as a session with that token. -/
theorem ofCookieHeader?_ofToken {token : String} {domain : Option String}
    (htoken : IsPart token.toList) (hdomain : ∀ d ∈ domain, ';' ∉ d.toList) (maxAge : Option Int) :
    ofCookieHeader? (ofToken token domain maxAge).text = some { token, kind := .csrf } := by
  have hentry : IsEntry (sessionName, token) :=
    ⟨isPart_sessionName, htoken, (by decide : '=' ∉ sessionName.toList)⟩
  have hpath : ∀ path ∈ (ofToken token domain maxAge).path, ';' ∉ path.toList := by
    rintro _ ⟨rfl⟩
    decide
  have hpairs := pairs_text (c := ofToken token domain maxAge) hentry hpath hdomain
  have hfound : find? (ofToken token domain maxAge).text sessionName = some token := by
    refine find?_eq_some_iff.2
      ⟨fun hempty => htoken.ne_nil (by rw [hempty]; rfl), [], _, hpairs, ?_⟩
    exact fun e he => absurd he List.not_mem_nil
  have habsent : ∀ name, name ≠ sessionName → name ∉ attributeNames →
      find? (ofToken token domain maxAge).text name = none := by
    refine fun name hother hattribute => find?_eq_none_iff.2 fun value hmem => ?_
    rw [hpairs] at hmem
    rcases List.mem_cons.1 hmem with hmem | hmem
    · exact absurd (congrArg Prod.fst hmem) hother
    · obtain ⟨a, ha, heq⟩ := List.mem_map.1 hmem
      have hname : a.1 = name := congrArg Prod.fst heq
      exact absurd (hname ▸ (mem_writtenAttributes hpath hdomain ha).1) hattribute
  unfold ofCookieHeader?
  rw [hfound, habsent tokenName (by decide) (by decide),
    habsent backendName (by decide) (by decide)]
  rfl

end Session

/-! ## The cookie that is printed -/

/-- What is read again is the flow's own. -/
theorem LoginFlow.reload_session {σ : Type} (store : SessionStore σ) (now : ClockTime)
    (f : LoginFlow) (w : σ) :
    After (f.reload store now) w fun step _ => ∀ s, step.1 = .ok s → step.2.session? = s := by
  unfold reload
  split
  · next code hstate =>
    refine After.pure_iff.2 fun s hs => ?_
    cases hs
    unfold session?
    rw [hstate]
    rfl
  · have hread : After (store.current now).run w fun _ _ => True := trivial
    refine hread.bind fun r w' _ => ?_
    cases r with
    | ok s =>
      refine After.pure_iff.2 fun s' hs => ?_
      cases hs
      cases s <;> rfl
    | error e =>
      refine After.pure_iff.2 fun s hs => ?_
      cases hs

namespace Run

/-- The last line of what is printed is the cookie of the session, if there is one. -/
theorem whoami_prints (e : Setup) (permissions : Bool) (c : Console) :
    After (whoami e true permissions).run c fun r c' => r = .ok () → e.json = false →
      ∀ s ∈ c'.flow.session?, ∃ (printed : String) (now : ClockTime), c'.output = printed ++
        ("Set-Cookie: " ++ (Cookie.ofToken s.token e.settings.cookieDomain
          ((s.secondsLeft? now).map Int.ofNat)).text ++ "\n") := by
  have hany : ∀ {α : Type} (m : Run α) (c : Console), After m.run c fun _ _ => True :=
    fun _ _ => trivial
  unfold whoami
  refine (hany _ c).bindExcept (fun me c₁ _ => ?_) fun _ _ _ hok => by cases hok
  refine (hany _ c₁).bindExcept (fun _ c₂ _ => ?_) fun _ _ _ hok => by cases hok
  dsimp only
  split
  all_goals
    refine (hany _ c₂).bindExcept (fun granted c₃ _ => ?_) fun _ _ _ hok => by cases hok
    have hnow : After e.now c₃ fun _ _ => True := trivial
    refine hnow.bindLift fun now c₃ _ => ?_
    have hreload : After (flow (LoginFlow.reload e.store now)).run c₃ fun r c' =>
        ∀ s, r = .ok (.ok s) → c'.flow.session? = s := by
      intro s hs
      exact LoginFlow.reload_session e.store now c₃.flow c₃ s (Except.ok.inj hs)
    refine hreload.bindExcept (fun result c₄ hresult => ?_) fun _ _ _ hok => by cases hok
    refine (auth_after result c₄).bindExcept (fun session c₅ hauth => ?_)
      fun _ _ _ hok => by cases hok
    obtain ⟨rfl, hsession⟩ := hauth
    have hsame : c₅.flow.session? = session :=
      hresult session (congrArg Except.ok (hsession session rfl))
    split
    · next hjson => exact fun _ hno => absurd (hjson.symm.trans hno) (by decide)
    · cases session with
      | none =>
        have hnone : ∀ s, s ∉ c₅.flow.session? := fun s hs => by cases hsame.symm.trans hs
        cases granted with
        | none => exact fun _ _ s hs => absurd hs (hnone s)
        | some v => exact fun _ _ s hs => absurd hs (hnone s)
      | some s =>
        have hthis : ∀ s' ∈ c₅.flow.session?, s = s' :=
          fun s' hs => Option.some.inj (hsame.symm.trans hs)
        cases granted with
        | none =>
          intro _ _ s' hs
          obtain rfl := hthis s' hs
          exact ⟨_, _, rfl⟩
        | some v =>
          intro _ _ s' hs
          obtain rfl := hthis s' hs
          exact ⟨_, _, rfl⟩

end Run

/-! ## Importing -/

/-- The cookie of a token is imported as a session with this token and an empty jar, so too the
cookie that is printed of a session. Of any header the first token and the first session cookie of
the backend that are not empty make the session; there is none without any of them, and other
cookies make no difference, wherever they stand. -/
theorem Session.cookies_imported :
    (∀ (token : String) (domain : Option String) (maxAge : Option Int), Cookie.IsPart token.toList →
      (∀ d ∈ domain, ';' ∉ d.toList) →
        ofCookieHeader? (Cookie.ofToken token domain maxAge).text = some { token, kind := .csrf }) ∧
      (∀ (e : Setup) (permissions : Bool) (c : Console),
        After (Run.whoami e true permissions).run c fun r c' =>
          r = .ok () → e.json = false → ∀ s ∈ c'.flow.session?, ∃ printed text,
            c'.output = printed ++ ("Set-Cookie: " ++ text ++ "\n") ∧
              (Cookie.IsPart s.token.toList → (∀ d ∈ e.settings.cookieDomain, ';' ∉ d.toList) →
                ofCookieHeader? text = some { token := s.token, kind := .csrf })) ∧
      ∀ header,
        (ofCookieHeader? header = none ↔
          ∀ name ∈ Cookie.importedNames, Cookie.NoCookie name header) ∧
        (∀ s, ofCookieHeader? header = some s → Carried header s) ∧
        (∀ header', (Cookie.pairs header').filter Cookie.isImported =
            (Cookie.pairs header).filter Cookie.isImported →
          ofCookieHeader? header' = ofCookieHeader? header) ∧
        ofCookieHeader? (Cookie.importedOnly header) = ofCookieHeader? header := by
  refine ⟨fun token domain maxAge htoken hdomain => ofCookieHeader?_ofToken htoken hdomain maxAge,
    ?_, fun header =>
    ⟨ofCookieHeader?_eq_none_iff, fun _ => carried_of_cookieHeader, fun _ =>
      ofCookieHeader?_congr, ?_⟩⟩
  · intro e permissions c
    refine (Run.whoami_prints e permissions c).mono fun r c' h hok hjson s hs => ?_
    obtain ⟨printed, now, houtput⟩ := h hok hjson s hs
    exact ⟨printed, _, houtput, fun htoken hdomain => ofCookieHeader?_ofToken htoken hdomain _⟩
  · refine ofCookieHeader?_congr ?_
    rw [Cookie.pairs_importedOnly, List.filter_filter]
    simp

/-- A token with an equals sign in it; and a header with empty cookies, names in other letters
and later duplicates. -/
theorem Session.near_names_not_imported :
    Cookie.IsPart "a=b".toList ∧
      ofCookieHeader? (Cookie.ofToken "a=b" (some ".example.com") (some 60)).text =
        some { token := "a=b", kind := .csrf } ∧
      ofCookieHeader?
          "signatrust=; XSRF-TOKEN=x; Signatrust=old ;signatrust=sess; Xsrf-Token= ; Xsrf-Token=t; ; signatrust=s" =
        ofCookieHeader? "Signatrust=old; signatrust=sess; Xsrf-Token=t; signatrust=s" := by
  have htoken : Cookie.IsPart "a=b".toList :=
    ⟨trimmed_of_ends 'a' 'b' rfl rfl (by decide), by decide, by decide⟩
  obtain ⟨htext, -, hheader⟩ := cookies_imported
  exact ⟨htoken, htext "a=b" (some ".example.com") (some 60) htoken (by decide),
    (hheader _).2.2.1 _ (by decide +kernel)⟩

end SigningConsole
