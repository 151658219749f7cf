import SigningConsole.Http.Endpoint
import SigningConsole.Proofs.After
import SigningConsole.Proofs.Numerals
import SigningConsole.Proofs.PlainPaths
/-!
Where the calls of the backend go.

Each endpoint has a plain path: its names are written in the description, or are the number of a
record or the name of an operation (`Endpoint.Offered.plain`). So whatever it is asked for, the call
goes below the directories of the backend's address, and of the address's own query and fragment
nothing is left (`Endpoint.calls_below_address`).
-/

namespace SigningConsole

open Text Url

/-! ## Endpoints -/

namespace Endpoint

/-- The descriptions that the endpoints make, of any arguments. -/
inductive Offered : CallPlan → Prop where
  | loginUrl : Offered loginUrl
  | userInfo : Offered userInfo
  | permissions (params : Parameters) : Offered (permissions params)
  | exchange (variant : Variant) (code : RedirectCode) : Offered (exchange variant code)
  | logout (variant : Variant) : Offered (logout variant)
  | listTokens : Offered listTokens
  | createToken (request : NewToken) : Offered (createToken request)
  | deleteToken (id : Int32) : Offered (deleteToken id)
  | listKeys (query : KeyQuery) : Offered (listKeys query)
  | showKey (id : Int32) : Offered (showKey id)
  | createKey (request : NewKey) : Offered (createKey request)
  | importKey (request : ImportedKey) : Offered (importKey request)
  | keyOperation (id : Int32) (action : KeyOperation) : Offered (keyOperation id action)
  | nameInUse (name : String) (visibility : Visibility) : Offered (nameInUse name visibility)
  | certSearch (params : Parameters) : Offered (certSearch params)
  | certExport (params : Parameters) : Offered (certExport params)
  | certEdit (params : Parameters) : Offered (certEdit params)
  | certDelete (params : Parameters) : Offered (certDelete params)
  | certificateCounts : Offered certificateCounts
  | certificateGrowth (params : Parameters) : Offered (certificateGrowth params)
  | cooperatorList (params : Parameters) : Offered (cooperatorList params)
  | certificateCategories (params : Parameters) : Offered (certificateCategories params)
  | certificateTypes : Offered certificateTypes
  | cooperatorSave (document : Json) : Offered (cooperatorSave document)
  | cooperatorDelete (params : Parameters) : Offered (cooperatorDelete params)
  | cooperatorDetails (params : Parameters) : Offered (cooperatorDetails params)
  | uploadLogo (upload : Upload) : Offered (uploadLogo upload)

/-- A text leads on by plain names, each behind a slash, to a plain query or none. -/
structure LeadsOn (path : String) (names : List String) (query : Option String) : Prop where
  plainNames : ∀ name ∈ names, Plain name
  plainQuery : ∀ q ∈ query, Plain q
  ne_nil : names ≠ []
  chars : path.toList = '/' :: relativeChars names query

theorem LeadsOn.iff {path : String} {names : List String} {query : Option String} :
    (∀ name ∈ names, Plain name) ∧ (∀ q ∈ query, Plain q) ∧ names ≠ [] ∧
      path.toList = '/' :: relativeChars names query ↔ LeadsOn path names query :=
  ⟨fun ⟨hnames, hquery, hne, hchars⟩ => ⟨hnames, hquery, hne, hchars⟩,
    fun ⟨hnames, hquery, hne, hchars⟩ => ⟨hnames, hquery, hne, hchars⟩⟩

instance (path : String) (names : List String) (query : Option String) :
    Decidable (LeadsOn path names query) :=
  decidable_of_iff _ LeadsOn.iff

/-- The path is plain, of these names and this query. -/
structure PlainAs (path : String) (names : List String) (query : Option String) : Prop where
  plain : IsPlainPath names query
  chars : path.toList = '/' :: relativeChars names query

namespace PlainAs

variable {path path' name : String} {names names' : List String} {query : Option String}

theorem of_leadsOn (h : LeadsOn path names query) (hfirst : names.headD "" ≠ "") :
    PlainAs path names query :=
  ⟨IsPlainPath.iff_headD.1 ⟨h.plainNames, h.plainQuery, hfirst⟩, h.chars⟩

/-- A plain path may lead on. -/
theorem append (h : PlainAs path names none) (h' : LeadsOn path' names' query) :
    PlainAs (path ++ path') (names ++ names') query where
  plain := h.plain.append h'.plainNames h'.plainQuery
  chars := by
    rw [String.toList_append, h.chars, h'.chars, relativeChars_append h.plain.ne_nil h'.ne_nil]
    rfl

/-- A name may stand behind a last slash. -/
theorem named (h : PlainAs path (names ++ [""]) none) (hname : Plain name) :
    PlainAs (path ++ name) (names ++ [name]) none := by
  -- the first name is not empty, so it stands before the last slash
  obtain ⟨first, rest, rfl⟩ : ∃ first rest, names = first :: rest := by
    refine List.exists_cons_of_ne_nil ?_
    rintro rfl
    obtain ⟨first, rest, hnames, hfirst⟩ := h.plain.starting
    exact hfirst (List.cons.inj hnames).1.symm
  have hnames := List.forall_mem_append.1 h.plain.plainNames
  have hfirst : first ≠ "" := (IsPlainPath.iff_headD.2 h.plain).2.2
  have hne : first :: rest ≠ [] := List.cons_ne_nil first rest
  refine ⟨⟨List.forall_mem_append.2 ⟨hnames.1, List.forall_mem_singleton.2 hname⟩,
    h.plain.plainQuery, first, rest ++ [name], rfl, hfirst⟩, ?_⟩
  rw [String.toList_append, h.chars, relativeChars_append hne (List.cons_ne_nil "" []),
    relativeChars_append hne (List.cons_ne_nil name [])]
  simp [relativeChars, joinAll, queryChars]

end PlainAs

theorem plain_intText (n : Int) : Plain (intText n) := by
  intro c hc
  rw [intText, String.toList_ofList] at hc
  rcases mem_decimalInt hc with rfl | hdigit
  · rfl
  · simp [isPlainChar, Char.isAlphanum, hdigit]

theorem plain_segment (action : KeyOperation) : Plain action.segment := by
  cases action <;> decide

/-! ## Paths -/

theorem plainAs_users : PlainAs users ["api", "v1", "users"] none :=
  .of_leadsOn (by decide) (by decide)

theorem plainAs_keys : PlainAs keys ["api", "v1", "keys"] none :=
  .of_leadsOn (by decide) (by decide)

theorem plainAs_console : PlainAs console ["api-certification", "console"] none :=
  .of_leadsOn (by decide) (by decide)

theorem plainAs_consoleAccess :
    PlainAs consoleAccess ["api-certification", "console", "auth"] none :=
  .of_leadsOn (by decide) (by decide)

theorem plainAs_certification :
    PlainAs certification ["api-certification", "console", "certification"] none :=
  .of_leadsOn (by decide) (by decide)

theorem plainAs_exchange (variant : Variant) (code : RedirectCode) :
    ∃ names, PlainAs (exchange variant code).path names none := by
  cases variant with
  | signatrust =>
    exact ⟨_, plainAs_users.append (by decide : LeadsOn "/callback" ["callback"] none)⟩
  | certification =>
    exact ⟨_, plainAs_consoleAccess.append (by decide : LeadsOn "/login" ["login"] none)⟩

theorem plainAs_deleteToken (id : Int32) :
    PlainAs (deleteToken id).path
      (["api", "v1", "users", "api_keys"] ++ [intText id.toInt]) none := by
  have hfront : PlainAs (users ++ "/api_keys/") (["api", "v1", "users", "api_keys"] ++ [""]) none :=
    plainAs_users.append (by decide : LeadsOn "/api_keys/" ["api_keys", ""] none)
  exact hfront.named (plain_intText _)

theorem plainAs_showKey (id : Int32) :
    PlainAs (showKey id).path (["api", "v1", "keys"] ++ [intText id.toInt]) none := by
  have hfront : PlainAs (keys ++ "/") (["api", "v1", "keys"] ++ [""]) none :=
    plainAs_keys.append (by decide : LeadsOn "/" [""] none)
  exact hfront.named (plain_intText _)

theorem plainAs_keyOperation (id : Int32) (action : KeyOperation) :
    PlainAs (keyOperation id action).path
      (["api", "v1", "keys", intText id.toInt] ++ [action.segment]) none := by
  have hfront :
      PlainAs (keys ++ "/" ++ intText id.toInt ++ "/")
        (["api", "v1", "keys", intText id.toInt] ++ [""]) none :=
    (plainAs_showKey id).append (by decide : LeadsOn "/" [""] none)
  exact hfront.named (plain_segment action)

/-- Every endpoint has a plain path. -/
theorem Offered.plain {plan : CallPlan} (h : Offered plan) :
    ∃ names query, PlainAs plan.path names query := by
  cases h with
  | loginUrl => exact ⟨_, _, plainAs_users.append (by decide : LeadsOn "/login" ["login"] none)⟩
  | userInfo => exact ⟨_, _, plainAs_users.append (by decide : LeadsOn "/info" ["info"] none)⟩
  | permissions => exact ⟨_, _, plainAs_users.append (by decide : LeadsOn "/" [""] none)⟩
  | exchange variant code =>
    obtain ⟨names, hnames⟩ := plainAs_exchange variant code
    exact ⟨names, none, hnames⟩
  | logout variant =>
    cases variant with
    | signatrust =>
      exact ⟨_, _, plainAs_users.append (by decide : LeadsOn "/logout" ["logout"] none)⟩
    | certification =>
      exact ⟨_, _, plainAs_consoleAccess.append (by decide : LeadsOn "/logout" ["logout"] none)⟩
  | listTokens =>
    exact ⟨_, _, plainAs_users.append (by decide : LeadsOn "/api_keys" ["api_keys"] none)⟩
  | createToken =>
    exact ⟨_, _, plainAs_users.append (by decide : LeadsOn "/api_keys" ["api_keys"] none)⟩
  | deleteToken id => exact ⟨_, _, plainAs_deleteToken id⟩
  | listKeys => exact ⟨_, _, plainAs_keys.append (by decide : LeadsOn "/" [""] none)⟩
  | showKey id => exact ⟨_, _, plainAs_showKey id⟩
  | createKey => exact ⟨_, _, plainAs_keys.append (by decide : LeadsOn "/" [""] none)⟩
  | importKey => exact ⟨_, _, plainAs_keys.append (by decide : LeadsOn "/import" ["import"] none)⟩
  | keyOperation id action => exact ⟨_, _, plainAs_keyOperation id action⟩
  | nameInUse =>
    exact ⟨_, _,
      plainAs_keys.append (by decide : LeadsOn "/name_identical" ["name_identical"] none)⟩
  | certSearch =>
    exact ⟨_, _, plainAs_certification.append (by decide : LeadsOn "/list" ["list"] none)⟩
  | certExport =>
    exact ⟨_, _, plainAs_certification.append
      (by decide : LeadsOn "/list/certInfoExport" ["list", "certInfoExport"] none)⟩
  | certEdit => exact ⟨_, _, plainAs_certification⟩
  | certDelete => exact ⟨_, _, plainAs_certification⟩
  | certificateCounts =>
    exact ⟨_, _, plainAs_certification.append
      (by decide : LeadsOn "/statistics/countByCooperator" ["statistics",
        "countByCooperator"] none)⟩
  | certificateGrowth =>
    exact ⟨_, _, plainAs_certification.append
      (by decide : LeadsOn "/statistics/countByIncrease" ["statistics", "countByIncrease"] none)⟩
  | cooperatorList =>
    exact ⟨_, _,
      plainAs_console.append (by decide : LeadsOn "/cooperator/list" ["cooperator", "list"] none)⟩
  | certificateCategories =>
    exact ⟨_, _, plainAs_console.append
      (by decide : LeadsOn "/cooperator/certCategory/list" ["cooperator", "certCategory",
        "list"] none)⟩
  | certificateTypes =>
    exact ⟨_, _,
      plainAs_console.append (by decide : LeadsOn "/certType/list" ["certType", "list"] none)⟩
  | cooperatorSave =>
    exact ⟨_, _,
      plainAs_console.append (by decide : LeadsOn "/cooperator/save" ["cooperator", "save"] none)⟩
  | cooperatorDelete =>
    exact ⟨_, _, plainAs_console.append
      (by decide : LeadsOn "/cooperator/delete" ["cooperator", "delete"] none)⟩
  | cooperatorDetails =>
    exact ⟨_, _, plainAs_console.append
      (by decide : LeadsOn "/cooperator/detail" ["cooperator", "detail"] none)⟩
  | uploadLogo =>
    exact ⟨_, _, plainAs_console.append
      (by decide : LeadsOn "/fileUpload?type=LOGO" ["fileUpload"] (some "type=LOGO"))⟩

end Endpoint

/-! ## Below an address -/

namespace Url

/-- A text with a slash at its end. -/
def slashed (cs : List Char) : List Char := if cs.getLast? = some '/' then cs else cs ++ ['/']

namespace Path

theorem chars_append (segs more : List String) :
    (segments (segs ++ more)).chars = (segments segs).chars ++ (segments more).chars :=
      List.flatMap_append

/-- Names are written with a slash before them all and between each two. -/
theorem chars_of_ne_nil {names : List String} (h : names ≠ []) :
    (segments names).chars = '/' :: joinAll ['/'] (names.map String.toList) := by
  induction names with
  | nil => exact absurd rfl h
  | cons name names ih =>
    cases names with
    | nil => simp [chars, joinAll]
    | cons second names =>
      have hrest : (segments (second :: names)).chars = '/' :: joinAll ['/']
          ((second :: names).map String.toList) :=
        ih (List.cons_ne_nil _ _)
      calc (segments (name :: second :: names)).chars
          = '/' :: name.toList ++ (segments (second :: names)).chars := rfl
        _ = '/' :: (name.toList ++ ['/'] ++ joinAll ['/']
            ((second :: names).map String.toList)) := by
            rw [hrest, List.append_assoc]
            rfl
        _ = '/' :: joinAll ['/'] ((name :: second :: names).map String.toList) := rfl

/-- A path with a slash at its end is that of the directories. -/
theorem slashed_chars {segs : List String} (hslash : ∀ seg ∈ segs, '/' ∉ seg.toList)
    (hsegs : segs ≠ []) :
    slashed (segments segs).chars = (segments (directories segs)).chars ++ ['/'] := by
  obtain ⟨dirs, last, rfl⟩ := List.eq_nil_or_concat segs |>.resolve_left hsegs
  have hlast : (segments [last]).chars = '/' :: last.toList := by simp [chars]
  rw [List.concat_eq_append, chars_append, hlast]
  by_cases hempty : last = ""
  · -- the last segment is the empty one behind the last slash
    subst hempty
    simp [slashed, directories]
  · -- the last segment ends the path, and it holds no slash
    have hend : last.toList.getLast? ≠ some '/' := fun h =>
      hslash last (by simp) (List.mem_of_getLast? h)
    have hchars : last.toList ≠ [] := fun hnil => hempty (String.toList_inj.1 hnil)
    have hends : ((segments dirs).chars ++ '/' :: last.toList).getLast? = last.toList.getLast? := by
      rw [List.getLast?_append, List.getLast?_cons_of_ne_nil hchars,
        List.getLast?_eq_some_getLast hchars]
      rfl
    rw [slashed, hends, if_neg hend, directories, List.getLast?_concat, if_neg
      fun h => hempty (Option.some.inj h), chars_append, hlast]

end Path

end Url

namespace Endpoint

variable {s : String} {base : Url} {plan : CallPlan}

/-- An endpoint is found below the directories of an address. -/
theorem Offered.resolve (hbase : Url.parse s = .ok base)
    (hscheme : base.scheme = "http" ∨ base.scheme = "https") (h : Offered plan) :
    ∃ names query, PlainAs plan.path names query ∧
      CallPlan.resolve base.asDirectory plan.path = .ok { base.below names with query } := by
  obtain ⟨hspecial, hfile⟩ := special_of_web hscheme
  obtain ⟨segs, hpath, -, hwritten⟩ := Parser.segments_of_parse hbase hspecial hfile
  obtain ⟨names, query, hplain, hchars⟩ := h.plain
  have hresolve := CallPlan.resolve_plain hplain hpath hwritten hspecial hfile
  rw [← hchars, String.ofList_toList] at hresolve
  exact ⟨names, query, ⟨hplain, hchars⟩, hresolve⟩

/-- Whatever the backend is asked for, the call goes below the address: the path of the call follows
that of the address, which a slash ends, its query is that of the call, and nothing of the address's
own query and fragment is left. -/
theorem calls_below_address {σ : Type} (part : Part σ Traffic) (store : SessionStore σ)
    (loginUrl : Url) (backend : Backend) (hbase : Url.parse s = .ok base)
    (hscheme : base.scheme = "http" ∨ base.scheme = "https")
    (h : Offered plan) :
    ∃ url path,
      CallPlan.resolve (Adapter.forBackend part store base loginUrl backend).base plan.path =
        .ok url ∧
      plan.path.toList = '/' :: (path ++ queryChars url.query) ∧ '?' ∉ path ∧
      url.path.chars = slashed base.path.chars ++ path ∧
      url = { base with path := url.path, query := url.query, fragment := none } := by
  obtain ⟨hspecial, hfile⟩ := special_of_web hscheme
  obtain ⟨segs, hpath, hsegs, -⟩ := Parser.segments_of_parse hbase hspecial hfile
  have hslash := Parser.slash_not_mem_of_parse hbase hspecial hfile
  have hsegments : Parser.segmentsOf base = segs := by rw [Parser.segmentsOf, hpath]
  rw [hsegments] at hslash
  obtain ⟨names, query, ⟨hplain, hchars⟩, hresolve⟩ := h.resolve hbase hscheme
  refine ⟨_, joinAll ['/'] (names.map String.toList), hresolve, hchars, ?_, ?_, rfl⟩
  · intro hmark
    rcases mem_of_mem_joinAll hmark with hmark | ⟨piece, hpiece, hmark⟩
    · exact absurd (List.mem_singleton.1 hmark) (by decide)
    · obtain ⟨name, hname, rfl⟩ := List.mem_map.1 hpiece
      exact (standsForItself (hplain.plainNames name hname _ hmark)).noMark (by decide)
  · show (Path.segments (Path.directories (Parser.segmentsOf base) ++ names)).chars = _
    rw [hsegments, Path.chars_append, Path.chars_of_ne_nil hplain.ne_nil, hpath,
      Path.slashed_chars hslash hsegs, List.append_assoc]
    rfl

/-- An address with everything that a URL can have, and a call with a query of its own. -/
theorem upload_below_address :
    let base : Url :=
      ⟨"http", "u", some "p", some (.name "example.com"), some 8080, .segments ["a", "b"],
        some "q", some "f"⟩
    let plan := uploadLogo ⟨"file", "logo.png", some "image/png", []⟩
    let a := Adapter.forBackend Part.second (SessionStore.memory.onPart Part.first) base base
      Backend.unreachable
    Url.parse "HTTP://u:p@Example.com:8080/a/b?q#f" = .ok base ∧ base.scheme = "http" ∧
      Offered plan ∧
      ∃ url path, CallPlan.resolve a.base plan.path = .ok url ∧
        url.path.chars = slashed base.path.chars ++ path ∧
        url.text =
          "http://u:p@example.com:8080/a/b/api-certification/console/fileUpload?type=LOGO" := by
  intro base plan a
  have hbase : Url.parse "HTTP://u:p@Example.com:8080/a/b?q#f" = .ok base :=
    eq_ok_of_toOption (by decide +kernel)
  have htext : (CallPlan.resolve a.base plan.path).toOption.map Url.text =
      some "http://u:p@example.com:8080/a/b/api-certification/console/fileUpload?type=LOGO" := by
    decide +kernel
  have hplan : Offered plan := .uploadLogo _
  obtain ⟨url, path, hresolve, -, -, hpath, -⟩ :=
    calls_below_address Part.second (SessionStore.memory.onPart Part.first) base Backend.unreachable
      hbase (.inl rfl) hplan
  rw [hresolve] at htext
  exact ⟨hbase, rfl, hplan, url, path, hresolve, hpath, Option.some.inj htext⟩

end Endpoint

end SigningConsole
