import SigningConsole.Proofs.CallReport
import SigningConsole.Proofs.PlainPaths
/-!
Paths that are no URLs by themselves, and where they lead.

The slashes at the front of a path are taken off, and the rest is read against the address. That
rest may still name a place of its own (`Parser.namesPlace`): backslashes count as slashes, blanks
before slashes are dropped only by the reader, and behind the slashes there may be a whole URL. A
rest that names a place is read alike against all addresses of one scheme
(`Parser.join_of_namesPlace`); any other keeps scheme, host and port of the address
(`Parser.join_origin`). `CallPlan.path_stays_iff` says so of paths and of what calls send.
-/

namespace SigningConsole

open Calendar Text

namespace Url

/-! ## Origins and places -/

/-- Where a URL leads: its scheme, its host and its port. -/
def origin (u : Url) : String × Option Host × Option Nat := (u.scheme, u.host, u.port)

@[simp] theorem scheme_asDirectory (u : Url) : u.asDirectory.scheme = u.scheme := rfl

@[simp] theorem origin_asDirectory (u : Url) : u.asDirectory.origin = u.origin := rfl

@[simp] theorem origin_asked (u : Url) : u.asked.origin = u.origin := by
  obtain h | h := u.asked_eq_or <;> rw [h] <;> rfl

/-- The URL was read from a text, and is one of the web. -/
structure IsWeb (u : Url) : Prop where
  read : ∃ s, Url.parse s = .ok u
  scheme : u.scheme = "http" ∨ u.scheme = "https"

/-- The URL with a slash at its end is a base for relative ones. -/
theorem IsWeb.isRootless_asDirectory {u : Url} (h : u.IsWeb) :
    u.asDirectory.isRootless = false := by
  obtain ⟨s, hs⟩ := h.read
  obtain ⟨hspecial, hfile⟩ := special_of_web h.scheme
  obtain ⟨segs, hpath, -⟩ := Parser.segments_of_parse hs hspecial hfile
  unfold asDirectory isRootless
  rw [hpath]
  unfold Path.asDirectory
  dsimp only
  split
  · next text heq =>
    split at heq <;> cases heq
  · rfl

namespace Parser

/-- Whether the text begins with two slashes, where backslashes count. -/
def ledBySlashes : List Char → Bool
  | c :: d :: _ => isSlash true c && isSlash true d
  | _ => false

/-- Whether a text names a place of its own when it is read against an address of the scheme:
it begins with two slashes, or has a scheme, other than that of the address or with two
slashes behind it. -/
def namesPlace (scheme : String) (cs : List Char) : Bool :=
  match scheme? cs with
  | some (own, rest) => own ≠ scheme || ledBySlashes rest
  | none => ledBySlashes cs

theorem ledBySlashes_iff {cs : List Char} :
    ledBySlashes cs = true ↔ 2 ≤ (cs.takeWhile (isSlash true)).length := by
  match cs with
  | [] => simp [ledBySlashes]
  | [c] =>
    rw [List.takeWhile_cons]
    split <;> simp [ledBySlashes]
  | c :: d :: rest =>
    rw [List.takeWhile_cons, List.takeWhile_cons]
    cases hc : isSlash true c <;> cases hd : isSlash true d <;> simp [ledBySlashes, hc, hd]

variable {base other : Url} {scheme own s : String} {cs rest : List Char}

/-! ## Reading -/

/-- A path that is read onto segments leaves scheme, host and port. -/
theorem onto_origin (before : List String) (cs : List Char) :
    Yields (fun u => u.origin = base.origin) (relative.onto base before cs) := .ok rfl

/-- What does not begin with two slashes keeps the origin of the address. -/
theorem relative_origin (h : ledBySlashes cs = false) :
    Yields (fun u => u.origin = base.origin) (relative base cs) := by
  unfold relative
  split
  · exact .ok rfl
  · exact .ok rfl
  · exact .ok rfl
  · next c rest _ _ =>
    split
    · next hc =>
      cases rest with
      | nil => exact onto_origin _ _
      | cons d more =>
        have hd : isSlash true d = false := by simpa [ledBySlashes, hc] using h
        dsimp only
        rw [if_neg (by rw [hd]; exact Bool.false_ne_true)]
        exact onto_origin _ _
    · exact onto_origin _ _

/-- What begins with two slashes is read for the scheme of the address alone. -/
theorem relative_of_ledBySlashes (h : ledBySlashes cs = true)
    (hscheme : other.scheme = base.scheme) :
    relative other cs = relative base cs := by
  match cs, h with
  | c :: d :: rest, h =>
    obtain ⟨hc, hd⟩ := Bool.and_eq_true_iff.1 h
    have hread (b : Url) : relative b (c :: d :: rest) =
        afterSlashes b.scheme
          (if c = '/' ∧ d = '/' then rest else (c :: d :: rest).dropWhile (isSlash true)) := by
      obtain rfl | rfl : c = '/' ∨ c = '\\' := by simpa [isSlash] using hc
      all_goals
        show (if isSlash true d = true then _ else _) = _
        rw [if_pos hd]
        rfl
    rw [hread, hread, hscheme]

/-- What follows a scheme and names a place is read as if there were no address. -/
theorem afterScheme_of_namesPlace (hfile : base.scheme ≠ "file")
    (h : own ≠ base.scheme ∨ ledBySlashes rest = true) :
    afterScheme (some base) own rest = afterScheme none own rest := by
  have hnoFile : (some base).filter (·.scheme = "file") = none := by simp [Option.filter, hfile]
  have hnotRelative : ¬ ((rest.takeWhile (isSlash true)).length < 2 ∧ base.scheme = own) := by
    rintro ⟨hslashes, rfl⟩
    have hled := ledBySlashes_iff.1 (h.resolve_left fun hne => hne rfl)
    omega
  unfold afterScheme
  rw [hnoFile]
  dsimp only
  rw [if_neg hnotRelative]
  rfl

/-- What follows the scheme of the address, and names no place, is relative. -/
theorem afterScheme_of_not_namesPlace (hweb : base.scheme = "http" ∨ base.scheme = "https")
    (h : ledBySlashes rest = false) :
    afterScheme (some base) base.scheme rest = relative base rest := by
  obtain ⟨hspecial, hfile⟩ := special_of_web hweb
  have hslashes : (rest.takeWhile (isSlash true)).length < 2 :=
    Nat.not_le.1 fun hle => Bool.false_ne_true (h.symm.trans (ledBySlashes_iff.2 hle))
  unfold afterScheme
  rw [if_neg hfile, if_pos hspecial]
  exact if_pos ⟨hslashes, rfl⟩

theorem join_of_scheme (hfound : scheme? (clean s.toList) = some (own, rest)) :
    base.join s = afterScheme (some base) own rest := by
  unfold join document
  simp only [hfound]

/-- A text that names no place keeps the origin of the address. -/
theorem join_origin (base : Url) (hweb : base.scheme = "http" ∨ base.scheme = "https")
    (hrootless : base.isRootless = false) (h : namesPlace base.scheme (clean s.toList) = false) :
    Yields (fun u => u.origin = base.origin) (base.join s) := by
  unfold namesPlace at h
  cases hfound : scheme? (clean s.toList) with
  | some found =>
    obtain ⟨own, rest⟩ := found
    rw [hfound] at h
    obtain ⟨hown, hled⟩ := Bool.or_eq_false_iff.1 h
    obtain rfl : own = base.scheme := by simpa using hown
    rw [join_of_scheme hfound, afterScheme_of_not_namesPlace hweb hled]
    exact relative_origin hled
  | none =>
    rw [hfound] at h
    rw [join_of_relative hrootless (special_of_web hweb).2 hfound]
    exact relative_origin h

/-- A text that names a place is read alike against addresses of one scheme. -/
theorem join_of_namesPlace (base other : Url) (hfile : base.scheme ≠ "file")
    (hscheme : other.scheme = base.scheme) (hbase : base.isRootless = false)
    (hother : other.isRootless = false) (h : namesPlace base.scheme (clean s.toList) = true) :
    other.join s = base.join s := by
  have hfile' : other.scheme ≠ "file" := hscheme ▸ hfile
  unfold namesPlace at h
  cases hfound : scheme? (clean s.toList) with
  | some found =>
    obtain ⟨own, rest⟩ := found
    rw [hfound] at h
    have hplace : own ≠ base.scheme ∨ ledBySlashes rest = true := by simpa using h
    rw [join_of_scheme hfound, join_of_scheme hfound, afterScheme_of_namesPlace hfile hplace,
      afterScheme_of_namesPlace hfile' (hscheme ▸ hplace)]
  | none =>
    rw [hfound] at h
    rw [join_of_relative hother hfile' hfound, join_of_relative hbase hfile hfound,
      relative_of_ledBySlashes h hscheme]

/-- A text without colons and backslashes that does not begin with a slash names no place. -/
theorem namesPlace_of_not_mem (hcolon : ':' ∉ cs) (hback : '\\' ∉ cs)
    (hslash : cs.head? ≠ some '/') :
    namesPlace scheme cs = false := by
  unfold namesPlace
  rw [scheme?_of_not_mem hcolon]
  match cs with
  | [] => rfl
  | [c] => rfl
  | c :: d :: rest =>
    have hc : c ≠ '/' := fun h => hslash (congrArg some h)
    have hc' : c ≠ '\\' := fun h => hback (h ▸ List.mem_cons_self)
    simp [ledBySlashes, isSlash, hc, hc']

end Parser

end Url

namespace CallPlan

open Url

variable {base other u : Url} {path : String}

/-! ## Paths -/

/-- Whether a path names a place of its own behind the slashes at its front. -/
def namesPlace (scheme path : String) : Bool :=
  Parser.namesPlace scheme (Parser.clean (path.toList.dropWhile (· == '/')))

/-- A path without blanks, controls, colons and backslashes names no place, whatever
slashes it begins with. -/
theorem namesPlace_of_visible (h : path.toList.all fun c => 0x20 < c.toNat ∧ c ∉ [':', '\\'])
    (scheme : String) :
    namesPlace scheme path = false := by
  have hrest : ∀ c ∈ path.toList.dropWhile (· == '/'), 0x20 < c.toNat ∧ c ∉ [':', '\\'] :=
    fun c hc => of_decide_eq_true (List.all_eq_true.1 h c ((List.dropWhile_sublist _).subset hc))
  unfold namesPlace
  rw [Parser.clean_of_visible fun c hc => (hrest c hc).1]
  refine Parser.namesPlace_of_not_mem (fun hc => (hrest _ hc).2 (by decide))
    (fun hc => (hrest _ hc).2 (by decide)) ?_
  intro hhead
  have hfalse := List.head?_dropWhile_not (· == '/') path.toList
  rw [hhead] at hfalse
  cases hfalse

/-- A path that is no URL is read against the address, without the slashes at its front. -/
theorem resolve_of_no_url (hpath : ∀ u, Url.parse path ≠ .ok u) (base : Url) :
    resolve base path =
      (base.join (String.ofList (path.toList.dropWhile (· == '/')))).mapError (.badPath path) := by
  unfold resolve
  cases h : Url.parse path with
  | ok u => exact absurd h (hpath u)
  | error e => rfl

/-- A path that names no place keeps the origin of the address. -/
theorem resolve_origin (hbase : base.IsWeb) (hpath : ∀ u, Url.parse path ≠ .ok u)
    (h : namesPlace base.scheme path = false) (hu : resolve base.asDirectory path = .ok u) :
    u.origin = base.origin := by
  let rest := String.ofList (path.toList.dropWhile (· == '/'))
  have hweb : base.asDirectory.scheme = "http" ∨ base.asDirectory.scheme = "https" := hbase.scheme
  have hplace : Parser.namesPlace base.asDirectory.scheme (Parser.clean rest.toList) = false := by
    rw [scheme_asDirectory, String.toList_ofList, ← namesPlace]
    exact h
  have horigin := Parser.join_origin base.asDirectory hweb hbase.isRootless_asDirectory hplace
  rw [origin_asDirectory] at horigin
  rw [resolve_of_no_url hpath] at hu
  cases hjoin : base.asDirectory.join rest with
  | ok v =>
    rw [hjoin] at hu
    cases hu
    exact horigin u hjoin
  | error e =>
    rw [hjoin] at hu
    cases hu

/-- A path that names a place leads alike from all addresses of one scheme. -/
theorem resolve_of_namesPlace (hbase : base.IsWeb) (hother : other.IsWeb)
    (hscheme : other.scheme = base.scheme) (hpath : ∀ u, Url.parse path ≠ .ok u)
    (h : namesPlace base.scheme path = true) :
    resolve other.asDirectory path = resolve base.asDirectory path := by
  let rest := String.ofList (path.toList.dropWhile (· == '/'))
  have hplace : Parser.namesPlace base.asDirectory.scheme (Parser.clean rest.toList) = true := by
    rw [scheme_asDirectory, String.toList_ofList, ← namesPlace]
    exact h
  have hfile : base.asDirectory.scheme ≠ "file" := (special_of_web hbase.scheme).2
  have hjoin := Parser.join_of_namesPlace base.asDirectory other.asDirectory hfile hscheme
    hbase.isRootless_asDirectory hother.isRootless_asDirectory hplace
  rw [resolve_of_no_url hpath, resolve_of_no_url hpath, hjoin]

/-- There are addresses of either scheme with different hosts. -/
theorem exists_apart {scheme : String} (h : scheme = "http" ∨ scheme = "https") :
    ∃ one two : Url, one.IsWeb ∧ two.IsWeb ∧ one.scheme = scheme ∧ two.scheme = scheme ∧
      one.origin ≠ two.origin := by
  let page (host : String) : Url :=
    ⟨scheme, "", none, some (.name host), none, .segments [""], none, none⟩
  have hread (host : String) (hhost : host = "one.example" ∨ host = "two.example") :
      (page host).IsWeb := by
    refine ⟨⟨scheme ++ "://" ++ host, eq_ok_of_toOption ?_⟩, h⟩
    rcases h with rfl | rfl <;> rcases hhost with rfl | rfl <;> decide +kernel
  have happart : some (Host.name "one.example") ≠ some (Host.name "two.example") := by decide
  exact ⟨page "one.example", page "two.example", hread _ (.inl rfl), hread _ (.inr rfl), rfl, rfl,
    fun h => happart (congrArg (·.2.1) h)⟩

end CallPlan

/-! ## Calls -/

namespace Adapter

variable {σ : Type}

/-- A call whose path leads to the origin of the address sends nothing elsewhere: the request for a
token goes to the address itself, and a query changes no origin. -/
theorem request_origin (store : SessionStore σ) (base loginUrl : Url) (backend : Backend)
    (now : Instant) (spec : CallPlan) (w : σ × Traffic)
    (h : ∀ u, CallPlan.resolve base.asDirectory spec.path = .ok u → u.origin = base.origin) :
    let a := Adapter.forBackend Part.second (store.onPart Part.first) base loginUrl backend
    After (a.request now spec).run w fun _ w' =>
      ∃ sent, w'.2.exchanges = w.2.exchanges ++ sent ∧
        ∀ x ∈ sent, x.request.url.origin = base.origin := by
  intro a
  refine (request_deeds (Adapter.forBackend_does store base loginUrl backend) now spec w).mono
    fun result w' hdone => ?_
  obtain ⟨primed, used, hprimed, hdone⟩ := hdone
  obtain ⟨described, hreport⟩ := hdone.reports hprimed
  refine ⟨primed.toList ++ described.toList, ?_, fun x hx => ?_⟩
  · rw [← List.append_assoc]
    exact hreport.exchanges
  · rcases List.mem_append.1 hx with hx | hx
    · obtain ⟨-, s, -, hrequest⟩ := hreport.primed_request x (Option.mem_toList.1 hx)
      rw [hrequest]
      exact base.asDirectory.origin_asked
    · obtain ⟨-, hprepare⟩ := hreport.described_request x (Option.mem_toList.1 hx)
      obtain ⟨u, hu, hrequest⟩ := CallPlan.prepare_eq_ok hprepare
      rw [hrequest, ← h u hu]
      refine (Url.origin_asked _).trans ?_
      split <;> rfl

end Adapter

namespace CallPlan

open Url

variable {base : Url} {path : String}

/-- A path that is no URL stays with every address of a scheme just when it names no place to which
it could lead. Without one, calls send everything to the origin of the address, with the headers of
any session; a place that it names does not depend on the address. -/
theorem path_stays_iff (hbase : base.IsWeb) (hpath : ∀ u, Url.parse path ≠ .ok u) :
    ((∀ other : Url, other.IsWeb → other.scheme = base.scheme →
        ∀ u, resolve other.asDirectory path = .ok u → u.origin = other.origin) ↔
      (namesPlace base.scheme path = true → ∀ u, resolve base.asDirectory path ≠ .ok u)) ∧
    (namesPlace base.scheme path = false →
      ∀ (σ : Type) (store : SessionStore σ) (loginUrl : Url) (backend : Backend) (now : Instant)
        (spec : CallPlan) (w : σ × Traffic), spec.path = path →
        let a := Adapter.forBackend Part.second (store.onPart Part.first) base loginUrl backend
        After (a.request now spec).run w fun _ w' =>
          ∃ sent, w'.2.exchanges = w.2.exchanges ++ sent ∧
            ∀ x ∈ sent, x.request.url.origin = base.origin) ∧
    (namesPlace base.scheme path = true → ∀ other : Url, other.IsWeb → other.scheme = base.scheme →
      resolve other.asDirectory path = resolve base.asDirectory path) := by
  refine ⟨⟨fun hstays hplace u hu => ?_, fun hnowhere other hother hscheme u hu => ?_⟩, ?_, ?_⟩
  · -- two addresses with different hosts would both be left for the same place
    obtain ⟨one, two, hone, htwo, hscheme₁, hscheme₂, hapart⟩ := exists_apart hbase.scheme
    have hu₁ := (resolve_of_namesPlace hbase hone hscheme₁ hpath hplace).trans hu
    have hu₂ := (resolve_of_namesPlace hbase htwo hscheme₂ hpath hplace).trans hu
    exact hapart ((hstays one hone hscheme₁ u hu₁).symm.trans (hstays two htwo hscheme₂ u hu₂))
  · cases hplace : namesPlace base.scheme path with
    | true =>
      rw [resolve_of_namesPlace hbase hother hscheme hpath hplace] at hu
      exact absurd hu (hnowhere hplace u)
    | false => exact resolve_origin hother hpath (hscheme ▸ hplace) hu
  · rintro hplace σ store loginUrl backend now spec w rfl
    exact Adapter.request_origin store base loginUrl backend now spec w
      fun u => resolve_origin hbase hpath hplace
  · exact fun hplace other hother hscheme => resolve_of_namesPlace hbase hother hscheme hpath hplace

/-- Behind two slashes, the name of a host is the name of a directory. -/
theorem slashes_stay :
    let base : Url :=
      ⟨"http", "", none, some (.name "sig.example.com"), none, .segments ["a"], none, none⟩
    base.IsWeb ∧ (∀ u, Url.parse "//evil.example.com/x" ≠ .ok u) ∧
      (∃ u, resolve base.asDirectory "//evil.example.com/x" = .ok u ∧
        u.text = "http://sig.example.com/a/evil.example.com/x" ∧ u.origin = base.origin) ∧
      let a := Adapter.forBackend Part.second (SessionStore.memory.onPart Part.first) base base
        fun _ _ => .ok { status := 200 }
      After (a.request default (.get "//evil.example.com/x" [])).run (some (.ofApiKey "secret"), {})
        fun _ w => ∀ x ∈ w.2.exchanges, x.request.url.origin = base.origin := by
  intro base
  have hbase : base.IsWeb :=
    ⟨⟨"http://sig.example.com/a", eq_ok_of_toOption (by decide +kernel)⟩, .inl rfl⟩
  have hpath : ∀ u, Url.parse "//evil.example.com/x" ≠ .ok u :=
    ne_ok_of_toOption (by decide +kernel)
  have hplace : namesPlace base.scheme "//evil.example.com/x" = false :=
    namesPlace_of_visible (by decide +kernel) _
  obtain ⟨hstays, hcalls, -⟩ := path_stays_iff hbase hpath
  have htext : (resolve base.asDirectory "//evil.example.com/x").toOption.map Url.text =
      some "http://sig.example.com/a/evil.example.com/x" := by decide +kernel
  refine ⟨hbase, hpath, ?_, ?_⟩
  · cases hu : resolve base.asDirectory "//evil.example.com/x" with
    | ok u =>
      rw [hu] at htext
      have hplaceless : namesPlace base.scheme "//evil.example.com/x" ≠ true := by simp [hplace]
      exact ⟨u, rfl, Option.some.inj htext, hstays.2 (fun h => absurd h hplaceless) base
        hbase rfl u hu⟩
    | error e =>
      rw [hu] at htext
      cases htext
  · intro a
    refine (hcalls hplace _ .memory base _ default _ _ rfl).mono fun _ w h => ?_
    obtain ⟨sent, hsent, horigin⟩ := h
    rw [hsent]
    exact horigin

/-- Backslashes, a blank before slashes, and slashes before a URL each make a path lead to a host of
its own, and the headers of the session are sent there. -/
theorem hidden_hosts_leave :
    let base : Url :=
      ⟨"http", "", none, some (.name "sig.example.com"), none, .segments [""], none, none⟩
    let a := Adapter.forBackend Part.second (SessionStore.memory.onPart Part.first) base base
      fun _ _ => .ok { status := 200 }
    let hidden := ["\\\\evil.example.com/x", " //evil.example.com/x", "/http://evil.example.com/x"]
    (¬ ∀ (base : Url) (path : String) (u : Url), base.IsWeb → (∀ v, Url.parse path ≠ .ok v) →
      resolve base.asDirectory path = .ok u → u.origin = base.origin) ∧
    (∀ path ∈ hidden, (∀ v, Url.parse path ≠ .ok v) ∧
      (resolve base.asDirectory path).toOption.map Url.text = some "http://evil.example.com/x") ∧
    ∀ path ∈ hidden,
      ((a.request default (.get path [])).run.run (some (.ofApiKey "secret"), {})).2.2.exchanges.map
        (fun x => (x.request.url.text, x.request.headers)) =
      [("http://evil.example.com/x", (Session.ofApiKey "secret").headers)] := by
  intro base a hidden
  have hnoUrl : ∀ path ∈ hidden, (Url.parse path).toOption = none ∧
      (resolve base.asDirectory path).toOption.map Url.text = some "http://evil.example.com/x" := by
        decide +kernel
  refine ⟨fun h => ?_, fun path hpath =>
    ⟨ne_ok_of_toOption (hnoUrl path hpath).1, (hnoUrl path hpath).2⟩, ?_⟩
  · have hbase : base.IsWeb :=
      ⟨⟨"http://sig.example.com", eq_ok_of_toOption (by decide +kernel)⟩, .inl rfl⟩
    let away : Url :=
      ⟨"http", "", none, some (.name "evil.example.com"), none, .segments ["x"], none, none⟩
    have haway : resolve base.asDirectory "\\\\evil.example.com/x" = .ok away :=
      eq_ok_of_toOption (by decide +kernel)
    have horigin := h base _ away hbase (ne_ok_of_toOption (hnoUrl _ List.mem_cons_self).1) haway
    exact absurd horigin (by decide)
  · decide +kernel

end CallPlan

end SigningConsole
