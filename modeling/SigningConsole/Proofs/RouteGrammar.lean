import SigningConsole.Route
/-!
Which paths lead to which page.

A path may have one mark in front (`Unmarked`). The rest is the name of the page, any number of
slashes, and then nothing or a query or fragment (`Spells`); the key list has the empty name.
Reading takes these off again, the query or fragment first, and what is left is a name just when the
path spells it (`Route.core_eq_iff`). Hence no path spells two names.

Main statement: `Route.paths_resolved`.
-/

namespace SigningConsole

open Text

namespace Route

/-! ## The grammar -/

/-- A path, and what it is without the one mark that may stand in front of it. -/
inductive Unmarked : List Char → List Char → Prop where
  | marked (q : List Char) : Unmarked ('#' :: q) q
  | plain {q : List Char} (h : q.head? ≠ some '#') : Unmarked q q

/-- Nothing, or a query or fragment. -/
def IsEnding (rest : List Char) : Prop := ∀ c ∈ rest.head?, c = '?' ∨ c = '#'

/-- The name with any number of slashes behind it, and then nothing or a query or fragment. -/
inductive Spells (name : List Char) : List Char → Prop where
  | intro (slashes : Nat) {rest : List Char} (h : IsEnding rest) :
    Spells name (name ++ List.replicate slashes '/' ++ rest)

/-- The name of a page in a path: the key list needs none. -/
def nameIn (variant : Variant) : Route → List Char
  | keyList => []
  | apiTokens => variant.tokensPath.toList

/-- The path spells the name of the page, behind a mark or without one. -/
def LeadsTo (variant : Variant) (r : Route) (path : List Char) : Prop :=
  ∃ q, Unmarked path q ∧ Spells (r.nameIn variant) q

/-! ## What reading leaves of a path -/

theorem unmarked_iff {path q : List Char} : Unmarked path q ↔ withoutHash path = q := by
  constructor
  · rintro (_ | h)
    · rfl
    · unfold withoutHash
      split
      · exact absurd rfl h
      · rfl
  · rintro rfl
    unfold withoutHash
    split
    · exact .marked _
    · next hplain =>
      refine .plain fun hhead => ?_
      obtain ⟨rest, rfl⟩ := List.head?_eq_some_iff.1 hhead
      exact hplain rest rfl

theorem isEnding_iff {rest : List Char} :
    IsEnding rest ↔ ∀ c ∈ rest.head?, (c != '?' && c != '#') = false := by
  refine forall_congr' fun c => imp_congr_right fun _ => ?_
  rw [Bool.and_eq_false_iff, bne_eq_false_iff_eq, bne_eq_false_iff_eq]

/-- Neither a query nor a fragment begins in the name, and no slash stands at its end. -/
structure IsName (name : List Char) : Prop where
  inside : ∀ c ∈ name, (c != '?' && c != '#') = true
  last : name.getLast? ≠ some '/'

theorem isName_nameIn (variant : Variant) (r : Route) : IsName (r.nameIn variant) := by
  cases r with
  | keyList => exact ⟨nofun, nofun⟩
  | apiTokens => cases variant <;> exact ⟨List.all_eq_true.1 (by decide), by decide⟩

/-- What is left of a path is a name just when the path spells it. -/
theorem core_eq_iff {path name : List Char} (hname : IsName name) :
    core path = name ↔ ∃ q, Unmarked path q ∧ Spells name q := by
  simp only [unmarked_iff, exists_eq_left']
  unfold core
  constructor
  · intro h
    obtain ⟨-, slashes, hfront, hslashes⟩ := dropSuffixWhile_eq_iff.1 h
    obtain ⟨-, rest, hpath, hrest⟩ := takeWhile_eq_iff.1 hfront
    have hreplicate : slashes = List.replicate slashes.length '/' :=
      List.eq_replicate_iff.2 ⟨rfl, fun c hc => beq_iff_eq.1 (hslashes c hc)⟩
    rw [hpath, hreplicate]
    exact .intro slashes.length (isEnding_iff.2 hrest)
  · intro h
    generalize withoutHash path = q at h
    obtain ⟨slashes, hrest⟩ := h
    have hslash {c : Char} (hc : c ∈ List.replicate slashes '/') : c = '/' :=
      List.eq_of_mem_replicate hc
    have hinside : ∀ c ∈ name ++ List.replicate slashes '/', (c != '?' && c != '#') = true := by
      intro c hc
      obtain hc | hc := List.mem_append.1 hc
      · exact hname.inside c hc
      · rw [hslash hc]
        rfl
    rw [takeWhile_eq_iff.2 ⟨hinside, _, rfl, isEnding_iff.1 hrest⟩, dropSuffixWhile_eq_iff]
    exact ⟨fun c hc => beq_eq_false_iff_ne.2 fun heq => hname.last (heq ▸ hc), _, rfl,
      fun c hc => beq_iff_eq.2 (hslash hc)⟩

theorem leadsTo_iff {variant : Variant} {r : Route} {path : List Char} :
    LeadsTo variant r path ↔ core path = r.nameIn variant :=
      (core_eq_iff (isName_nameIn variant r)).symm

/-! ## Pages -/

variable {path : String} {variant : Variant}

theorem nameIn_apiTokens_ne_nil (variant : Variant) : apiTokens.nameIn variant ≠ [] := by
  cases variant <;> exact List.cons_ne_nil _ _

theorem nameIn_apiTokens_inj {other : Variant}
    (h : apiTokens.nameIn other = apiTokens.nameIn variant) :
    other = variant := by
  cases other <;> cases variant <;> first | rfl | exact absurd h (by decide)

theorem ofPath?_eq_some_iff {r : Route} :
    ofPath? path variant = some r ↔ LeadsTo variant r path.toList := by
  rw [leadsTo_iff]
  unfold ofPath?
  dsimp only
  by_cases hempty : core path.toList = []
  · rw [hempty, List.isEmpty_nil, if_pos rfl]
    cases r with
    | keyList => exact iff_of_true rfl rfl
    | apiTokens => exact iff_of_false nofun (nameIn_apiTokens_ne_nil variant).symm
  · rw [if_neg fun h => hempty (List.isEmpty_iff.1 h)]
    cases r with
    | keyList =>
      refine iff_of_false (fun h => ?_) hempty
      split at h <;> cases h
    | apiTokens =>
      show (if core path.toList = apiTokens.nameIn variant then _ else _) = _ ↔ _
      split
      · next htokens => exact iff_of_true rfl htokens
      · next hother => exact iff_of_false nofun hother

theorem ofPath?_eq_none_iff :
    ofPath? path variant = none ↔ ∀ r, ¬ LeadsTo variant r path.toList := by
  rw [Option.eq_none_iff_forall_ne_some]
  exact forall_congr' fun r => not_congr ofPath?_eq_some_iff

/-- The route of a page spells its name. -/
theorem spells_nameIn {r : Route} {q : List Char} (h : Spells (r.path variant).toList q) :
    Spells (r.nameIn variant) q := by
  obtain ⟨slashes, hrest⟩ := h
  cases r with
  | keyList =>
    have hpath : (keyList.path variant).toList = ['/'] := by cases variant <;> decide
    rw [hpath]
    exact .intro (slashes + 1) hrest
  | apiTokens => exact .intro slashes hrest

theorem head?_of_spells_path {r : Route} {q : List Char} (h : Spells (r.path variant).toList q) :
    q.head? = some '/' := by
  obtain ⟨slashes, -⟩ := h
  have hhead : (r.path variant).toList.head? = some '/' := by cases variant <;> cases r <;> decide
  rw [List.append_assoc, List.head?_append, hhead]
  rfl

theorem leadsTo_of_spells_path {r : Route} {q : List Char} (h : Spells (r.path variant).toList q) :
    LeadsTo variant r q ∧ LeadsTo variant r ('#' :: q) := by
  refine ⟨⟨q, .plain ?_, spells_nameIn h⟩, ⟨q, .marked q, spells_nameIn h⟩⟩
  rw [head?_of_spells_path h]
  decide

/-- A path leads to the token page of one console only. -/
theorem ofPath?_of_other_tokens {other : Variant} (hother : other ≠ variant)
    (h : LeadsTo other .apiTokens path.toList) : ofPath? path variant = none := by
  rw [ofPath?_eq_none_iff]
  intro r hr
  have hname : apiTokens.nameIn other = r.nameIn variant :=
    (leadsTo_iff.1 h).symm.trans (leadsTo_iff.1 hr)
  cases r with
  | keyList => exact nameIn_apiTokens_ne_nil other hname
  | apiTokens => exact hother (nameIn_apiTokens_inj hname)

/-- A path leads to the key list just when it has, but for one mark in front, only slashes
before its end or a query or fragment; to the tokens just when it has the name of their page
before the slashes; and else nowhere. So the route of a page leads there with anything that may
stand behind it, with and without a mark, and what leads to the tokens of one console leads
nowhere in the other. -/
theorem paths_resolved (path : String) (variant : Variant) :
    (ofPath? path variant = some .keyList ↔ ∃ q, Unmarked path.toList q ∧ Spells [] q) ∧
      (ofPath? path variant = some .apiTokens ↔
        ∃ q, Unmarked path.toList q ∧ Spells variant.tokensPath.toList q) ∧
      (ofPath? path variant = none ↔ ∀ r, ¬ LeadsTo variant r path.toList) ∧
      (∀ r : Route, Spells (r.path variant).toList path.toList →
        ofPath? path variant = some r ∧ ofPath? ("#" ++ path) variant = some r) ∧
      ∀ other, other ≠ variant → LeadsTo other .apiTokens path.toList →
        ofPath? path variant = none := by
  refine ⟨ofPath?_eq_some_iff, ofPath?_eq_some_iff, ofPath?_eq_none_iff, fun r h => ?_,
    fun other => ofPath?_of_other_tokens⟩
  obtain ⟨hplain, hmarked⟩ := leadsTo_of_spells_path h
  refine ⟨ofPath?_eq_some_iff.2 hplain, ofPath?_eq_some_iff.2 ?_⟩
  rw [String.toList_append]
  exact hmarked

/-- A route with two slashes, a query and a fragment behind it, with and without a mark,
in either console. -/
theorem token_route_with_query :
    let path := "/apiTokens//?code=x/#/tokens"
    Spells (apiTokens.path .certification).toList path.toList ∧
      ofPath? path .certification = some .apiTokens ∧
      ofPath? ("#" ++ path) .certification = some .apiTokens ∧
      LeadsTo .certification .apiTokens path.toList ∧ ofPath? path .signatrust = none := by
  intro path
  have hhead : "?code=x/#/tokens".toList.head? = some '?' := by decide
  have hending : IsEnding "?code=x/#/tokens".toList := by
    intro c hc
    cases hhead.symm.trans hc
    exact .inl rfl
  have hpath : path.toList = (apiTokens.path .certification).toList ++ List.replicate 2 '/' ++
      "?code=x/#/tokens".toList := by decide
  have hspells : Spells (apiTokens.path .certification).toList path.toList := by
    rw [hpath]
    exact .intro 2 hending
  obtain ⟨-, -, -, hroute, -⟩ := paths_resolved path .certification
  obtain ⟨-, -, -, -, hother⟩ := paths_resolved path .signatrust
  obtain ⟨hplain, hmarked⟩ := hroute .apiTokens hspells
  have hleads : LeadsTo .certification .apiTokens path.toList := (leadsTo_of_spells_path hspells).1
  exact ⟨hspells, hplain, hmarked, hleads, hother .certification (by decide) hleads⟩

end Route

end SigningConsole
