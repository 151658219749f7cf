import SigningConsole.Http.Adapter
import SigningConsole.Proofs.WrittenQueries
/-!
Plain paths, read against an address.

A plain text is made of letters, digits, hyphens, underscores and equals signs, none of which means
anything but itself in a path or in a query. A path of plain names with a plain query behind it, or
none, is no URL by itself, and what it leads to is found below the directories of an address: its
names come behind them and its query takes the place of the address's own (`Parser.join_plain`,
`CallPlan.resolve_plain`).
-/

namespace SigningConsole

open Text

namespace Url

/-! ## Pages -/

/-- The page to which names lead from the root of a URL's host. -/
def atRoot (u : Url) (names : List String) : Url :=
  { u with path := .segments names, query := none, fragment := none }

/-- The page to which names lead from the directories of a URL. -/
def below (u : Url) (names : List String) : Url :=
  u.atRoot (Path.directories (Parser.segmentsOf u) ++ names)

/-! ## Plain texts -/

/-- Whether the character means nothing but itself in a path and in a query. -/
def isPlainChar (c : Char) : Bool := c.isAlphanum || c == '-' || c == '_' || c == '='

/-- The text is made of plain characters. -/
def Plain (s : String) : Prop := ∀ c ∈ s.toList, isPlainChar c = true

instance (s : String) : Decidable (Plain s) :=
  decidable_of_iff (s.toList.all isPlainChar = true) List.all_eq_true

theorem toNat_lt_of_isPlainChar {c : Char} (h : isPlainChar c = true) : c.toNat < 128 := by
  simp only [isPlainChar, Bool.or_eq_true, beq_iff_eq] at h
  rcases h with ((h | rfl) | rfl) | rfl
  · delta Char.isAlphanum Char.isAlpha Char.isUpper Char.isLower Char.isDigit at h
    simp only [Bool.or_eq_true, Bool.and_eq_true, decide_eq_true_eq, UInt32.le_iff_toNat_le] at h
    change c.val.toNat < 128
    rcases h with (h | h) | h <;> exact Nat.lt_of_le_of_lt h.2 (by decide)
  all_goals decide

/-- A plain character separates nothing, makes no dots, and is written as it is. -/
structure StandsForItself (c : Char) : Prop where
  visible : 0x20 < c.toNat
  noMark : c ∉ [':', '/', '\\', '?', '#']
  noDot : c.toLower ∉ ['.', '%']
  inPath : Kept inPathSet c
  inQuery : Kept inSpecialQuerySet c

theorem standsForItself {c : Char} (h : isPlainChar c = true) : StandsForItself c := by
  have hall : ∀ n : Fin 128, isPlainChar (Char.ofNat n) = true →
      0x20 < (Char.ofNat n).toNat ∧ Char.ofNat n ∉ [':', '/', '\\', '?', '#'] ∧
        (Char.ofNat n).toLower ∉ ['.', '%'] ∧ Kept inPathSet (Char.ofNat n) ∧
        Kept inSpecialQuerySet (Char.ofNat n) := by
    unfold Kept
    decide
  have hc := hall ⟨c.toNat, toNat_lt_of_isPlainChar h⟩
  rw [Char.ofNat_toNat] at hc
  obtain ⟨hvisible, hmark, hdot, hpath, hquery⟩ := hc h
  exact ⟨hvisible, hmark, hdot, hpath, hquery⟩

/-- A plain name is written as it is and stands for no directory. -/
theorem Plain.written {name : String} (h : Plain name) : Path.Written name := by
  have hdots : ∀ d ∈ name.toList.map Char.toLower, d ∉ ['.', '%'] := by
    intro d hd
    obtain ⟨c, hc, rfl⟩ := List.mem_map.1 hd
    exact (standsForItself (h c hc)).noDot
  refine ⟨encode_of_kept fun c hc => (standsForItself (h c hc)).inPath, ?_, ?_⟩
  · unfold Path.isDoubleDot
    split
    all_goals first
      | rfl
      | next heq => exact absurd (by decide) (hdots _ (heq ▸ List.mem_cons_self))
  · unfold Path.isSingleDot
    split
    all_goals first
      | rfl
      | next heq => exact absurd (by decide) (hdots _ (heq ▸ List.mem_cons_self))

/-! ## Plain paths -/

/-- Names between slashes, with a query behind them or none. -/
def relativeChars (names : List String) (query : Option String) : List Char :=
  joinAll ['/'] (names.map String.toList) ++ queryChars query

theorem joinAll_append {sep : List Char} {pieces more : List (List Char)} (hpieces : pieces ≠ [])
    (hmore : more ≠ []) :
    joinAll sep (pieces ++ more) = joinAll sep pieces ++ sep ++ joinAll sep more := by
  obtain ⟨first, rest, rfl⟩ := List.exists_cons_of_ne_nil hmore
  induction pieces with
  | nil => exact absurd rfl hpieces
  | cons piece pieces ih =>
    cases pieces with
    | nil => simp [joinAll]
    | cons second pieces =>
      show piece ++ sep ++ joinAll sep (second :: pieces ++ first :: rest) =
        piece ++ sep ++ joinAll sep (second :: pieces) ++ sep ++ joinAll sep (first :: rest)
      rw [ih (List.cons_ne_nil second pieces)]
      simp only [List.append_assoc]

/-- Names may follow names behind one more slash. -/
theorem relativeChars_append {names more : List String} (hnames : names ≠ []) (hmore : more ≠ [])
    (query : Option String) :
    relativeChars (names ++ more) query = relativeChars names none ++
    '/' :: relativeChars more query := by
  have hpieces : names.map String.toList ≠ [] := mt List.map_eq_nil_iff.1 hnames
  have hmore : more.map String.toList ≠ [] := mt List.map_eq_nil_iff.1 hmore
  unfold relativeChars
  rw [List.map_append, joinAll_append hpieces hmore]
  simp [queryChars]

/-- Names and query are plain, and the first name is not empty. -/
structure IsPlainPath (names : List String) (query : Option String) : Prop where
  plainNames : ∀ name ∈ names, Plain name
  plainQuery : ∀ q ∈ query, Plain q
  starting : ∃ first rest, names = first :: rest ∧ first ≠ ""

namespace IsPlainPath

variable {names : List String} {query : Option String}

theorem iff_headD : (∀ name ∈ names, Plain name) ∧ (∀ q ∈ query, Plain q) ∧ names.headD "" ≠ "" ↔
    IsPlainPath names query := by
  constructor
  · rintro ⟨hnames, hquery, hfirst⟩
    cases names with
    | nil => exact absurd rfl hfirst
    | cons first rest => exact ⟨hnames, hquery, first, rest, rfl, hfirst⟩
  · rintro ⟨hnames, hquery, first, rest, rfl, hfirst⟩
    exact ⟨hnames, hquery, hfirst⟩

instance (names : List String) (query : Option String) : Decidable (IsPlainPath names query) :=
  decidable_of_iff _ iff_headD

theorem ne_nil (h : IsPlainPath names query) : names ≠ [] := by
  obtain ⟨first, rest, rfl, -⟩ := h.starting
  exact List.cons_ne_nil first rest

/-- Plain names may follow plain names. -/
theorem append {more : List String} (h : IsPlainPath names none) (hmore : ∀ name ∈ more, Plain name)
    (hquery : ∀ q ∈ query, Plain q) : IsPlainPath (names ++ more) query := by
  obtain ⟨first, rest, rfl, hfirst⟩ := h.starting
  exact ⟨List.forall_mem_append.2 ⟨h.plainNames, hmore⟩, hquery, first, rest ++ more, rfl, hfirst⟩

/-- The text begins with a plain character. -/
theorem starts (h : IsPlainPath names query) :
    ∃ c cs, relativeChars names query = c :: cs ∧ isPlainChar c = true := by
  obtain ⟨first, rest, rfl, hfirst⟩ := h.starting
  have hchars : first.toList ≠ [] := fun hnil => hfirst (String.toList_inj.1 hnil)
  obtain ⟨c, cs, hcs⟩ := List.exists_cons_of_ne_nil hchars
  have hc : isPlainChar c = true :=
    h.plainNames first List.mem_cons_self c (hcs ▸ List.mem_cons_self)
  unfold relativeChars
  rw [List.map_cons, hcs]
  cases rest with
  | nil => exact ⟨c, _, rfl, hc⟩
  | cons second rest => exact ⟨c, _, rfl, hc⟩

/-- The text is made of plain characters and of the marks of a path and a query. -/
theorem of_mem (h : IsPlainPath names query) {c : Char} (hc : c ∈ relativeChars names query) :
    isPlainChar c = true ∨ c = '/' ∨ c = '?' := by
  rcases List.mem_append.1 hc with hc | hc
  · rcases mem_of_mem_joinAll hc with hc | ⟨piece, hpiece, hc⟩
    · exact .inr (.inl (List.mem_singleton.1 hc))
    · obtain ⟨name, hname, rfl⟩ := List.mem_map.1 hpiece
      exact .inl (h.plainNames name hname c hc)
  · cases query with
    | none => cases hc
    | some q =>
      rcases List.mem_cons.1 hc with rfl | hc
      · exact .inr (.inr rfl)
      · exact .inl (h.plainQuery q rfl c hc)

/-- Nothing of the text is left out, and it has no scheme. -/
theorem visible (h : IsPlainPath names query) :
    ∀ c ∈ relativeChars names query, 0x20 < c.toNat ∧ c ≠ ':' := by
  intro c hc
  rcases h.of_mem hc with hplain | rfl | rfl
  · have hitself := standsForItself hplain
    exact ⟨hitself.visible, fun hcolon => hitself.noMark (by rw [hcolon]; decide)⟩
  · decide
  · decide

end IsPlainPath

/-! ## Reading -/

theorem special_of_web {scheme : String} (h : scheme = "http" ∨ scheme = "https") :
    isSpecial scheme = true ∧ scheme ≠ "file" := by
  rcases h with rfl | rfl <;> decide

namespace Parser

/-- Nothing is dropped of a text without controls and spaces. -/
theorem clean_of_visible {cs : List Char} (h : ∀ c ∈ cs, 0x20 < c.toNat) : clean cs = cs := by
  have hend : ∀ c ∈ cs, decide (c.toNat ≤ 0x20) = false :=
    fun c hc => decide_eq_false (Nat.not_le.2 (h c hc))
  have hbreaks : withoutBreaks cs = cs := by
    refine List.filter_eq_self.2 fun c hc => decide_eq_true ⟨?_, ?_, ?_⟩
    all_goals
      rintro rfl
      exact absurd (h _ hc) (by decide)
  unfold clean
  dsimp only
  rw [dropWhile_of_head? fun c hc => hend c (List.mem_of_mem_head? hc), dropSuffixWhile,
    dropWhile_of_head? fun c hc => hend c (List.mem_reverse.1 (List.mem_of_mem_head? hc)),
      List.reverse_reverse,
    hbreaks]

/-- A text without a colon has no scheme. -/
theorem scheme?_of_not_mem {cs : List Char} (h : ':' ∉ cs) : scheme? cs = none := by
  cases cs with
  | nil => rfl
  | cons c cs =>
    rw [scheme?]
    split
    · split
      · next rest heq =>
        have hmem : ':' ∈ cs.dropWhile isSchemeChar := heq ▸ List.mem_cons_self
        exact absurd (List.mem_cons_of_mem c ((List.dropWhile_sublist _).subset hmem)) h
      · rfl
    · rfl

variable {names : List String} {query : Option String}

/-- The text is cut at its slashes, up to its query. -/
theorem pieces_relativeChars (h : IsPlainPath names query) (special : Bool) :
    pieces special (relativeChars names query) = (names.map String.toList, queryChars query) := by
  have hpath : ∀ c ∈ joinAll ['/'] (names.map String.toList),
      (!(c == '?' || c == '#')) = true ∧ (if isSlash special c then '/' else c) = c := by
    intro c hc
    rcases mem_of_mem_joinAll hc with hc | ⟨piece, hpiece, hc⟩
    · rw [List.mem_singleton.1 hc]
      exact ⟨rfl, rfl⟩
    · obtain ⟨name, hname, rfl⟩ := List.mem_map.1 hpiece
      have hmark := (standsForItself (h.plainNames name hname c hc)).noMark
      simp only [List.mem_cons, List.not_mem_nil, or_false, not_or] at hmark
      simp [isSlash, hmark]
  have hquery : ∀ c ∈ (queryChars query).head?, (!(c == '?' || c == '#')) = false := by
    cases query with
    | none => exact nofun
    | some q =>
      rintro c ⟨⟩
      rfl
  obtain ⟨htake, hdrop⟩ := cut_append (fun c hc => (hpath c hc).1) hquery
  have hnames : ∀ piece ∈ names.map String.toList, '/' ∉ piece := by
    intro piece hpiece hslash
    obtain ⟨name, hname, rfl⟩ := List.mem_map.1 hpiece
    exact (standsForItself (h.plainNames name hname '/' hslash)).noMark (by decide)
  have hcut : splitAll '/' (joinAll ['/'] (names.map String.toList)) = names.map String.toList := by
    obtain ⟨first, rest, rfl, -⟩ := h.starting
    rw [List.map_cons] at hnames ⊢
    rw [splitAll_joinAll List.not_mem_nil hnames]
    simp
  unfold pieces relativeChars
  dsimp only
  rw [htake, hdrop, List.map_congr_left fun c hc => (hpath c hc).2, List.map_id', hcut]

/-- A text without a scheme is read as relative. -/
theorem join_of_relative {base : Url} {s : String} (hrootless : base.isRootless = false)
    (hfile : base.scheme ≠ "file") (hscheme : scheme? (clean s.toList) = none) :
    base.join s = relative base (clean s.toList) := by
  unfold join document
  simp only [hscheme]
  split
  · next h =>
    rw [h]
    rfl
  · rw [hrootless, if_neg hfile]
    rfl

variable {base : Url} {segs : List String}

/-- A plain path is read onto segments as it is, and its query is the URL's. -/
theorem onto_plain (h : IsPlainPath names query) (hspecial : isSpecial base.scheme = true)
    (hfile : base.scheme ≠ "file") (before : List String) :
    relative.onto base before (relativeChars names query) =
      .ok { base with path := .segments (before ++ names), query, fragment := none } := by
  have hadd :=
    Path.addPieces_written (fun name hname => (h.plainNames name hname).written) before []
  rw [List.append_nil] at hadd
  have htail : tail base.scheme (queryChars query) = (query, none) := by
    cases query with
    | none => rfl
    | some q =>
      have hq : Plain q := h.plainQuery q rfl
      have hend : ∀ c ∈ q.toList, decide (c ≠ '#') = true := fun c hc =>
        decide_eq_true fun hmark => (standsForItself (hq c hc)).noMark (by rw [hmark]; decide)
      have hkept : ∀ c ∈ q.toList, Kept (querySet base.scheme) c := by
        rw [querySet, if_pos hspecial]
        exact fun c hc => (standsForItself (hq c hc)).inQuery
      obtain ⟨hwhole, hnone⟩ := cut_append hend (show ∀ c ∈ ([] : List Char).head?, _ from nofun)
      rw [List.append_nil] at hwhole hnone
      simp only [tail, queryChars, hwhole, hnone, queryText, encode_of_kept hkept,
        String.ofList_toList]
  unfold relative.onto path
  simp only [hspecial, pieces_relativeChars h, beq_eq_false_iff_ne.2 hfile, hadd, withTail, htail]
  rfl

/-- A plain path is read onto the segments of the address before its last one. -/
theorem relative_plain (h : IsPlainPath names query) :
    relative base (relativeChars names query) =
      relative.onto base (segmentsOf base).dropLast (relativeChars names query) := by
  obtain ⟨c, cs, hcs, hc⟩ := h.starts
  have hmark := (standsForItself hc).noMark
  simp only [List.mem_cons, List.not_mem_nil, or_false, not_or] at hmark
  rw [hcs]
  unfold relative
  split
  · next heq => cases heq
  · next heq => exact absurd (List.cons.inj heq).1 hmark.2.2.2.1
  · next heq => exact absurd (List.cons.inj heq).1 hmark.2.2.2.2
  · next heq =>
    obtain ⟨rfl, rfl⟩ := List.cons.inj heq
    simp [isSlash, hmark]

theorem join_plain (h : IsPlainPath names query) (hpath : base.path = .segments segs)
    (hspecial : isSpecial base.scheme = true) (hfile : base.scheme ≠ "file") :
    base.join (String.ofList (relativeChars names query)) =
      .ok { base with path := .segments (segs.dropLast ++ names), query, fragment := none } := by
  have hclean :
      clean (String.ofList (relativeChars names query)).toList = relativeChars names query := by
    rw [String.toList_ofList, clean_of_visible fun d hd => (h.visible d hd).1]
  have hscheme : scheme? (clean (String.ofList (relativeChars names query)).toList) = none := by
    rw [hclean]
    exact scheme?_of_not_mem fun hcolon => (h.visible _ hcolon).2 rfl
  have hrootless : base.isRootless = false := by rw [isRootless, hpath]
  rw [join_of_relative hrootless hfile hscheme, hclean, relative_plain h,
    onto_plain h hspecial hfile, segmentsOf, hpath]

/-- Whatever the address is, a plain path without a query leads to a URL without one. -/
theorem join_plain_query (h : IsPlainPath names none) (base : Url) :
    Yields (fun u => u.query = none) (base.join (String.ofList (relativeChars names none))) := by
  obtain ⟨c, cs, hcs, hc⟩ := h.starts
  have hclean :
      clean (String.ofList (relativeChars names none)).toList = relativeChars names none := by
    rw [String.toList_ofList, clean_of_visible fun d hd => (h.visible d hd).1]
  have hscheme : scheme? (relativeChars names none) = none :=
    scheme?_of_not_mem fun hcolon => (h.visible _ hcolon).2 rfl
  have hmark := (standsForItself hc).noMark
  simp only [List.mem_cons, List.not_mem_nil, or_false, not_or] at hmark
  have hrelative : Yields (fun u => u.query = none) (relative base (relativeChars names none)) := by
    rw [relative_plain h]
    unfold relative.onto path
    rw [pieces_relativeChars h]
    exact .ok rfl
  have hfile : Yields (fun u => u.query = none) (file (some base) (relativeChars names none)) := by
    have hfromRoot : (fileFromRoot (relativeChars names none)).query = none := by
      unfold fileFromRoot path
      rw [pieces_relativeChars h]
      rfl
    have hfromBase : (fileFromBase base (relativeChars names none)).query = none := by
      unfold fileFromBase
      rw [pieces_relativeChars h]
      rfl
    rw [hcs] at hfromRoot hfromBase ⊢
    simp only [file, isSlash, hmark, beq_iff_eq, Bool.or_eq_true, Bool.true_and, or_false, if_false]
    split
    · exact .ok hfromRoot
    · exact .ok hfromBase
  unfold join document
  simp only [hclean, hscheme]
  split
  · next heq =>
    rw [hcs] at heq
    exact absurd (List.cons.inj heq).1 hmark.2.2.2.2
  · split
    · exact .error _
    · split
      · exact hfile
      · exact hrelative

end Parser

end Url

namespace CallPlan

open Url

variable {base : Url} {segs names : List String} {query : Option String}

/-- A plain path behind a slash is no URL, and it is read without the slash. -/
theorem resolve_eq_join (h : IsPlainPath names query) (base : Url) :
    resolve base (String.ofList ('/' :: relativeChars names query)) =
      (base.join (String.ofList (relativeChars names query))).mapError
        (.badPath (String.ofList ('/' :: relativeChars names query))) := by
  have hclean :
      Parser.clean ('/' :: relativeChars names query) = '/' :: relativeChars names query := by
    refine Parser.clean_of_visible fun d hd => ?_
    rcases List.mem_cons.1 hd with rfl | hd
    · decide
    · exact (h.visible d hd).1
  have hnoUrl : Url.parse (String.ofList ('/' :: relativeChars names query)) =
      .error .relativeWithoutBase := by
    unfold Url.parse Parser.document
    rw [String.toList_ofList, hclean]
    rfl
  have hslash :
      ('/' :: relativeChars names query).dropWhile (· == '/') = relativeChars names query := by
    obtain ⟨c, cs, hcs, hc⟩ := h.starts
    have hmark := (standsForItself hc).noMark
    simp only [List.mem_cons, List.not_mem_nil, or_false, not_or] at hmark
    rw [hcs]
    simp [hmark]
  unfold resolve
  rw [hnoUrl, String.toList_ofList, hslash]

/-- A plain path leads below the directories of the address. -/
theorem resolve_plain (h : IsPlainPath names query) (hpath : base.path = .segments segs)
    (hwritten : ∀ seg ∈ segs, Path.Written seg) (hspecial : isSpecial base.scheme = true)
    (hfile : base.scheme ≠ "file") :
    resolve base.asDirectory (String.ofList ('/' :: relativeChars names query)) =
      .ok { base.below names with query } := by
  have hdirectory : base.asDirectory.path = .segments (Path.directories segs ++ [""]) := by
    rw [asDirectory, hpath]
    exact Path.asDirectory_written hwritten hfile
  have hpage : base.asDirectory.join (String.ofList (relativeChars names query)) =
      .ok { base.below names with query } := by
    rw [Parser.join_plain h hdirectory hspecial hfile, List.dropLast_concat]
    rw [below, Parser.segmentsOf, hpath]
    rfl
  rw [resolve_eq_join h, hpage]
  rfl

end CallPlan

end SigningConsole
