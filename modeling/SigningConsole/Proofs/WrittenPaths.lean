import SigningConsole.Url.Parser
/-!
Paths as reading leaves them.

A segment of a path is encoded, and it stands for no directory by dots. `Written` says this of a
segment; reading a written segment changes nothing, because encoding is idempotent and no encoding
makes dots of other characters. What is read behind a scheme ends with a query and a fragment
(`afterSlashes_yields`, `notSpecial_yields`, `file_yields`), so that a property of the URL need only
be shown for what stands before these. `segments_of_parse`: a URL of a special scheme other than
`file` has a path of written segments.
-/

namespace SigningConsole.Url

open Text

/-! ## Encoding -/

section Encoding

variable {reserved : Char → Bool}

/-- The character is written as it is. -/
def Kept (reserved : Char → Bool) (c : Char) : Prop := c.toNat < 0x80 ∧ reserved c = false

theorem encodeChar_of_kept {c : Char} (h : Kept reserved c) : encodeChar reserved c = [c] :=
  if_pos ⟨h.1, by rw [h.2]; rfl⟩

theorem encodeChar_of_not_kept {c : Char} (h : ¬ Kept reserved c) :
    encodeChar reserved c = (String.utf8EncodeChar c).flatMap escapeByte :=
  if_neg fun hc => h ⟨hc.1, by simpa using hc.2⟩

theorem encode_of_kept {cs : List Char} (h : ∀ c ∈ cs, Kept reserved c) :
    encode reserved cs = cs := by
  induction cs with
  | nil => rfl
  | cons c cs ih =>
    have htail := ih fun d hd => h d (List.mem_cons_of_mem _ hd)
    unfold encode at htail ⊢
    rw [List.flatMap_cons, encodeChar_of_kept (h c List.mem_cons_self), htail]
    rfl

/-- The characters of which escapes are made are written as they are. -/
def KeepsEscapes (reserved : Char → Bool) : Prop :=
  Kept reserved '%' ∧ ∀ d : Fin 16, Kept reserved (hexUpper d)

/-- An encoded text is made of characters that are kept and of escapes. -/
theorem mem_encode {cs : List Char} {c : Char} (hc : c ∈ encode reserved cs) :
    (c ∈ cs ∧ Kept reserved c) ∨ c = '%' ∨ ∃ d : Fin 16, c = hexUpper d := by
  obtain ⟨d, hmem, hd⟩ := List.mem_flatMap.1 hc
  by_cases hkept : Kept reserved d
  · rw [encodeChar_of_kept hkept] at hd
    rw [List.mem_singleton.1 hd]
    exact .inl ⟨hmem, hkept⟩
  · rw [encodeChar_of_not_kept hkept] at hd
    obtain ⟨b, -, hb⟩ := List.mem_flatMap.1 hd
    have hlt : b.toNat < 256 := b.toNat_lt
    rcases List.mem_cons.1 hb with rfl | hb
    · exact .inr (.inl rfl)
    · rcases List.mem_cons.1 hb with rfl | hb
      · exact .inr (.inr ⟨⟨b.toNat / 16, by omega⟩, rfl⟩)
      · exact .inr (.inr ⟨⟨b.toNat % 16, by omega⟩, List.mem_singleton.1 hb⟩)

/-- What is encoded under one set is written with characters that another set keeps, if that
set keeps no fewer. -/
theorem kept_of_mem_encode_of_imp {other : Char → Bool} (hr : KeepsEscapes other)
    (hother : ∀ c, Kept reserved c → Kept other c) {cs : List Char} {c : Char}
    (hc : c ∈ encode reserved cs) :
    Kept other c := by
  rcases mem_encode hc with ⟨-, hkept⟩ | rfl | ⟨d, rfl⟩
  · exact hother c hkept
  · exact hr.1
  · exact hr.2 d

theorem kept_of_mem_encode (hr : KeepsEscapes reserved) {cs : List Char} {c : Char}
    (hc : c ∈ encode reserved cs) :
    Kept reserved c :=
  kept_of_mem_encode_of_imp hr (fun _ h => h) hc

theorem encode_encode (hr : KeepsEscapes reserved) (cs : List Char) :
    encode reserved (encode reserved cs) = encode reserved cs :=
  encode_of_kept fun _ hc => kept_of_mem_encode hr hc

theorem keepsEscapes_inPathSet : KeepsEscapes inPathSet := by
  unfold KeepsEscapes Kept
  decide

end Encoding

/-! ## Dots -/

/-- Whether every escape in a text is that of a dot. -/
def escapesDots : List Char → Bool
  | [] => true
  | c :: cs => (c != '%' || ['2', 'e'].isPrefixOf cs) && escapesDots cs

theorem escapesDots_tail {c : Char} {cs : List Char} (h : escapesDots (c :: cs) = true) :
    escapesDots cs = true :=
  (Bool.and_eq_true_iff.1 h).2

/-- The bytes of a character that is not written as it is begin with one that is not that of a
dot. -/
theorem utf8EncodeChar_of_not_kept {c : Char} (h : ¬ Kept inPathSet c) :
    ∃ b bs, String.utf8EncodeChar c = b :: bs ∧ b.toNat ≠ 0x2E := by
  have hdot : c.val.toNat ≠ 0x2E := by
    intro hc
    have heq : c = '.' := Char.ext (UInt32.toNat_inj.1 hc)
    rw [heq] at h
    exact h (by unfold Kept; decide)
  unfold String.utf8EncodeChar
  generalize c.val.toNat = v at hdot
  dsimp only
  split
  · exact ⟨_, [], rfl, by rw [UInt8.toNat_ofNat']; omega⟩
  · split
    · exact ⟨_, _, rfl, by rw [UInt8.toNat_ofNat']; omega⟩
    · split
      · exact ⟨_, _, rfl, by rw [UInt8.toNat_ofNat']; omega⟩
      · exact ⟨_, _, rfl, by rw [UInt8.toNat_ofNat']; omega⟩

/-- The escape of another byte is not that of a dot. -/
theorem escapeByte_of_ne {b : UInt8} (h : b.toNat ≠ 0x2E) (cs : List Char) :
    escapesDots ((escapeByte b ++ cs).map Char.toLower) = false := by
  have hdigits : ∀ m n : Fin 16, (hexUpper m).toLower = '2' → (hexUpper n).toLower = 'e' → m = 2 ∧
      n = 14 := by decide
  have hlt : b.toNat < 256 := b.toNat_lt
  rw [← Bool.not_eq_true]
  intro hescapes
  have hfirst :
      ('2' == (hexUpper (b.toNat / 16)).toLower &&
        ('e' == (hexUpper (b.toNat % 16)).toLower && true)) =
      true := (Bool.and_eq_true_iff.1 hescapes).1
  simp only [Bool.and_true, Bool.and_eq_true, beq_iff_eq] at hfirst
  obtain ⟨hm, hn⟩ :=
    hdigits ⟨b.toNat / 16, by omega⟩ ⟨b.toNat % 16, by omega⟩ hfirst.1.symm hfirst.2.symm
  simp only [Fin.ext_iff] at hm hn
  change b.toNat / 16 = 2 at hm
  change b.toNat % 16 = 14 at hn
  omega

/-- A text that has dots for its only escapes was not encoded. -/
theorem encode_of_escapesDots {cs : List Char}
    (h : escapesDots ((encode inPathSet cs).map Char.toLower) = true) :
    encode inPathSet cs = cs := by
  induction cs with
  | nil => rfl
  | cons c cs ih =>
    have hcons : encode inPathSet (c :: cs) = encodeChar inPathSet c ++ encode inPathSet cs :=
      List.flatMap_cons
    rw [hcons] at h ⊢
    by_cases hc : Kept inPathSet c
    · rw [encodeChar_of_kept hc] at h ⊢
      rw [List.singleton_append] at h ⊢
      rw [List.map_cons] at h
      rw [ih (escapesDots_tail h)]
    · obtain ⟨b, bs, hbs, hb⟩ := utf8EncodeChar_of_not_kept hc
      rw [encodeChar_of_not_kept hc, hbs, List.flatMap_cons, List.append_assoc,
        escapeByte_of_ne hb] at h
      cases h

namespace Path

theorem escapesDots_of_isSingleDot {cs : List Char} (h : isSingleDot cs = true) :
    escapesDots (cs.map Char.toLower) = true := by
  unfold isSingleDot at h
  split at h <;> first | (next hcs => rw [hcs]; decide) | cases h

theorem escapesDots_of_isDoubleDot {cs : List Char} (h : isDoubleDot cs = true) :
    escapesDots (cs.map Char.toLower) = true := by
  unfold isDoubleDot at h
  split at h <;> first | (next hcs => rw [hcs]; decide) | cases h

/-! ## Written segments -/

/-- A segment that reading a path leaves: it is encoded, and stands for no directory. -/
structure Written (seg : String) : Prop where
  encoded : encode inPathSet seg.toList = seg.toList
  notDoubleDot : isDoubleDot seg.toList = false
  notSingleDot : isSingleDot seg.toList = false

theorem written_empty : Written "" := ⟨rfl, rfl, rfl⟩

/-- Encoding a piece that stands for no directory gives a written segment. -/
theorem written_encode {piece : List Char} (hd : isDoubleDot piece = false)
    (hs : isSingleDot piece = false) :
    Written (String.ofList (encode inPathSet piece)) := by
  refine ⟨?_, ?_, ?_⟩ <;> rw [String.toList_ofList]
  · exact encode_encode keepsEscapes_inPathSet piece
  · rw [← Bool.not_eq_true]
    intro h
    rw [encode_of_escapesDots (escapesDots_of_isDoubleDot h), hd] at h
    cases h
  · rw [← Bool.not_eq_true]
    intro h
    rw [encode_of_escapesDots (escapesDots_of_isSingleDot h), hs] at h
    cases h

theorem mem_of_mem_parent {segs : List String} {seg : String} (h : seg ∈ parent segs) :
    seg ∈ segs := by
  unfold parent at h
  split at h
  · exact h
  · exact List.dropLast_subset segs h

/-- What holds of the empty segment and of every piece that is encoded holds of all segments. -/
theorem forall_mem_addPieces {P : String → Prop} (hempty : P "") {segs : List String}
    (hsegs : ∀ seg ∈ segs, P seg) {pieces : List (List Char)}
    (hpieces : ∀ piece ∈ pieces, isDoubleDot piece = false → isSingleDot piece = false →
      P (String.ofList (encode inPathSet piece))) : ∀ seg ∈ addPieces false segs pieces, P seg := by
  induction pieces generalizing segs with
  | nil => exact hsegs
  | cons piece pieces ih =>
    have hclose : ∀ segs : List String, (∀ seg ∈ segs, P seg) →
        ∀ seg ∈ if pieces.isEmpty then segs ++ [""] else segs, P seg := by
      intro segs hsegs seg hseg
      split at hseg
      · rcases List.mem_append.1 hseg with hseg | hseg
        · exact hsegs seg hseg
        · rw [List.mem_singleton.1 hseg]
          exact hempty
      · exact hsegs seg hseg
    refine ih ?_ fun piece' hpiece' => hpieces piece' (List.mem_cons_of_mem _ hpiece')
    split
    · exact hclose _ fun seg hseg => hsegs seg (mem_of_mem_parent hseg)
    · next hdouble =>
      split
      · exact hclose _ hsegs
      · next hsingle =>
        intro seg hseg
        rcases List.mem_append.1 hseg with hseg | hseg
        · exact hsegs seg hseg
        · rw [List.mem_singleton.1 hseg]
          exact hpieces piece List.mem_cons_self (Bool.eq_false_iff.2 hdouble)
            (Bool.eq_false_iff.2 hsingle)

/-- The last piece always leaves a segment. -/
theorem addPieces_ne_nil {segs : List String} {pieces : List (List Char)}
    (h : segs ≠ [] ∨ pieces ≠ []) :
    addPieces false segs pieces ≠ [] := by
  induction pieces generalizing segs with
  | nil => exact h.resolve_right fun hne => hne rfl
  | cons piece pieces ih =>
    cases pieces with
    | cons next pieces => exact ih (.inr (List.cons_ne_nil next pieces))
    | nil =>
      refine ih (.inl ?_)
      split
      · exact List.append_ne_nil_of_right_ne_nil _ (List.cons_ne_nil "" [])
      · split <;> exact List.append_ne_nil_of_right_ne_nil _ (List.cons_ne_nil _ [])

/-- The directories that segments lead through: all of them but an empty last one. -/
def directories (segs : List String) : List String :=
  if segs.getLast? = some "" then segs.dropLast else segs

/-- Written segments are put after others as they are. -/
theorem addPieces_written {ws : List String} (hws : ∀ w ∈ ws, Written w) (segs : List String)
    (pieces : List (List Char)) :
    addPieces false segs (ws.map String.toList ++ pieces) = addPieces false
      (segs ++ ws) pieces := by
  induction ws generalizing segs with
  | nil => rw [List.append_nil]; rfl
  | cons w ws ih =>
    obtain ⟨hencoded, hdouble, hsingle⟩ := hws w List.mem_cons_self
    rw [List.map_cons, List.cons_append, addPieces]
    simp only [hdouble, hsingle, Bool.false_eq_true, if_false, segment, Bool.false_and, hencoded,
      String.ofList_toList]
    rw [ih (fun w hw => hws w (List.mem_cons_of_mem _ hw)), List.append_assoc,
      List.singleton_append]

/-- A path with a slash at its end: the segments before it are the directories. -/
theorem asDirectory_written {ws : List String} (hws : ∀ w ∈ ws, Written w) {scheme : String}
    (hscheme : scheme ≠ "file") :
    asDirectory scheme (.segments ws) = .segments (directories ws ++ [""]) := by
  by_cases hlast : ws.getLast? = some ""
  · obtain ⟨dirs, rfl⟩ := List.getLast?_eq_some_iff.1 hlast
    simp [asDirectory, directories]
  · simp only [asDirectory, directories, if_neg hlast, beq_eq_false_iff_ne.2 hscheme,
      addPieces_written hws]
    rfl

end Path

/-! ## Reading -/

namespace Parser

variable {scheme : String} {cs : List Char} {u : Url}

section Segments

variable {P : String → Prop} (hempty : P "")
  (hpieces : ∀ piece, '/' ∉ piece → Path.isDoubleDot piece = false →
    Path.isSingleDot piece = false →
    P (String.ofList (encode inPathSet piece)))
include hempty hpieces

/-- A path has a segment, and each of them is empty or an encoded piece that holds no slash. -/
theorem path_segments (hfile : scheme ≠ "file") :
    (path scheme [] cs).1 ≠ [] ∧ ∀ seg ∈ (path scheme [] cs).1, P seg := by
  unfold path
  simp only [beq_eq_false_iff_ne.2 hfile]
  exact ⟨Path.addPieces_ne_nil (.inr (splitAll_ne_nil _ _)),
    Path.forall_mem_addPieces hempty (fun _ h => absurd h List.not_mem_nil) fun piece hpiece =>
      hpieces piece (not_mem_of_mem_splitAll hpiece)⟩

theorem pathAfterAuthority_segments (hspecial : isSpecial scheme = true) (hfile : scheme ≠ "file") :
    (pathAfterAuthority scheme cs).1 ≠ [] ∧ ∀ seg ∈ (pathAfterAuthority scheme cs).1, P seg := by
  unfold pathAfterAuthority
  cases cs with
  | nil =>
    rw [hspecial]
    exact ⟨List.cons_ne_nil _ _, fun seg hseg => by rw [List.mem_singleton.1 hseg]; exact hempty⟩
  | cons c rest =>
    simp only [hspecial, Bool.not_true, Bool.false_and, Bool.false_eq_true, if_false]
    split
    · exact path_segments hempty hpieces hfile
    · exact path_segments hempty hpieces hfile

end Segments

/-- A URL that is read has the property. -/
def Yields (P : Url → Prop) (x : Except Fault Url) : Prop := ∀ u, x = .ok u → P u

section Yields

variable {P : Url → Prop}

theorem Yields.ok (h : P u) : Yields P (.ok u) := fun _ hu => by cases hu; exact h

theorem Yields.error (e : Fault) : Yields P (.error e) := fun _ hu => nomatch hu

theorem Yields.bind {α : Type} {x : Except Fault α} {k : α → Except Fault Url}
    (hk : ∀ a, Yields P (k a)) :
    Yields P (x >>= k) := by
  cases x with
  | ok a => exact hk a
  | error e => exact .error e

/-- What is read behind two slashes is the tail of a URL of the scheme, with a path
behind its authority. -/
theorem afterSlashes_yields
    (htail : ∀ u cs rest, u.scheme = scheme →
      u.path = .segments (pathAfterAuthority scheme rest).1 →
      P (withTail u cs)) :
    Yields P (afterSlashes scheme cs) := by
  unfold afterSlashes
  refine .bind fun r => ?_
  obtain ⟨⟨username, password⟩, rest⟩ := r
  refine .bind fun r => ?_
  obtain ⟨⟨host, port⟩, rest⟩ := r
  dsimp only
  split
  · exact .error _
  · exact .ok (htail _ _ rest rfl rfl)

theorem notSpecial_yields (htail : ∀ u cs, u.scheme = scheme → P (withTail u cs)) :
    Yields P (notSpecial scheme cs) := by
  unfold notSpecial
  dsimp only
  split
  · exact afterSlashes_yields fun u cs _ hscheme _ => htail u cs hscheme
  · exact .ok (htail _ _ rfl)
  · exact .ok (htail _ _ rfl)

variable (hfile : ∀ u cs, u.scheme = "file" → P (withTail u cs))
  (hroot : P (fileUrl (.name "") [""]))
include hfile hroot

theorem afterFileSlashes_yields : Yields P (afterFileSlashes cs) := by
  unfold afterFileSlashes
  dsimp only
  split
  · exact .ok (hfile _ _ rfl)
  · -- whether a host stands there or not, what follows it is read in the same way
    split
    all_goals
      refine .bind fun host => ?_
      split
      · split
        · exact .ok (hfile _ _ rfl)
        · exact .ok hroot
      · exact .ok (hfile _ _ rfl)

/-- A file URL is the tail of one, or the base with another fragment. -/
theorem file_yields {base : Option Url}
    (hbase : ∀ b, base = some b → b.scheme = "file" ∧ ∀ fragment, P { b with fragment }) :
    Yields P (file base cs) := by
  have hfromRoot : ∀ cs, P (fileFromRoot cs) := fun cs => hfile _ _ rfl
  have hfromBaseRoot : ∀ cs, P (fileFromBaseRoot base cs) := fun cs => by
    unfold fileFromBaseRoot
    exact hfile _ _ rfl
  unfold file
  split
  · cases base with
    | none => exact .ok (hfromRoot [])
    | some b => exact .ok ((hbase b rfl).2 none)
  · split
    · split
      · exact .ok (hfromBaseRoot _)
      · split
        · exact afterFileSlashes_yields hfile hroot
        · exact .ok (hfromBaseRoot _)
    · split
      · exact .ok (hfromRoot _)
      · next b =>
        obtain ⟨hscheme, hfragment⟩ := hbase b rfl
        split
        · exact .ok (hfile b _ hscheme)
        · split
          · exact .ok (hfragment _)
          · split
            · exact .ok (hfromRoot _)
            · exact .ok (hfile _ _ hscheme)

end Yields

/-- The path of a URL of a special scheme other than `file` is what was read behind its
authority. -/
theorem path_of_parse {s : String} {u : Url} (h : Url.parse s = .ok u)
    (hspecial : isSpecial u.scheme = true) (hfile : u.scheme ≠ "file") :
    ∃ rest, u.path = .segments (pathAfterAuthority u.scheme rest).1 := by
  unfold Url.parse document at h
  dsimp only at h
  split at h
  · next scheme rest _ =>
    unfold afterScheme at h
    split at h
    · have hread : Yields (fun u => u.scheme = "file") (file none rest) := by
        refine file_yields (fun _ _ hu => hu) ?_ fun b hb => ?_
        · rfl
        · cases hb
      exact absurd (hread u h) hfile
    · split at h
      · have hread :
            Yields (fun u => ∃ rest, u.path = .segments (pathAfterAuthority u.scheme rest).1)
              (afterSlashes scheme (rest.drop (rest.takeWhile (isSlash true)).length)) := by
          refine afterSlashes_yields fun v cs rest hscheme hpath => ⟨rest, ?_⟩
          show v.path = .segments (pathAfterAuthority v.scheme rest).1
          rw [hpath, hscheme]
        exact hread u h
      · next hspecial' =>
        have hread : Yields (fun u => u.scheme = scheme) (notSpecial scheme rest) :=
          notSpecial_yields fun _ _ hu => hu
        rw [hread u h] at hspecial
        exact absurd hspecial hspecial'
  · cases h

/-- A URL of a special scheme other than `file` has a path of written segments. -/
theorem segments_of_parse {s : String} {u : Url} (h : Url.parse s = .ok u)
    (hspecial : isSpecial u.scheme = true) (hfile : u.scheme ≠ "file") :
    ∃ segs, u.path = .segments segs ∧ segs ≠ [] ∧ ∀ seg ∈ segs, Path.Written seg := by
  obtain ⟨rest, hpath⟩ := path_of_parse h hspecial hfile
  exact ⟨_, hpath, pathAfterAuthority_segments Path.written_empty (fun _ _ => Path.written_encode)
    hspecial hfile⟩

/-- No slash stands inside a segment. -/
theorem slash_not_mem_of_parse {s : String} {u : Url} (h : Url.parse s = .ok u)
    (hspecial : isSpecial u.scheme = true) (hfile : u.scheme ≠ "file") :
    ∀ seg ∈ segmentsOf u, '/' ∉ seg.toList := by
  obtain ⟨rest, hpath⟩ := path_of_parse h hspecial hfile
  have hpieces : ∀ piece : List Char, '/' ∉ piece →
      '/' ∉ (String.ofList (encode inPathSet piece)).toList := by
    intro piece hpiece hslash
    have hescape : ∀ d : Fin 16, '/' ≠ hexUpper d := by decide
    rw [String.toList_ofList] at hslash
    rcases mem_encode hslash with ⟨hmem, -⟩ | hpercent | ⟨d, hd⟩
    · exact hpiece hmem
    · exact absurd hpercent (by decide)
    · exact hescape d hd
  rw [segmentsOf, hpath]
  exact (pathAfterAuthority_segments List.not_mem_nil (fun piece hpiece _ _ => hpieces piece hpiece)
    hspecial hfile).2

end Parser

end SigningConsole.Url
