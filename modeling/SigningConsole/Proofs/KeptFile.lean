import SigningConsole.Files
/-!
A file that is written, read and taken away at one path.

Making directories leaves everything that is there in place, and makes what later turns find made
already. As long as no directory goes away, a path that has been followed leads to the same location
again. So once a path can be served (`Files.Serves`), it stays so, and `Files.Keeps` says what is
kept there: nothing, or the bytes that were last written.
-/

namespace SigningConsole.Files

variable {fs fs' fs'' made : Files} {path name : String} {location start : List String}
  {names : List String}

/-! ## Nodes -/

/-- Whether names are followed from the location without asking what stands there. -/
def IsOrigin (l : List String) : Prop := l = [] ∨ l = root

instance (l : List String) : Decidable (IsOrigin l) :=
  inferInstanceAs (Decidable (l = [] ∨ l = root))

theorem node?_origin {l : List String} (h : IsOrigin l) : node? fs l = some .directory := if_pos h

theorem node?_eq {l : List String} (h : ¬ IsOrigin l) : node? fs l = fs.get? (written l) := if_neg h

/-- What is no directory stands at no origin. -/
theorem not_origin (h : node? fs location ≠ some .directory) : ¬ IsOrigin location :=
  fun ho => h (node?_origin ho)

theorem node?_insert {l : List String} (node : FileNode) (h : ¬ IsOrigin l) :
    node? (fs.insert (written location) node) l = if written l = written location then some node
    else node? fs l := by
  rw [node?_eq h, node?_eq h, StringMap.get?_insert]

theorem node?_erase {l : List String} (h : ¬ IsOrigin l) :
    node? (fs.erase (written location)) l = if written l = written location then
      none else node? fs l := by
  rw [node?_eq h, node?_eq h, StringMap.get?_erase]

/-- Locations that hold different things are written differently. -/
theorem written_ne {l : List String} {node : FileNode} (hl : ¬ IsOrigin l)
    (hlocation : ¬ IsOrigin location) (hn : node? fs l = some node)
    (h : node? fs location ≠ some node) : written l ≠ written location := by
  intro hw
  rw [node?_eq hl, hw] at hn
  rw [node?_eq hlocation, hn] at h
  exact h rfl

/-! ## What stays in place -/

/-- Every directory is still one. -/
def KeepsDirectories (fs fs' : Files) : Prop :=
  ∀ l, node? fs l = some .directory → node? fs' l = some .directory

/-- Everything is still there. -/
def Grows (fs fs' : Files) : Prop := ∀ l node, node? fs l = some node → node? fs' l = some node

theorem Grows.refl (fs : Files) : Grows fs fs := fun _ _ h => h

theorem Grows.trans (h : Grows fs fs') (h' : Grows fs' fs'') : Grows fs fs'' :=
  fun l node hl => h' l node (h l node hl)

theorem grows_insert {node : FileNode} (h : node? fs location = none) :
    Grows fs (fs.insert (written location) node) := by
  intro l node' hl
  have hlocation : ¬ IsOrigin location := not_origin (by rw [h]; exact nofun)
  by_cases ho : IsOrigin l
  · rw [node?_origin ho] at hl ⊢
    exact hl
  · have hw := written_ne ho hlocation hl (by rw [h]; exact nofun)
    rw [node?_insert node ho, if_neg hw]
    exact hl

theorem keepsDirectories_insert {node : FileNode} (h : node? fs location ≠ some .directory) :
    KeepsDirectories fs (fs.insert (written location) node) := by
  intro l hl
  by_cases ho : IsOrigin l
  · exact node?_origin ho
  · rw [node?_insert node ho, if_neg (written_ne ho (not_origin h) hl h)]
    exact hl

theorem keepsDirectories_erase (h : node? fs location ≠ some .directory) :
    KeepsDirectories fs (fs.erase (written location)) := by
  intro l hl
  by_cases ho : IsOrigin l
  · exact node?_origin ho
  · rw [node?_erase ho, if_neg (written_ne ho (not_origin h) hl h)]
    exact hl

/-! ## Following names -/

/-- Where a name leads to from a directory. -/
def next (start : List String) (name : String) : Except FileError (List String) :=
  if name = "." then .ok start
  else if name = ".." then .ok (above start)
  else if isTooLong name then .error .invalidFilename
  else .ok (start ++ [name])

theorem follow_directory (h : node? fs start = some .directory) :
    follow fs start (name :: names) = (next start name).bind fun l => follow fs l names := by
  rw [follow, h]
  unfold next
  dsimp only
  split
  · rfl
  · split
    · rfl
    · split <;> rfl

theorem follow_cons_ok (h : follow fs start (name :: names) = .ok location) :
    node? fs start = some .directory ∧ ∃ l, next start name = .ok l ∧
      follow fs l names = .ok location := by
  have hd : node? fs start = some .directory := by
    rw [follow] at h
    split at h
    · assumption
    · cases h
    · cases h
  refine ⟨hd, ?_⟩
  rw [follow_directory hd] at h
  cases hn : next start name with
  | error e =>
    rw [hn] at h
    cases h
  | ok l =>
    rw [hn] at h
    exact ⟨l, rfl, h⟩

/-- Names lead to the same location as long as no directory goes away. -/
theorem follow_of_keeps (hk : KeepsDirectories fs fs') (h : follow fs start names = .ok location) :
    follow fs' start names = .ok location := by
  induction names generalizing start with
  | nil => exact h
  | cons name names ih =>
    obtain ⟨hd, l, hl, hf⟩ := follow_cons_ok h
    rw [follow_directory (hk start hd), hl]
    exact ih hf

/-- Before directories are made, names lead where they will lead, or to nothing. -/
theorem follow_of_grows (hg : Grows fs fs') (h : follow fs' start names = .ok location) :
    follow fs start names = .ok location ∨ follow fs start names = .error .notFound := by
  induction names generalizing start with
  | nil => exact .inl h
  | cons name names ih =>
    obtain ⟨hd, l, hl, hf⟩ := follow_cons_ok h
    cases hn : node? fs start with
    | none =>
      rw [follow, hn]
      exact .inr rfl
    | some node =>
      have hnode := hg start node hn
      rw [hd] at hnode
      cases hnode
      rw [follow_directory hn, hl]
      exact ih hf

/-! ## Paths -/

theorem locate_ok_iff :
    locate fs path = .ok location ↔
      (path.isEmpty = false ∧ badPath? path = none) ∧
      follow fs (origin path) (trail path) = .ok location := by
  unfold locate
  cases path.isEmpty with
  | true => simp
  | false =>
    cases badPath? path with
    | none => simp
    | some e => simp

theorem locate_of_keeps (hk : KeepsDirectories fs fs') (h : locate fs path = .ok location) :
    locate fs' path = .ok location := by
  obtain ⟨hpath, hf⟩ := locate_ok_iff.1 h
  exact locate_ok_iff.2 ⟨hpath, follow_of_keeps hk hf⟩

theorem locate_of_grows (hg : Grows fs fs') (h : locate fs' path = .ok location) :
    locate fs path = .ok location ∨ locate fs path = .error .notFound := by
  obtain ⟨hpath, hf⟩ := locate_ok_iff.1 h
  have hlocate : locate fs path = follow fs (origin path) (trail path) := by
    unfold locate
    rw [hpath.1, hpath.2]
    rfl
  rw [hlocate]
  exact follow_of_grows hg hf

theorem lookup_of_locate (h : locate fs path = .ok location) :
    lookup fs path =
      (match node? fs location with | some node => .ok node | none => .error .notFound) := by
  unfold lookup
  rw [h]
  rfl

/-! ## Making directories -/

/-- Making directories adds to what is there, and finds them made wherever they still are. -/
theorem makeFrom_spec (h : makeFrom fs start names = .ok fs') :
    Grows fs fs' ∧ ∀ fs'', KeepsDirectories fs' fs'' → makeFrom fs'' start names = .ok fs'' := by
  induction names generalizing fs start with
  | nil =>
    cases h
    exact ⟨.refl _, fun _ _ => rfl⟩
  | cons name names ih =>
    rw [makeFrom] at h
    split at h
    · cases h
    · rename_i hlong
      generalize hnext : (if name = ".." then above start else start ++ [name]) = l at h
      have hagain : ∀ fs'', makeFrom fs'' l names = .ok fs'' → node? fs'' l = some .directory →
          makeFrom fs'' start (name :: names) = .ok fs'' := by
        intro fs'' hm hd
        rw [makeFrom, if_neg hlong, hnext, hd]
        exact hm
      split at h
      · rename_i hd
        obtain ⟨hg, hm⟩ := ih h
        exact ⟨hg, fun fs'' hk => hagain fs'' (hm fs'' hk) (hk l (hg l _ hd))⟩
      · cases h
      · rename_i hn
        obtain ⟨hg, hm⟩ := ih h
        have hl : ¬ IsOrigin l := not_origin (by rw [hn]; exact nofun)
        have hd : node? (fs.insert (written l) .directory) l = some .directory := by
          rw [node?_insert _ hl, if_pos rfl]
        exact ⟨(grows_insert hn).trans hg, fun fs'' hk => hagain fs'' (hm fs'' hk)
          (hk l (hg l _ hd))⟩

theorem makeDirectories_spec (h : makeDirectories fs path = .ok fs') :
    Grows fs fs' ∧ ∀ fs'', KeepsDirectories fs' fs'' → makeDirectories fs'' path = .ok fs'' := by
  unfold makeDirectories at h ⊢
  split at h
  · cases h
  · exact makeFrom_spec h

/-! ## One file -/

/-- The directories that lead to a path can be made, and a file can be written there. -/
def Serves (fs : Files) (path : String) : Prop :=
  ∃ made written, fs.makeDirectories (parentPath path) = .ok made ∧ made.write path [] = .ok written

/-- Once directories are made, a path leads to a location where a file can be. -/
structure ServesAt (fs : Files) (path : String) (location : List String) (made : Files) : Prop where
  makes : fs.makeDirectories (parentPath path) = .ok made
  located : made.locate path = .ok location
  free : node? made location ≠ some .directory

/-- What is kept at a path: nothing, or the bytes that were last written. -/
inductive Keeps (path : String) : Files → Option (List UInt8) → Prop where
  | absent {files made : Files} {location : List String} (h : ServesAt files path location made)
      (hl : files.lookup path = .error .notFound) : Keeps path files none
  | present {files : Files} {location : List String} {bytes : List UInt8} {ownerOnly : Bool}
      (h : ServesAt files path location files)
      (hn : node? files location = some (.file bytes ownerOnly)) :
      Keeps path files (some bytes)

theorem write_eq (h : fs.locate path = .ok location) (content : List UInt8) :
    fs.write path content =
      match node? fs location with
      | some .directory => .error .isADirectory
      | some (.file _ ownerOnly) => .ok (fs.insert (written location) (.file content ownerOnly))
      | none => .ok (fs.insert (written location) (.file content false)) := by
  have hlacks : fs.lacksDirectory path = false := by
    unfold lacksDirectory
    rw [h]
    simp [Except.isOk, Except.toBool]
  unfold write
  rw [hlacks, h]
  rfl

theorem restrict_eq (h : fs.locate path = .ok location) :
    fs.restrict path =
      match node? fs location with
      | some (.file content _) => .ok (fs.insert (written location) (.file content true))
      | some .directory => .ok fs
      | none => .error .notFound := by
  unfold restrict
  rw [h]
  rfl

theorem remove_eq (h : fs.locate path = .ok location) :
    fs.remove path =
      match node? fs location with
      | some (.file _ _) => .ok (fs.erase (written location))
      | some .directory => .error .isADirectory
      | none => .error .notFound := by
  unfold remove
  rw [h]
  rfl

theorem Serves.servesAt (h : fs.Serves path) : ∃ location made, ServesAt fs path location made := by
  obtain ⟨made, written, hmade, hwrite⟩ := h
  cases hlocate : made.locate path with
  | error e =>
    unfold write at hwrite
    rw [hlocate] at hwrite
    split at hwrite <;> cases hwrite
  | ok location =>
    refine ⟨location, made, hmade, hlocate, fun hd => ?_⟩
    rw [write_eq hlocate, hd] at hwrite
    cases hwrite

/-- Where nothing is, nothing is kept. -/
theorem Serves.absent (h : fs.Serves path) (ha : fs.holds path = false) : Keeps path fs none := by
  obtain ⟨location, made, hat⟩ := h.servesAt
  refine .absent hat ?_
  obtain ⟨hgrows, -⟩ := makeDirectories_spec hat.makes
  unfold holds at ha
  obtain hl | hl := locate_of_grows hgrows hat.located
  · rw [lookup_of_locate hl] at ha ⊢
    cases hn : node? fs location with
    | none => rfl
    | some node =>
      rw [hn] at ha
      cases ha
  · unfold lookup
    rw [hl]
    rfl

namespace ServesAt

variable {bytes : List UInt8} {ownerOnly : Bool}

/-- A path is served as long as no directory goes away and none comes in its way. -/
theorem keep (h : ServesAt fs path location made) (hk : KeepsDirectories made fs')
    (hfree : node? fs' location ≠ some .directory) : ServesAt fs' path location fs' := by
  obtain ⟨-, hagain⟩ := makeDirectories_spec h.makes
  exact ⟨hagain fs' hk, locate_of_keeps hk h.located, hfree⟩

/-- A file that is put in its place is kept. -/
theorem insert (h : ServesAt fs path location made) (bytes : List UInt8) (ownerOnly : Bool) :
    ServesAt (made.insert (written location) (.file bytes ownerOnly)) path location
        (made.insert (written location) (.file bytes ownerOnly)) ∧
      node? (made.insert (written location) (.file bytes ownerOnly))
        location = some (.file bytes ownerOnly) := by
  have hn : node? (made.insert (written location) (.file bytes ownerOnly)) location =
      some (.file bytes ownerOnly) := by
    rw [node?_insert _ (not_origin h.free), if_pos rfl]
  refine ⟨h.keep (keepsDirectories_insert h.free) ?_, hn⟩
  rw [hn]
  exact nofun

theorem write (h : ServesAt fs path location made) (bytes : List UInt8) :
    ∃ ownerOnly,
      made.write path bytes = .ok (made.insert (written location) (.file bytes ownerOnly)) := by
  rw [write_eq h.located]
  cases hn : node? made location with
  | none => exact ⟨false, rfl⟩
  | some node =>
    cases node with
    | file content ownerOnly => exact ⟨ownerOnly, rfl⟩
    | directory => exact absurd hn h.free

theorem restrict (h : ServesAt fs path location fs)
    (hn : node? fs location = some (.file bytes ownerOnly)) :
    fs.restrict path = .ok (fs.insert (written location) (.file bytes true)) := by
  rw [restrict_eq h.located, hn]

/-- Once the directories are made, a file can be written and is kept. -/
theorem replace (h : ServesAt fs path location made) (bytes : List UInt8) : ∃ written restricted,
    made.write path bytes = .ok written ∧ written.restrict path = .ok restricted ∧
      Keeps path restricted (some bytes) := by
  obtain ⟨ownerOnly, hwrite⟩ := h.write bytes
  obtain ⟨hwritten, hn⟩ := h.insert bytes ownerOnly
  obtain ⟨hrestricted, hn'⟩ := hwritten.insert bytes true
  exact ⟨_, _, hwrite, hwritten.restrict hn, .present hrestricted hn'⟩

end ServesAt

namespace Keeps

variable {content : Option (List UInt8)} {bytes : List UInt8}

theorem holds_eq (h : Keeps path fs content) : fs.holds path = content.isSome := by
  unfold holds
  cases h with
  | absent h hl =>
    rw [hl]
    rfl
  | present h hn =>
    rw [lookup_of_locate h.located, hn]
    rfl

theorem lookup_eq (h : Keeps path fs (some bytes)) :
    ∃ ownerOnly, fs.lookup path = .ok (.file bytes ownerOnly) := by
  cases h with
  | @present _ _ ownerOnly h hn =>
    refine ⟨ownerOnly, ?_⟩
    rw [lookup_of_locate h.located, hn]

theorem read_eq (h : Keeps path fs (some bytes)) : fs.read path = .ok bytes := by
  obtain ⟨ownerOnly, hlookup⟩ := h.lookup_eq
  unfold read
  rw [hlookup]
  rfl

/-- Whatever is kept, a file can be written in its place. -/
theorem replace (h : Keeps path fs content) (bytes : List UInt8) : ∃ made written restricted,
    fs.makeDirectories (parentPath path) = .ok made ∧ made.write path bytes = .ok written ∧
      written.restrict path = .ok restricted ∧ Keeps path restricted (some bytes) := by
  have hserves : ∃ location made, ServesAt fs path location made := by
    cases h with
    | absent h hl => exact ⟨_, _, h⟩
    | present h hn => exact ⟨_, _, h⟩
  obtain ⟨location, made, hat⟩ := hserves
  obtain ⟨written, restricted, hwritten, hrestricted, hkeeps⟩ := hat.replace bytes
  exact ⟨made, written, restricted, hat.makes, hwritten, hrestricted, hkeeps⟩

theorem remove_absent (h : Keeps path fs none) : fs.remove path = .error .notFound := by
  cases h with
  | absent h hl =>
    obtain ⟨hgrows, -⟩ := makeDirectories_spec h.makes
    obtain hlocate | hlocate := locate_of_grows hgrows h.located
    · rw [lookup_of_locate hlocate] at hl
      rw [remove_eq hlocate]
      split at hl
      · cases hl
      · rename_i hn
        rw [hn]
    · unfold remove
      rw [hlocate]
      rfl

/-- A file that is taken away leaves nothing. -/
theorem remove_present (h : Keeps path fs (some bytes)) :
    ∃ fs', fs.remove path = .ok fs' ∧ Keeps path fs' none := by
  cases h with
  | present h hn =>
    rename_i location _
    have hne : node? (fs.erase (written location)) location = none := by
      rw [node?_erase (not_origin h.free), if_pos rfl]
    have hserves : ServesAt (fs.erase (written location)) path location
        (fs.erase (written location)) := by
      refine h.keep (keepsDirectories_erase h.free) ?_
      rw [hne]
      exact nofun
    refine ⟨fs.erase (written location), ?_, .absent hserves ?_⟩
    · rw [remove_eq h.located, hn]
    · rw [lookup_of_locate hserves.located, hne]

end Keeps

/-! ## Plain names -/

/-- A name that leads from the working directory to a place of its own. -/
structure IsPlainName (name : String) : Prop where
  no_slash : '/' ∉ name.toList
  no_zero : '\x00' ∉ name.toList
  ne_empty : name ≠ ""
  ne_dot : name ≠ "."
  ne_dots : name ≠ ".."
  short : name.utf8ByteSize ≤ maxNameBytes

theorem endsWith_slash (h : '/' ∉ path.toList) : path.endsWith "/" = false := by
  rw [← String.endsWith_toSlice, String.Slice.endsWith_string_eq_false_iff, String.copy_toSlice]
  exact fun hs => h (hs.subset (by decide))

theorem origin_of_no_slash (h : '/' ∉ path.toList) : origin path = [] := by
  have hs : path.startsWith "/" = false := by
    rw [String.startsWith_string_eq_false_iff]
    exact fun hs => h (hs.subset (by decide))
  unfold origin
  rw [hs]
  rfl

theorem trail_of_no_slash (h : '/' ∉ path.toList) :
    trail path = if path.isEmpty then [] else [path] := by
  unfold trail
  rw [Text.splitAll_of_not_mem h, endsWith_slash h, List.map_singleton, String.ofList_toList]
  cases hp : path.isEmpty <;> simp [hp]

namespace IsPlainName

theorem isEmpty_eq (h : IsPlainName name) : name.isEmpty = false := by
  cases he : name.isEmpty with
  | false => rfl
  | true => exact absurd (String.isEmpty_iff.1 he) h.ne_empty

theorem trail_eq (h : IsPlainName name) : trail name = [name] := by
  rw [trail_of_no_slash h.no_slash, h.isEmpty_eq]
  rfl

theorem badPath?_eq (h : IsPlainName name) : badPath? name = none := by
  have hsize : ¬ maxPathBytes < name.utf8ByteSize := by
    have hmax : maxNameBytes = 255 ∧ maxPathBytes = 4095 := ⟨rfl, rfl⟩
    have := h.short
    omega
  unfold badPath?
  rw [if_neg h.no_zero, if_neg hsize]

theorem parentPath_eq (h : IsPlainName name) : parentPath name = "" := by
  have hdot : decide (name ≠ ".") = true := decide_eq_true h.ne_dot
  unfold parentPath steps
  rw [h.trail_eq, origin_of_no_slash h.no_slash, List.filter_cons, if_pos hdot]
  rfl

theorem locate_eq (h : IsPlainName name) (fs : Files) : fs.locate name = .ok [name] := by
  have hlong : ¬ isTooLong name = true := by
    unfold isTooLong
    rw [decide_eq_true_eq]
    exact Nat.not_lt.2 h.short
  unfold locate
  rw [h.isEmpty_eq, h.badPath?_eq, h.trail_eq, origin_of_no_slash h.no_slash, if_neg (by decide)]
  dsimp only
  rw [follow_directory (node?_origin (.inl rfl))]
  unfold next
  rw [if_neg h.ne_dot, if_neg h.ne_dots, if_neg hlong]
  rfl

theorem holds_eq (h : IsPlainName name) (fs : Files) :
    fs.holds name = (node? fs [name]).isSome := by
  unfold holds
  rw [lookup_of_locate (h.locate_eq fs)]
  cases node? fs [name] <;> rfl

/-- A plain name is served unless it is a directory's. -/
theorem serves (h : IsPlainName name) (hd : node? fs [name] ≠ some .directory) :
    fs.Serves name := by
  have hempty : '/' ∉ "".toList := by decide
  have hmade : fs.makeDirectories (parentPath name) = .ok fs := by
    rw [h.parentPath_eq]
    unfold makeDirectories steps badPath?
    rw [trail_of_no_slash hempty, origin_of_no_slash hempty]
    rfl
  have hat : ServesAt fs name [name] fs := ⟨hmade, h.locate_eq fs, hd⟩
  obtain ⟨ownerOnly, hwrite⟩ := hat.write []
  exact ⟨fs, _, hmade, hwrite⟩

end IsPlainName

end SigningConsole.Files
