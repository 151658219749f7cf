import SigningConsole.Proofs.Store
import SigningConsole.Proofs.StoreRefinement
/-!
The store in a file is lawful, whatever its path is and whatever stands there.

What the store holds is what can be loaded from the path (`SessionStore.held`); a file that holds no
session counts as nothing. Saving may fail when the directories cannot be made or when something
else stands in the way, and then nothing could be loaded before and nothing can be loaded after.
Clearing leaves nothing to load even where it fails, because what cannot be taken away is no file.
-/

namespace SigningConsole.SessionStore

open Calendar Text

variable {path : String} {files files' : Files} {location : List String}

/-- The session that can be loaded from a path. -/
def held (path : String) (files : Files) : Option Session :=
  ((file path).load.run.run files).1.toOption.join

/-! ## Loading -/


theorem load_absent (h : files.holds path = false) :
    (file path).load.run.run files = (.ok none, files) := by
  unfold file
  dsimp only
  rw [run_get_bind, h]
  rfl

theorem load_unreadable {e : FileError} (hh : files.holds path)
    (h : files.readText path = .error e) :
    (file path).load.run.run files = (.error (.file e), files) := by
  unfold file
  dsimp only
  rw [run_get_bind, hh, if_pos rfl, h]
  rfl

theorem load_text {text : String} (hh : files.holds path) (h : files.readText path = .ok text) :
    (file path).load.run.run files = ((Session.ofFileText text).mapError .corrupt, files) := by
  unfold file
  dsimp only
  rw [run_get_bind, hh, if_pos rfl, h]
  dsimp only
  cases Session.ofFileText text <;> rfl

/-- Loading leaves the files as they are. -/
theorem load_state (path : String) (files : Files) :
    ((file path).load.run.run files).2 = files := by
  cases hh : files.holds path with
  | false => rw [load_absent hh]
  | true =>
    cases hr : files.readText path with
    | error e => rw [load_unreadable hh hr]
    | ok text => rw [load_text hh hr]

theorem held_of_lookup_error {e : FileError} (h : files.lookup path = .error e) :
    held path files = none := by
  have hh : files.holds path = false := by
    unfold Files.holds
    rw [h]
    rfl
  unfold held
  rw [load_absent hh]
  rfl

theorem holds_of_lookup {node : FileNode} (h : files.lookup path = .ok node) :
    files.holds path := by
  unfold Files.holds
  rw [h]
  rfl

theorem held_of_directory (h : files.lookup path = .ok .directory) : held path files = none := by
  have hr : files.readText path = .error .isADirectory := by
    unfold Files.readText Files.read
    rw [h]
    rfl
  unfold held
  rw [load_unreadable (holds_of_lookup h) hr]
  rfl

theorem held_of_session {s : Session} (hs : s.Writable) {ownerOnly : Bool}
    (h : files.lookup path = .ok (.file (Utf8.ofString s.fileText) ownerOnly)) :
    held path files = some s := by
  have hr : files.readText path = .ok s.fileText := by
    unfold Files.readText Files.read
    rw [h]
    dsimp only [bind, Except.bind]
    rw [Utf8.toString?_ofString]
  unfold held
  rw [load_text (holds_of_lookup h) hr, hs.ofFileText_fileText]
  rfl

/-- No file is where the path leads. -/
def NoFile (path : String) (files : Files) : Prop :=
  ∀ location bytes ownerOnly, files.locate path = .ok location →
    files.node? location ≠ some (.file bytes ownerOnly)

/-- Then nothing that can be looked up is a file. -/
theorem NoFile.lookup_ne (h : NoFile path files) (bytes : List UInt8)
    (ownerOnly : Bool) : files.lookup path ≠ .ok (.file bytes ownerOnly) := by
  intro hl
  cases hlocate : files.locate path with
  | error e =>
    unfold Files.lookup at hl
    rw [hlocate] at hl
    cases hl
  | ok location =>
    rw [Files.lookup_of_locate hlocate] at hl
    split at hl
    · rename_i node hnode
      cases hl
      exact h location bytes ownerOnly hlocate hnode
    · cases hl

/-- A path that leads to no file holds nothing. -/
theorem held_of_noFile (h : NoFile path files) : held path files = none := by
  cases hl : files.lookup path with
  | error e => exact held_of_lookup_error hl
  | ok node =>
    cases node with
    | directory => exact held_of_directory hl
    | file bytes ownerOnly => exact absurd hl (h.lookup_ne bytes ownerOnly)

/-- What was not there once directories were made was not there before. -/
theorem NoFile.of_grows (hg : Files.Grows files files') (h : NoFile path files') :
    NoFile path files := by
  intro location bytes ownerOnly hlocate hnode
  have hkeeps : Files.KeepsDirectories files files' := fun l hl => hg l _ hl
  exact h location bytes ownerOnly (Files.locate_of_keeps hkeeps hlocate) (hg location _ hnode)

theorem noFile_of_locate_error {e : FileError} (h : files.locate path = .error e) :
    NoFile path files := by
  intro location bytes ownerOnly hlocate
  rw [h] at hlocate
  cases hlocate

theorem noFile_of_node (h : files.locate path = .ok location)
    (hn : ∀ bytes ownerOnly, files.node? location ≠ some (.file bytes ownerOnly)) :
    NoFile path files := by
  intro location' bytes ownerOnly hlocate
  rw [h] at hlocate
  cases hlocate
  exact hn bytes ownerOnly

/-- What is held was read from a text, so it can be written again. -/
theorem held_writable {s : Session} (h : held path files = some s) : s.Writable := by
  unfold held at h
  cases hh : files.holds path with
  | false =>
    rw [load_absent hh] at h
    cases h
  | true =>
    cases hr : files.readText path with
    | error e =>
      rw [load_unreadable hh hr] at h
      cases h
    | ok text =>
      rw [load_text hh hr] at h
      cases ht : Session.ofFileText text with
      | error e =>
        rw [ht] at h
        cases h
      | ok c =>
        rw [ht] at h
        cases h
        exact Session.writable_of_ofFileText ht

/-- The session whose text is kept is held. -/
theorem held_of_keeps {s : Session} (hs : s.Writable)
    (h : Files.Keeps path files (some (Utf8.ofString s.fileText))) :
    held path files = some s := by
  obtain ⟨ownerOnly, hlookup⟩ := h.lookup_eq
  exact held_of_session hs hlookup

/-! ## Saving -/

/-- A file cannot be written where there is no place for it. -/
theorem write_error
    (h : ∀ location, files.locate path = .ok location → files.node? location = some .directory)
    (content : List UInt8) : ∃ e, files.write path content = .error e := by
  cases hlocate : files.locate path with
  | error e =>
    unfold Files.write
    rw [hlocate]
    split
    · exact ⟨_, rfl⟩
    · exact ⟨_, rfl⟩
  | ok location =>
    rw [Files.write_eq hlocate, h location hlocate]
    exact ⟨_, rfl⟩

/-- A session that is saved is held; where that fails there was none and is none. -/
theorem save_settles (path : String) {s : Session} (hs : s.Writable) :
    Settles (held path) ((file path).save s) fun _ _ c' => c' = some s := by
  intro files
  unfold After
  cases hmade : files.makeDirectories (Files.parentPath path) with
  | error e => rw [save_run_unmade hmade]
  | ok made =>
    by_cases hat : ∃ location, Files.ServesAt files path location made
    · obtain ⟨location, hat⟩ := hat
      obtain ⟨written, restricted, hwritten, hrestricted, hkeeps⟩ :=
        hat.replace (Utf8.ofString s.fileText)
      rw [save_run hmade hwritten hrestricted]
      exact held_of_keeps hs hkeeps
    · have hplace : ∀ location, made.locate path = .ok location →
          made.node? location = some .directory :=
        fun location hlocate => Decidable.byContradiction
          fun hfree => hat ⟨location, hmade, hlocate, hfree⟩
      obtain ⟨e, hwrite⟩ := write_error hplace (Utf8.ofString s.fileText)
      have hnow : NoFile path made := by
        intro location bytes ownerOnly hlocate hnode
        rw [hplace location hlocate] at hnode
        cases hnode
      have hbefore := hnow.of_grows (Files.makeDirectories_spec hmade).1
      rw [save_run_unwritten hmade hwrite]
      exact (held_of_noFile hnow).trans (held_of_noFile hbefore).symm

/-! ## Clearing -/

/-- A file that was taken away is not there. -/
theorem noFile_of_removed (h : files.remove path = .ok files') : NoFile path files' := by
  cases hlocate : files.locate path with
  | error e =>
    unfold Files.remove at h
    rw [hlocate] at h
    cases h
  | ok location =>
    rw [Files.remove_eq hlocate] at h
    split at h
    · rename_i hn
      cases h
      have hfree : files.node? location ≠ some .directory := by
        rw [hn]
        exact nofun
      have hgone : Files.node? (files.erase (Files.written location)) location = none := by
        rw [Files.node?_erase (Files.not_origin hfree), if_pos rfl]
      refine noFile_of_node (Files.locate_of_keeps (Files.keepsDirectories_erase hfree) hlocate) ?_
      rw [hgone]
      exact nofun
    · cases h
    · cases h

/-- What cannot be taken away is no file. -/
theorem noFile_of_not_removed {e : FileError} (h : files.remove path = .error e) :
    NoFile path files := by
  cases hlocate : files.locate path with
  | error e => exact noFile_of_locate_error hlocate
  | ok location =>
    rw [Files.remove_eq hlocate] at h
    split at h
    · cases h
    · rename_i hn
      exact noFile_of_node hlocate (by rw [hn]; exact nofun)
    · rename_i hn
      exact noFile_of_node hlocate (by rw [hn]; exact nofun)

theorem clear_run (h : files.remove path = .ok files') :
    (file path).clear.run.run files = (.ok (), files') := by
  unfold file
  dsimp only
  rw [run_get_bind, h]
  rfl

theorem clear_run_of_error {e : FileError} (h : files.remove path = .error e) :
    ((file path).clear.run.run files).2 = files := by
  unfold file
  dsimp only
  rw [run_get_bind, h]
  cases e <;> rfl

/-- Nothing can be loaded once the session was to be cleared, and where that fails nothing
changes. -/
theorem clear_leaves (path : String) (files : Files) :
    After (file path).clear.run files fun r files' =>
      held path files' = none ∧ ∀ e, r = .error e → files' = files := by
  unfold After
  cases hr : files.remove path with
  | ok files' =>
    rw [clear_run hr]
    refine ⟨held_of_noFile (noFile_of_removed hr), fun e he => ?_⟩
    cases he
  | error e =>
    rw [clear_run_of_error hr]
    exact ⟨held_of_noFile (noFile_of_not_removed hr), fun _ _ => rfl⟩

/-! ## The store -/

/-- The store in a file is lawful, wherever the file is to be. -/
theorem file_lawful (path : String) : (file path).Lawful (held path) where
  load files := by
    have hstate := load_state path files
    unfold After
    cases hr : ((file path).load.run.run files).1 with
    | ok c =>
      have hheld : held path files = c := by
        unfold held
        rw [hr]
        rfl
      rw [hstate]
      exact ⟨hheld.symm, rfl⟩
    | error e =>
      rw [hstate]
  save s h := by
    refine save_settles path (h.elim id fun ⟨files, other, hother, hends⟩ stop hstop => ?_)
    exact held_writable hother stop (hends.symm.trans hstop)
  clear files := by
    refine (clear_leaves path files).mono fun r files' hr => ?_
    cases r with
    | ok _ => exact hr.1
    | error e => exact congrArg (held path) (hr.2 e rfl)

theorem file_readable (path : String) : (file path).Readable (held path) := by
  intro files s hs
  unfold held at hs
  unfold After
  cases hr : ((file path).load.run.run files).1 with
  | ok c =>
    rw [hr] at hs
    exact congrArg Except.ok hs
  | error e =>
    rw [hr] at hs
    cases hs

theorem file_empties (path : String) : (file path).Empties (held path) :=
  fun files => (clear_leaves path files).mono fun _ _ h => h.1

end SigningConsole.SessionStore
