import SigningConsole.Proofs.After
import SigningConsole.Proofs.EncodedText
import SigningConsole.Proofs.KeptFile
import SigningConsole.Proofs.SessionFile
import SigningConsole.Session.Store
/-!
The store in a file answers as the store in memory does.

Two stores whose states are related are run side by side, and give the same results (`Alike`). If
the three operations of a store are alike those of another one (`Refines`), so is every run of them,
at whatever times the session is asked for. For a file the relation is that the path keeps the text
of the session, so each step comes down to reading back what was written. A leap second that does
not end a minute is lost on that way: it is written as the second after it
(`SessionStore.leap_second_not_kept`).
-/

namespace SigningConsole

open Calendar Text

variable {σ τ α : Type} {R : σ → τ → Prop}

/-- A call of a store. -/
inductive StoreCall where
  | load
  /-- Asks for the session that can be used at a time. -/
  | current (now : Instant)
  | save (s : Session)
  | clear

/-- The session that is saved, if one is, can be written. -/
def StoreCall.Writable : StoreCall → Prop
  | .save s => s.Writable
  | _ => True

namespace SessionStore

/-- Makes a call; what gives no session gives none. -/
def perform (store : SessionStore σ) : StoreCall → StoreM σ (Option Session)
  | .load => store.load
  | .current now => store.current now
  | .save s => do
    store.save s
    return none
  | .clear => do
    store.clear
    return none

/-- Makes calls in order, whatever they give, and collects their results. -/
def performAll (store : SessionStore σ) :
    List StoreCall → StateM σ (List (Except StoreError (Option Session)))
  | [] => return []
  | call :: calls => do
    let result ← (store.perform call).run
    let results ← store.performAll calls
    return result :: results

theorem performAll_append (store : SessionStore σ) (calls calls' : List StoreCall) (w : σ) :
    ((store.performAll (calls ++ calls')).run w).1 =
      ((store.performAll calls).run w).1 ++
        ((store.performAll calls').run ((store.performAll calls).run w).2).1 := by
  induction calls generalizing w with
  | nil => rfl
  | cons call calls ih => exact congrArg _ (ih ((store.perform call).run.run w).2)

/-- The operations of a store are alike those of another one. -/
structure Refines (store : SessionStore σ) (spec : SessionStore τ) (R : σ → τ → Prop) : Prop where
  load : Alike R store.load.run spec.load.run
  save : ∀ s, s.Writable → Alike R (store.save s).run (spec.save s).run
  clear : Alike R store.clear.run spec.clear.run

namespace Refines

variable {store : SessionStore σ} {spec : SessionStore τ}

theorem current (h : store.Refines spec R) (now : Instant) :
    Alike R (store.current now).run (spec.current now).run := by
  unfold SessionStore.current
  refine h.load.bindExcept fun c => ?_
  cases c with
  | none => exact .pure _
  | some s =>
    by_cases hx : s.isExpired now
    · simp only [hx, if_true]
      exact h.clear.bindExcept fun _ => .pure _
    · simp only [hx, Bool.false_eq_true, if_false]
      exact .pure _

theorem perform (h : store.Refines spec R) {call : StoreCall} (hw : call.Writable) :
    Alike R (store.perform call).run (spec.perform call).run := by
  cases call with
  | load => exact h.load
  | current now => exact h.current now
  | save s => exact (h.save s hw).bindExcept fun _ => .pure _
  | clear => exact h.clear.bindExcept fun _ => .pure _

/-- A store that refines another one answers every run of calls as it does. -/
theorem performAll (h : store.Refines spec R) {calls : List StoreCall}
    (hw : ∀ call ∈ calls, call.Writable) :
    Alike R (store.performAll calls) (spec.performAll calls) := by
  induction calls with
  | nil => exact .pure _
  | cons call calls ih =>
    rw [List.forall_mem_cons] at hw
    exact (h.perform hw.1).bind fun _ => (ih hw.2).bind fun _ => .pure _

end Refines

/-! ## The file -/

/-- The path keeps the text of the session, or nothing if there is none. -/
structure Mirrors (path : String) (files : Files) (c : Option Session) : Prop where
  keeps : Files.Keeps path files (c.map fun s => Utf8.ofString s.fileText)
  writable : ∀ s, c = some s → s.Writable

theorem Mirrors.of_none {path : String} {files : Files} (h : Files.Keeps path files none) :
    Mirrors path files none where
  keeps := h
  writable s hs := by cases hs

theorem Mirrors.of_some {path : String} {files : Files} {s : Session} (hw : s.Writable)
    (h : Files.Keeps path files (some (Utf8.ofString s.fileText))) : Mirrors path files (some s) :=
  ⟨h, fun _ hs => Option.some.inj hs ▸ hw⟩

theorem run_get_bind (k : σ → StoreM σ α) (w : σ) : (get >>= k).run.run w = (k w).run.run w := rfl

theorem run_bind_ok {m : StoreM σ α} {k : α → StoreM σ β} {w w' : σ} {a : α}
    {done : Except StoreError β × σ} (hm : m.run.run w = (.ok a, w'))
    (hk : (k a).run.run w' = done) : (m >>= k).run.run w = done := by
  rw [ExceptT.run_bind, StateT.run_bind, hm]
  exact hk

theorem run_bind_error {m : StoreM σ α} {k : α → StoreM σ β} {w w' : σ} {e : StoreError}
    (hm : m.run.run w = (.error e, w')) : (m >>= k).run.run w = (.error e, w') := by
  rw [ExceptT.run_bind, StateT.run_bind, hm]
  rfl

theorem load_alike (path : String) : Alike (Mirrors path) (file path).load.run memory.load.run := by
  intro files c h
  have hrun : (file path).load.run.run files = (.ok c, files) := by
    have hholds := h.keeps.holds_eq
    unfold file
    dsimp only
    rw [run_get_bind, hholds]
    cases c with
    | none => rfl
    | some s =>
      have htext : files.readText path = .ok s.fileText := by
        unfold Files.readText
        rw [h.keeps.read_eq]
        dsimp only [bind, Except.bind]
        rw [Utf8.toString?_ofString]
      rw [htext]
      dsimp only
      rw [(h.writable s rfl).ofFileText_fileText]
      rfl
  rw [hrun]
  exact ⟨rfl, h⟩

theorem changeFiles_run {change : Files → Except FileError Files} {files files' : Files}
    (h : change files = .ok files') :
    (changeFiles change).run.run files = (.ok (), files') := by
  unfold changeFiles
  rw [run_get_bind, h]
  rfl

theorem changeFiles_error {change : Files → Except FileError Files} {files : Files} {e : FileError}
    (h : change files = .error e) :
    (changeFiles change).run.run files = (.error (.file e), files) := by
  unfold changeFiles
  rw [run_get_bind, h]
  rfl

section Saving

variable {path : String} {s : Session} {files made written restricted : Files} {e : FileError}

theorem make_run (hmade : files.makeDirectories (Files.parentPath path) = .ok made) :
    (changeFiles fun files => files.makeDirectories (Files.parentPath path)).run.run
      files = (.ok (), made) :=
  changeFiles_run hmade

theorem save_run (hmade : files.makeDirectories (Files.parentPath path) = .ok made)
    (hwritten : made.write path (Utf8.ofString s.fileText) = .ok written)
    (hrestricted : written.restrict path = .ok restricted) :
    ((file path).save s).run.run files = (.ok (), restricted) := by
  have hwrite :
      (changeFiles fun files => files.write path (Utf8.ofString s.fileText)).run.run made = (.ok (),
        written) := changeFiles_run hwritten
  have hrestrict :
      (changeFiles fun files => files.restrict path).run.run written = (.ok (), restricted) :=
    changeFiles_run hrestricted
  exact run_bind_ok (make_run hmade) (run_bind_ok hwrite hrestrict)

theorem save_run_unmade (hmade : files.makeDirectories (Files.parentPath path) = .error e) :
    ((file path).save s).run.run files = (.error (.file e), files) := by
  have hmake :
      (changeFiles fun files => files.makeDirectories (Files.parentPath path)).run.run
        files = (.error (.file e), files) := changeFiles_error hmade
  exact run_bind_error hmake

theorem save_run_unwritten (hmade : files.makeDirectories (Files.parentPath path) = .ok made)
    (hwritten : made.write path (Utf8.ofString s.fileText) = .error e) :
    ((file path).save s).run.run files = (.error (.file e), made) := by
  have hwrite :
      (changeFiles fun files => files.write path (Utf8.ofString s.fileText)).run.run
        made = (.error (.file e), made) := changeFiles_error hwritten
  exact run_bind_ok (make_run hmade) (run_bind_error hwrite)

end Saving

theorem save_alike (path : String) {s : Session} (hw : s.Writable) :
    Alike (Mirrors path) ((file path).save s).run (memory.save s).run := by
  intro files c h
  obtain ⟨made, written, restricted, hmade, hwritten, hrestricted, hkeeps⟩ :=
    h.keeps.replace (Utf8.ofString s.fileText)
  rw [save_run hmade hwritten hrestricted]
  exact ⟨rfl, .of_some hw hkeeps⟩

theorem clear_alike (path : String) :
    Alike (Mirrors path) (file path).clear.run memory.clear.run := by
  intro files c h
  unfold file
  dsimp only
  rw [run_get_bind]
  cases c with
  | none =>
    rw [h.keeps.remove_absent]
    exact ⟨rfl, h⟩
  | some s =>
    obtain ⟨files', hremove, hkeeps⟩ := h.keeps.remove_present
    rw [hremove]
    exact ⟨rfl, .of_none hkeeps⟩

theorem file_refines (path : String) : (file path).Refines memory (Mirrors path) :=
  ⟨load_alike path, fun _ hw => save_alike path hw, clear_alike path⟩

/-- Where a file can be kept and none is, the store in the file and the empty store in memory give
the same results, call by call, as long as every leap second in an expiry ends a minute; in
particular a session that was just saved is what is loaded. -/
theorem file_refines_memory {path : String} {files : Files} (hs : files.Serves path)
    (ha : files.holds path = false) {calls : List StoreCall} (hw : ∀ call ∈ calls, call.Writable) :
    (((file path).performAll calls).run files).1 = ((memory.performAll calls).run none).1 ∧
      ∀ s : Session, s.Writable →
        (((file path).performAll (calls ++ [.save s, .load])).run files).1 =
          ((memory.performAll calls).run none).1 ++ [.ok none, .ok (some s)] := by
  have hstart : Mirrors path files none := .of_none (hs.absent ha)
  refine ⟨((file_refines path).performAll hw files none hstart).1, fun s hs => ?_⟩
  have hlater : ∀ call ∈ calls ++ [.save s, .load], call.Writable := by
    intro call hcall
    obtain hcall | hcall := List.mem_append.1 hcall
    · exact hw call hcall
    · obtain rfl | rfl : call = .save s ∨ call = .load := by simpa using hcall
      · exact hs
      · trivial
  rw [((file_refines path).performAll hlater files none hstart).1, performAll_append]
  rfl

/-- A session with quotes, line ends and letters beyond ASCII comes back from its file, and is
gone once it expires. -/
theorem saved_session_expires :
    let name := "session.json"
    let s : Session :=
      { token := "a \"b\"\n", kind := .csrf, cookies := StringMap.insert ∅ "session" "\\é",
        email := some "ü@x", userId := some (-1), expiresAt := some default }
    let calls : List StoreCall := [.save s, .load, .current default, .load]
    Files.Serves ∅ name ∧ Files.holds ∅ name = false ∧ (∀ call ∈ calls, call.Writable) ∧
      (((file name).performAll calls).run ∅).1 = [.ok none, .ok (some s), .ok none, .ok none] := by
  intro name s calls
  have hname : Files.IsPlainName name :=
    ⟨by decide, by decide, by decide, by decide, by decide, by decide⟩
  have hs : Files.Serves ∅ name := hname.serves (by decide)
  have ha : Files.holds ∅ name = false := by
    rw [hname.holds_eq]
    rfl
  have hw : ∀ call ∈ calls, call.Writable := by
    have hsession : s.Writable := fun stop hstop => Option.some.inj hstop ▸ by decide
    simpa [calls, StoreCall.Writable] using hsession
  have hmemory :
      ((memory.performAll calls).run none).1 = [.ok none, .ok (some s), .ok none, .ok none] := rfl
  exact ⟨hs, ha, hw, (file_refines_memory hs ha hw).1.trans hmemory⟩

/-- A third of a second into a leap second within a minute, a session comes back from its file with
an end a third of a second into the next second. At a path that stands for a directory it is not
even saved, though every directory that leads there can be made. -/
theorem leap_second_not_kept :
    let end' (seconds : Int) (nanos : Nat) (h : minSecond ≤ seconds ∧ seconds ≤ maxSecond)
        (h' : nanos < 2 * nanosPerSecond) : Session :=
      { token := "t", kind := .apiKey, expiresAt := some ⟨seconds, nanos, h, h'⟩ }
    let s := end' 86420 1333333333 (by decide) (by decide)
    let calls : List StoreCall := [.save s, .load]
    ((memory.performAll calls).run none).1.map Except.toOption = [some none, some (some s)] ∧
      (((file "session.json").performAll calls).run ∅).1.map Except.toOption =
        [some none, some (some (end' 86421 333333333 (by decide) (by decide)))] ∧
      (((file "session.json/").performAll calls).run ∅).1.map Except.toOption =
        [none, some none] := by
  decide +kernel

end SessionStore

end SigningConsole
