import SigningConsole.Proofs.CallStages
/-!
Two requests at the same time.

The requests share the store, and take their steps in any order (`Adapter.race`). Each goes on with
its own copy of the session that it read at first. A rejection clears the store, but the other
request still has its copy, and saves it when its own answer changes it. No one reads the store
anymore by then, so that the store holds what was written to it last: nothing if that was the
rejection, and the copy otherwise (`Race.Kept`).

Main statements: `Adapter.race_kept`, `Adapter.emptied_iff_cleared_last`.
-/

namespace SigningConsole

open Calendar Text

variable {σ τ ι : Type} [DecidableEq ι]

/-- Requests that are under way at the same time, and what they have written to the store so far. -/
structure Race (ι : Type) where
  stages : ι → CallStage
  writes : List (ι × StoreWrite)

namespace Race

/-- No request has begun. -/
def start : Race ι := ⟨fun _ => .fresh, []⟩

/-- One of the requests has taken a step, to a stage. -/
def put (r : Race ι) (i : ι) (stage : CallStage) : Race ι where
  stages j := if j = i then stage else r.stages j
  writes := r.writes ++ ((r.stages i).write?.map fun x => (i, x)).toList

theorem stages_put_self (r : Race ι) (i : ι) (stage : CallStage) :
    (r.put i stage).stages i = stage := if_pos rfl

theorem stages_put_of_ne (r : Race ι) {i j : ι} (h : j ≠ i) (stage : CallStage) :
    (r.put i stage).stages j = r.stages j := if_neg h

theorem writes_put_of_write {r : Race ι} {i : ι} {x : StoreWrite} (h : (r.stages i).write? = some x)
    (stage : CallStage) : (r.put i stage).writes = r.writes ++ [(i, x)] := by
  unfold put
  rw [h]
  rfl

theorem writes_put_of_no_write {r : Race ι} {i : ι} (h : (r.stages i).write? = none)
    (stage : CallStage) :
    (r.put i stage).writes = r.writes := by
  unfold put
  rw [h]
  exact List.append_nil _

end Race

namespace Adapter

variable (a : Adapter σ) (now : ι → Instant) (spec : ι → CallPlan)

/-- The next step of one of the requests. -/
def turn (i : ι) (r : Race ι) : StateM σ (Race ι) := do
  return r.put i (← a.advance (now i) (spec i) (r.stages i))

/-- The steps of the requests in the order in which they have their turns. -/
def race : List ι → Race ι → StateM σ (Race ι)
  | [], r => pure r
  | i :: turns, r => do race turns (← a.turn now spec i r)

variable {a now spec}

/-- A request has finished after seven turns, however many the others have between them. -/
theorem race_stepsLeft (turns : List ι) (r : Race ι) (w : σ) :
    After (a.race now spec turns r) w fun r' _ =>
      ∀ i, (r'.stages i).stepsLeft ≤ (r.stages i).stepsLeft - turns.count i := by
  induction turns generalizing r w with
  | nil => exact After.pure_iff.2 fun i => Nat.le_refl _
  | cons k turns ih =>
    unfold race turn
    refine (advance_stepsLeft (r.stages k) w).bind fun stage w' hstage =>
      (ih (r.put k stage) w').mono fun r' _ hr' i => ?_
    have hi := hr' i
    by_cases hik : i = k
    · subst hik
      rw [r.stages_put_self] at hi
      rw [List.count_cons_self]
      omega
    · rw [r.stages_put_of_ne hik] at hi
      rw [List.count_cons_of_ne (Ne.symm hik)]
      exact hi

end Adapter

/-! ## Two requests -/

/-- Of two requests, those that are rejected have cleared the store. From the first rejection on
the store holds what was last written to it, and as long as that is a session, both requests have
read the store before. -/
structure Race.Kept (r : Race Bool) (c : Option Session) : Prop where
  rejected : ∀ i, (r.stages i).Rejected ↔ (i, StoreWrite.cleared) ∈ r.writes
  last : (∃ i, (r.stages i).Rejected) → ∃ x, r.writes.getLast? = some x ∧ c = x.2.content
  read : (∃ i, (r.stages i).Rejected) → c ≠ none → ∀ j, r.stages j ≠ .fresh

namespace Race

theorem kept_start (c : Option Session) : (start : Race Bool).Kept c where
  rejected _ := iff_of_false nofun List.not_mem_nil
  last := fun ⟨_, h⟩ => nomatch h
  read := fun ⟨_, h⟩ => nomatch h

namespace Kept

variable {r : Race Bool} {c c' : Option Session} {now : Instant} {i : Bool} {stage : CallStage}

/-- A step that clears nothing rejects no one. -/
theorem rejected_before (h : CallStage.Advanced now (r.stages i) stage c c')
    (hw : (r.stages i).write? ≠ some .cleared) {k : Bool}
    (hk : ((r.put i stage).stages k).Rejected) : (r.stages k).Rejected := by
  by_cases hki : k = i
  · subst hki
    rw [r.stages_put_self] at hk
    exact (h.rejected.1 hk).resolve_left hw
  · rwa [r.stages_put_of_ne hki] at hk

theorem put_rejected (hr : r.Kept c)
    (h : CallStage.Advanced now (r.stages i) stage c c') (k : Bool) :
    ((r.put i stage).stages k).Rejected ↔ (k, StoreWrite.cleared) ∈ (r.put i stage).writes := by
  by_cases hki : k = i
  · subst hki
    rw [r.stages_put_self, h.rejected, hr.rejected]
    cases hw : (r.stages k).write? with
    | none => simp [writes_put_of_no_write hw]
    | some x => simp [writes_put_of_write hw, or_comm, eq_comm]
  · rw [r.stages_put_of_ne hki, hr.rejected]
    cases hw : (r.stages i).write? with
    | none => rw [writes_put_of_no_write hw]
    | some x => simp [writes_put_of_write hw, hki]

/-- A step of either request keeps the account. -/
theorem put (hr : r.Kept c) (h : CallStage.Advanced now (r.stages i) stage c c') :
    (r.put i stage).Kept c' := by
  cases hw : (r.stages i).write? with
  | some x =>
    have hc' : c' = x.content := h.content.trans (CallStage.leaves_of_write hw now c)
    refine ⟨hr.put_rejected h, fun _ => ⟨(i, x), ?_, hc'⟩, fun ⟨k, hk⟩ hc j => ?_⟩
    · rw [writes_put_of_write hw, List.getLast?_concat]
    · cases x with
      | cleared => exact absurd hc' hc
      | saved s =>
        -- what saves is not rejected, so the other request is
        have hk' := rejected_before h (by rw [hw]; exact nofun) hk
        by_cases hji : j = i
        · rw [hji, r.stages_put_self]
          exact h.read
        · have hki : k ≠ i := by
            rintro rfl
            rw [hk'] at hw
            cases hw
          have htwo : ∀ i j k : Bool, j ≠ i → k ≠ i → j = k := by decide
          rw [r.stages_put_of_ne hji, htwo i j k hji hki, hk']
          exact nofun
  | none =>
    have hnot : (r.stages i).write? ≠ some .cleared := by
      rw [hw]
      exact nofun
    have hsame : (∃ k, (r.stages k).Rejected) → c' = c := by
      intro hrejected
      rw [h.content]
      obtain hc | ⟨hfresh, hc⟩ := CallStage.leaves_of_no_write hw now c
      · exact hc
      · -- whoever still has to read the store finds nothing
        have hnone : c = none := Decidable.byContradiction fun hne => hr.read hrejected hne i hfresh
        rw [hc, hnone]
        rfl
    refine ⟨hr.put_rejected h, fun ⟨k, hk⟩ => ?_, fun ⟨k, hk⟩ hc j => ?_⟩
    · have hrejected : ∃ k, (r.stages k).Rejected := ⟨k, rejected_before h hnot hk⟩
      rw [writes_put_of_no_write hw, hsame hrejected]
      exact hr.last hrejected
    · have hrejected : ∃ k, (r.stages k).Rejected := ⟨k, rejected_before h hnot hk⟩
      by_cases hji : j = i
      · rw [hji, r.stages_put_self]
        exact h.read
      · rw [r.stages_put_of_ne hji]
        exact hr.read hrejected (hsame hrejected ▸ hc) j

end Kept

end Race

namespace Adapter

variable {a : Adapter σ} {content : σ → Option Session} {now : Bool → Instant}
  {spec : Bool → CallPlan}

/-- What holds of two requests before their next steps holds after them, in whatever order they
come. -/
theorem race_kept (h : a.Reliable content) (turns : List Bool) {r : Race Bool} {w : σ}
    (hr : r.Kept (content w)) (hs : ∀ i, (r.stages i).Copied content) :
    After (a.race now spec turns r) w fun r' w' => r'.Kept (content w') := by
  induction turns generalizing r w with
  | nil => exact hr
  | cons i turns ih =>
    have hturn : After (a.turn now spec i r) w fun r' w' =>
        r'.Kept (content w') ∧ ∀ j, (r'.stages j).Copied content := by
      refine ((advance_leaves h (hs i) w).and (advance_copied h (hs i) w)).bind
        fun stage w' hstage => ?_
      refine After.pure_iff.2 ⟨hr.put hstage.1, fun j => ?_⟩
      by_cases hji : j = i
      · rw [hji, r.stages_put_self]
        exact hstage.2
      · rw [r.stages_put_of_ne hji]
        exact hs j
    exact hturn.bind fun r' w' hr' => ih hr'.1 hr'.2

/-- Two requests finish within seven turns of each. If one of them is rejected, the store is empty
afterwards just if the last of their writes to it was that of a rejection; otherwise it holds the
session that was saved last. -/
theorem emptied_iff_cleared_last {store : SessionStore τ} {content : τ → Option Session}
    (h : store.Reliable content) (base loginUrl : Url) (backend : Backend) (now : Bool → Instant)
    (spec : Bool → CallPlan) (turns : List Bool) (w : τ) (t : Traffic) :
    let a := forBackend Part.second (store.onPart Part.first) base loginUrl backend
    After (a.race now spec turns .start) (w, t) fun r w' =>
      (∀ i, 7 ≤ turns.count i → ∃ result, r.stages i = .finished result) ∧
      ((∃ i, (r.stages i).Rejected) →
        (content w'.1 = none ↔ ∃ i, r.writes.getLast? = some (i, .cleared)) ∧
        ∀ i s, r.writes.getLast? = some (i, .saved s) → content w'.1 = some s) := by
  intro a
  have hr : a.Reliable fun w => content w.1 := forBackend_reliable h base loginUrl backend
  have hkept : After (a.race now spec turns .start) (w, t) fun r w' => r.Kept (content w'.1) :=
    race_kept hr turns (Race.kept_start _) fun _ _ hs => nomatch hs
  refine (hkept.and (race_stepsLeft turns .start (w, t))).mono fun r w' hw' => ?_
  obtain ⟨hw', hsteps⟩ := hw'
  refine ⟨fun i hi => ?_, fun hrejected => ?_⟩
  · have hleft : (r.stages i).stepsLeft ≤ 7 - turns.count i := hsteps i
    exact CallStage.stepsLeft_eq_zero.1 (by omega)
  · obtain ⟨⟨j, x⟩, hlast, hc⟩ := hw'.last hrejected
    rw [hlast, hc]
    cases x with
    | cleared =>
      refine ⟨iff_of_true rfl ⟨j, rfl⟩, fun i s heq => ?_⟩
      cases heq
    | saved s =>
      refine ⟨iff_of_false nofun fun ⟨i, heq⟩ => ?_, fun i s' heq => ?_⟩
      · cases heq
      · cases heq
        rfl

/-- Both requests read the session before one of them is rejected. The answer to the other one comes
later and has a cookie, so that the store is not empty in the end. -/
theorem copy_saved_after_rejection :
    let base : Url :=
      ⟨"http", "", none, some (.name "example.com"), none, .segments [""], none, none⟩
    let backend : Backend := fun before _ =>
      if before.isEmpty then .ok { status := 401 }
      else .ok { status := 200, headers := [("Set-Cookie", Utf8.ofString "Xsrf-Token=new")] }
    let a := forBackend Part.second (SessionStore.memory.onPart Part.first) base base backend
    let old : Session := { token := "old", kind := .csrf }
    let renewed : Session := { token := "new", kind := .csrf }
    let turns := [true, false, true, false, true, false, true, false]
    let run := (a.race (fun _ => default) (fun _ => .get "x" []) turns .start).run (some old, {})
    (run.1.stages true).Rejected ∧ (run.1.stages false).stepsLeft = 0 ∧
      run.1.writes = [(true, .cleared), (false, .saved renewed)] ∧ run.2.1 = some renewed := by
  intro base backend a old renewed turns run
  have hrejected : (run.1.stages true).Rejected := by decide +kernel
  have hfinished : (run.1.stages false).stepsLeft = 0 := by decide +kernel
  have hwrites : run.1.writes = [(true, .cleared), (false, .saved renewed)] := by decide +kernel
  have h : After (a.race (fun _ => default) (fun _ => .get "x" []) turns .start) (some old, {})
      fun r w' =>
      (∀ i, 7 ≤ turns.count i → ∃ result, r.stages i = .finished result) ∧
      ((∃ i, (r.stages i).Rejected) →
        (w'.1 = none ↔ ∃ i, r.writes.getLast? = some (i, .cleared)) ∧
        ∀ i s, r.writes.getLast? = some (i, .saved s) → w'.1 = some s) :=
    emptied_iff_cleared_last SessionStore.memory_reliable base base backend (fun _ => default)
      (fun _ => .get "x" []) turns (some old) {}
  have hlast : run.1.writes.getLast? = some (false, .saved renewed) := by
    rw [hwrites]
    rfl
  exact ⟨hrejected, hfinished, hwrites, (h.2 ⟨true, hrejected⟩).2 false renewed hlast⟩

/-- A session that a rejection has cleared is stored again. -/
theorem cleared_session_saved_again :
    let base : Url :=
      ⟨"http", "", none, some (.name "example.com"), none, .segments [""], none, none⟩
    ¬ ∀ (backend : Backend) (now : Bool → Instant) (spec : Bool → CallPlan) (turns : List Bool)
      (s : Session),
      let a := forBackend Part.second (SessionStore.memory.onPart Part.first) base base backend
      After (a.race now spec turns .start) (some s, {}) fun r w' =>
        (∀ i, (r.stages i).stepsLeft = 0) → (∃ i, (r.stages i).Rejected) → w'.1 = none := by
  intro base h
  let backend : Backend := fun before _ =>
    if before.isEmpty then .ok { status := 401 }
    else .ok { status := 200, headers := [("Set-Cookie", Utf8.ofString "Xsrf-Token=new")] }
  let old : Session := { token := "old", kind := .csrf }
  have hempty := h backend (fun _ => default) (fun _ => .get "x" [])
    [true, false, true, false, true, false, true, false] old
  unfold After at hempty
  exact absurd (hempty (by decide +kernel) ⟨true, by decide +kernel⟩) (by decide +kernel)

end Adapter

end SigningConsole
