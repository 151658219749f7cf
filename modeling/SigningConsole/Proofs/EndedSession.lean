import SigningConsole.Proofs.LoginStore
/-!
A session that was given up stays away.

An operation gives the session up when it clears the store: an invalidation that succeeds does, and
so does a logout after which the session could be cleared, whatever the backend answered
(`LoginMoment.GivesUp`). From then on the flow has no session and the store is empty
(`LoginFlow.Ended`), and every move that does not end with a new session keeps it so
(`LoginMove.ended`): a code is exchanged without the store, reading an empty store finds nothing,
and what fails changes neither. `LoginFlow.logout_spec` says how a logout ends, by what the backend
answers and by whether the store can be cleared.
-/

namespace SigningConsole

open Calendar

variable {σ : Type}

/-- The operation gave the session up. -/
inductive LoginMoment.GivesUp : LoginMoment → Prop where
  | invalidated {now f} : GivesUp ⟨now, .invalidate, f, .ok .done⟩
  | loggedOut {now f} : GivesUp ⟨now, .logout, f, .ok .done⟩
  /-- The backend did not end the session. -/
  | loggedOutHere {now f} (cause : BackendError) :
      GivesUp ⟨now, .logout, f, .error (.logoutFailed cause)⟩

/-- The operation ended with a new session. -/
def LoginMoment.LogsIn (m : LoginMoment) : Prop := ∃ s, m.reply = .ok (.session s)

/-- Neither the flow nor the store has a session. -/
structure LoginFlow.Ended (f : LoginFlow) (c : Option Session) : Prop where
  flow : f.session? = none
  store : c = none

/-- A move that ends with no new session makes none. -/
theorem LoginMove.ended {now : ClockTime} {action : LoginAction} {f : LoginFlow}
    {c c' : Option Session} {step : LoginStep LoginReply} (hm : LoginMove now action f c step c')
    (h : f.Ended c) (hno : ∀ s, step.1 ≠ .ok (.session s)) : step.2.Ended c' := by
  induction hm with
  | refused _ _ => exact h
  | received _ _ => exact ⟨rfl, h.store⟩
  | gaveUp _ _ => exact ⟨rfl, h.store⟩
  | exchanged _ _ _ => exact absurd rfl (hno _)
  | completed _ _ ihr ihx => exact ihx (ihr h fun s hs => by cases hs) hno
  | adopted _ _ => exact absurd rfl (hno _)
  | keyAdopted _ ih => exact ih h hno
  | invalidated => exact ⟨rfl, rfl⟩
  | loggedOut _ _ => exact ⟨rfl, rfl⟩
  | reread _ hs =>
    have hnone := hs.trans (congrArg (Session.usable? now) h.store)
    rw [hnone]
    exact ⟨rfl, rfl⟩
  | waited _ => exact h

namespace LoginFlow

variable {store : SessionStore σ} {calls : LoginCalls σ} {content : σ → Option Session}

/-! ## Giving up -/

theorem invalidate_of_cleared {f : LoginFlow} {w w' : σ}
    (h : store.clear.run.run w = (.ok (), w')) :
    (f.invalidate store).run w = ((.ok (), { f with state := .unauthenticated }), w') := by
  unfold invalidate
  exact run_bind_of_run h

theorem invalidate_of_kept {f : LoginFlow} {w w' : σ} {e : StoreError}
    (h : store.clear.run.run w = (.error e, w')) :
    (f.invalidate store).run w = ((.error (.store e), f), w') := by
  unfold invalidate
  exact run_bind_of_run h

/-- Once the session is cleared, the answer of the backend is the result. -/
theorem logout_of_cleared {f : LoginFlow} {s : Session} (hf : f.session? = some s) {w w₁ w₂ : σ}
    {answer : Except BackendError Unit} (ha : calls.logout.run.run w = (answer, w₁))
    (hc : store.clear.run.run w₁ = (.ok (), w₂)) :
    (f.logout store calls).run w =
      ((logoutResult answer, { f with state := .unauthenticated }), w₂) := by
  unfold logout isLoggedIn
  rw [hf, if_pos Option.isSome_some, run_bind_of_run ha, run_bind_of_run (invalidate_of_cleared hc)]
  rfl

/-- If it cannot be cleared, the flow keeps it whatever the backend answered. -/
theorem logout_of_kept {f : LoginFlow} {s : Session} (hf : f.session? = some s) {w w₁ w₂ : σ}
    {answer : Except BackendError Unit} {e : StoreError}
    (ha : calls.logout.run.run w = (answer, w₁)) (hc : store.clear.run.run w₁ = (.error e, w₂)) :
    (f.logout store calls).run w = ((.error (.store e), f), w₂) := by
  unfold logout isLoggedIn
  rw [hf, if_pos Option.isSome_some, run_bind_of_run ha, run_bind_of_run (invalidate_of_kept hc)]
  rfl

theorem invalidate_ended (hs : store.Lawful content) (f : LoginFlow) (w : σ) :
    After (f.invalidate store) w fun step w' => step.1 = .ok () → step.2.Ended (content w') := by
  refine (invalidate_spec hs f w).mono fun step w' h hok => ?_
  obtain ⟨rfl, hw'⟩ | ⟨e, rfl, -⟩ := h
  · exact ⟨rfl, hw'⟩
  · cases hok

theorem logout_of_no_session {f : LoginFlow} (hf : f.session? = none) (w : σ) :
    (f.logout store calls).run w = ((.error (f.invalid .logout), f), w) := by
  unfold logout isLoggedIn
  rw [hf]
  rfl

theorem logoutResult_ok {answer : Except BackendError Unit} (h : logoutResult answer = .ok ()) :
    answer = .ok () ∨ answer = .error .unauthorized := by
  unfold logoutResult at h
  split at h
  · exact .inl rfl
  · exact .inr rfl
  · cases h

/-- How a logout ends: it is refused, it ends the session, or it fails at the store and changes
nothing. -/
theorem logout_spec (hs : store.Lawful content) (hc : calls.Quiet content) (f : LoginFlow) (w : σ) :
    After (f.logout store calls) w fun step w' =>
      let answered := calls.logout.run.run w
      let cleared := store.clear.run.run answered.2
      (f.session? = none ∧ step = (.error (f.invalid .logout), f)) ∨
      (cleared.1 = .ok () ∧ step.1 = logoutResult answered.1 ∧ step.2.Ended (content w')) ∨
      (∃ e, cleared.1 = .error e ∧ step = (.error (.store e), f) ∧ content w' = content w) := by
  cases hf : f.session? with
  | none =>
    unfold After
    rw [logout_of_no_session hf]
    exact .inl ⟨rfl, rfl⟩
  | some s =>
    have hquiet := hc.logout w
    unfold After at hquiet ⊢
    generalize ha : calls.logout.run.run w = answered at hquiet
    obtain ⟨answer, w₁⟩ := answered
    have hclear := hs.clear w₁
    unfold After at hclear
    generalize hcl : store.clear.run.run w₁ = cleared at hclear
    obtain ⟨r, w₂⟩ := cleared
    cases r with
    | ok u =>
      rw [logout_of_cleared hf ha hcl]
      exact .inr (.inl ⟨congrArg Prod.fst hcl, rfl, rfl, hclear⟩)
    | error e =>
      rw [logout_of_kept hf ha hcl]
      exact .inr (.inr ⟨e, congrArg Prod.fst hcl, rfl, hclear.trans hquiet⟩)

/-- After an operation that gives the session up there is none. -/
theorem perform_ended (hs : store.Lawful content) (hc : calls.Quiet content) (now : ClockTime)
    (f : LoginFlow) (action : LoginAction) (w : σ) :
    After (f.perform store calls now action) w fun step w' =>
      LoginMoment.GivesUp ⟨now, action, f, step.1⟩ → step.2.Ended (content w') := by
  cases action with
  | invalidate =>
    refine After.map_iff.2 ((invalidate_ended hs f w).mono fun step w' h hg => h ?_)
    obtain ⟨r, g⟩ := step
    cases r with
    | ok u => rfl
    | error e => cases hg
  | logout =>
    refine After.map_iff.2 ((logout_spec hs hc f w).mono fun step w' h hg => ?_)
    obtain ⟨-, rfl⟩ | ⟨-, -, hended⟩ | ⟨e, -, rfl, -⟩ := h
    · cases hg
    · exact hended
    · cases hg
  | _ => exact fun hg => by cases hg

/-- Until an operation ends with a new session, there is none. -/
theorem run_ended (hs : store.Lawful content) (hc : calls.Quiet content)
    (actions : List (ClockTime × LoginAction)) {f : LoginFlow} {w : σ} (h : f.Ended (content w)) :
    After (f.run store calls actions) w fun r w' => (∀ m ∈ r.1, ¬ m.LogsIn) →
      r.2.Ended (content w') := by
  induction actions generalizing f w with
  | nil => exact fun _ => h
  | cons act rest ih =>
    obtain ⟨now, action⟩ := act
    unfold run
    refine (perform_moves hs hc now f action w).bind fun step w' hm => ?_
    by_cases hlogs : LoginMoment.LogsIn ⟨now, action, f, step.1⟩
    · exact fun hno => absurd hlogs (hno _ List.mem_cons_self)
    · refine (ih (hm.ended h fun s hs => hlogs ⟨s, hs⟩)).bind fun r w'' hr => After.pure_iff.2
        fun hno => ?_
      exact hr fun m hm => hno m (List.mem_cons_of_mem _ hm)

/-- After an operation of a run that gives the session up, the store stays empty and the flow
without a session until an operation ends with a new one. A logout succeeds only if the backend
ended the session, or knows none, and the store was cleared; if it cannot be, the logout fails with
that and both keep the session, whatever the backend answered. -/
theorem given_up_session_stays_away (hs : store.Lawful content) (hc : calls.Quiet content)
    (policy : SessionLifetime) (start : ClockTime)
    (actions : List (ClockTime × LoginAction)) (w : σ) :
    After (resumeAndRun store calls policy start actions) w fun r w₁ =>
      ∀ moments f, r = .ok (moments, f) →
        (∀ now action, After (f.perform store calls now action) w₁ fun step w₂ =>
          LoginMoment.GivesUp ⟨now, action, f, step.1⟩ →
            ∀ later, After (step.2.run store calls later) w₂ fun r w₃ =>
              (∀ m ∈ r.1, ¬ m.LogsIn) → r.2.session? = none ∧ content w₃ = none) ∧
        After (f.logout store calls) w₁ fun step w₂ =>
          let answered := calls.logout.run.run w₁
          let cleared := store.clear.run.run answered.2
          (step.1 = .ok () →
            (answered.1 = .ok () ∨ answered.1 = .error .unauthorized) ∧ cleared.1 = .ok () ∧
              content w₂ = none) ∧
          ∀ s e, f.state = .authenticated s → cleared.1 = .error e →
            step = (.error (.store e), f) ∧ content w₂ = some s := by
  have hinStep := resumeAndRun_invariant hs hc inStep_ofSession (fun hm h => hm.inStep h) policy
    start actions w
  refine hinStep.mono fun r w₁ hi moments f hr => ⟨fun now action => ?_, ?_⟩
  · refine (perform_ended hs hc now f action w₁).mono fun step w₂ h hg later => ?_
    refine (run_ended hs hc later (h hg)).mono fun r w₃ hended hno => ?_
    exact ⟨(hended hno).flow, (hended hno).store⟩
  · refine (logout_spec hs hc f w₁).mono fun step w₂ h => ?_
    obtain ⟨hnone, rfl⟩ | ⟨hclear, hanswer, hended⟩ | ⟨e, hclear, rfl, hkept⟩ := h
    · refine ⟨fun hok => ?_, fun s e hf => ?_⟩
      · cases hok
      · rw [session?, hf] at hnone
        cases hnone
    · refine ⟨fun hok => ⟨logoutResult_ok (hanswer.symm.trans hok), hclear, hended.store⟩,
        fun s e _ hfailed => ?_⟩
      rw [hclear] at hfailed
      cases hfailed
    · refine ⟨fun hok => ?_, fun s e' hf hfailed => ?_⟩
      · cases hok
      · rw [hclear] at hfailed
        cases hfailed
        exact ⟨rfl, hkept.trans (hi moments f hr s hf)⟩

/-- A key is gone after a logout that the backend did not answer, and stays when it
cannot be taken away. -/
theorem unanswered_logout_ends_session :
    let store := SessionStore.memory.unreliable
    let calls : LoginCalls (List (Option StoreError) × Option Session) :=
      ⟨fun _ => throw .unauthorized, throw (.server "down")⟩
    let key := Session.ofApiKey "key"
    let f : LoginFlow := ⟨.authenticated key, .untilCleared⟩
    let adopted : LoginMoment :=
      ⟨default, .adoptApiKey "key", ⟨.unauthenticated, .untilCleared⟩, .ok (.session key)⟩
    let broken := StoreError.file .isADirectory
    let actions : List (ClockTime × LoginAction) := [(default, .adoptApiKey "key")]
    let gone := (f.perform store calls default .logout).run ([], some key)
    let later := (gone.1.2.run store calls [(default, .reload), (default, .exchange)]).run gone.2
    let kept := (f.logout store calls).run ([some broken], some key)
    (resumeAndRun store calls .untilCleared default actions).run ([], none) =
        (.ok ([adopted], f), ([], some key)) ∧
      LoginMoment.GivesUp ⟨default, .logout, f, gone.1.1⟩ ∧ later.1.2.session? = none ∧
      later.2.2 = none ∧
      (resumeAndRun store calls .untilCleared default actions).run
          ([none, none, some broken], none) =
        (.ok ([adopted], f), ([some broken], some key)) ∧
      kept.1 = (.error (.store broken), f) ∧ kept.2.2 = some key := by
  intro store calls key f adopted broken actions gone later kept
  have hs : store.Lawful fun w => w.2 := SessionStore.memory_lawful.unreliable
  have hc : calls.Quiet fun w => w.2 := ⟨fun _ _ => rfl, fun _ => rfl⟩
  have hgives : LoginMoment.GivesUp ⟨default, .logout, f, gone.1.1⟩ :=
    .loggedOutHere (.server "down")
  have hends :=
    (given_up_session_stays_away hs hc .untilCleared default actions ([], none)).of_run_eq rfl
      [adopted] f rfl
  have hlater : ∀ m ∈ later.1.1, ¬ m.LogsIn := by
    intro m hm
    have hmoments : later.1.1 =
        [⟨default, .reload, gone.1.2, .ok (.found none)⟩,
          ⟨default, .exchange, gone.1.2,
            .error (.invalidTransition "unauthenticated" .exchange)⟩] :=
      rfl
    rw [hmoments] at hm
    rintro ⟨s, hlogs⟩
    obtain rfl | hm := List.mem_cons.1 hm
    · cases hlogs
    · rw [List.mem_singleton.1 hm] at hlogs
      cases hlogs
  obtain ⟨hflow, hstore⟩ :=
    (hends.1 default .logout hgives [(default, .reload), (default, .exchange)]) hlater
  have hkeeps := (given_up_session_stays_away hs hc .untilCleared default actions
    ([none, none, some broken], none)).of_run_eq rfl [adopted] f rfl
  obtain ⟨hkept, hstays⟩ := hkeeps.2.2 key broken rfl rfl
  exact ⟨rfl, hgives, hflow, hstore, rfl, hkept, hstays⟩

end LoginFlow

end SigningConsole
