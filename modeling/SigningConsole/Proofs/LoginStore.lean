import SigningConsole.Proofs.LoginRun
/-!
The flow and the store in step.

The session of an authenticated flow is the one that the store holds. Every operation writes to the
store before it changes its own state, so that an operation of the store that fails leaves both as
they were; the one state that is entered before the store is asked, the one after a code was taken
out, is not authenticated.
-/

namespace SigningConsole

open Calendar

variable {σ : Type}

/-- The session of the flow, if it has one, is the one that the store holds. -/
def LoginFlow.InStep (f : LoginFlow) (c : Option Session) : Prop :=
  ∀ s, f.state = .authenticated s → c = some s

theorem LoginFlow.inStep_of_none {f : LoginFlow} (h : f.session? = none) (c : Option Session) :
    f.InStep c := by
  intro s hs
  unfold session? at h
  rw [hs] at h
  cases h

theorem LoginFlow.inStep_authenticated (s : Session) (policy : SessionLifetime) :
    InStep ⟨.authenticated s, policy⟩ (some s) := by
  intro s' hs
  cases hs
  rfl

theorem LoginFlow.inStep_ofSession (c : Option Session) (policy : SessionLifetime) :
    InStep ⟨.ofSession? c, policy⟩ c := by
  cases c with
  | none => exact inStep_of_none rfl none
  | some s => exact inStep_authenticated s policy

/-- Every move keeps flow and store in step. -/
theorem LoginMove.inStep {now : ClockTime} {action : LoginAction} {f : LoginFlow}
    {c c' : Option Session} {step : LoginStep LoginReply} (hm : LoginMove now action f c step c')
    (h : f.InStep c) : step.2.InStep c' := by
  induction hm with
  | refused _ _ => exact h
  | received _ _ => exact LoginFlow.inStep_of_none rfl _
  | gaveUp _ _ => exact LoginFlow.inStep_of_none rfl _
  | exchanged _ _ _ => exact LoginFlow.inStep_authenticated _ _
  | completed _ _ ihr ihx => exact ihx (ihr h)
  | adopted _ _ => exact LoginFlow.inStep_authenticated _ _
  | keyAdopted _ ih => exact ih h
  | invalidated => exact LoginFlow.inStep_of_none rfl _
  | loggedOut _ _ => exact LoginFlow.inStep_of_none rfl _
  | reread _ _ => exact LoginFlow.inStep_ofSession _ _
  | waited _ => exact h

/-- Whatever the backend answers and whichever operations of the store fail, a flow is authenticated
only with the session that the store holds. -/
theorem LoginFlow.authenticated_is_stored {store : SessionStore σ} {calls : LoginCalls σ}
    {content : σ → Option Session} (hs : store.Lawful content) (hc : calls.Quiet content)
    (policy : SessionLifetime) (start : ClockTime)
    (actions : List (ClockTime × LoginAction)) (w : σ) :
    After (resumeAndRun store calls policy start actions) w fun r w' =>
      ∀ moments f s, r = .ok (moments, f) → f.state = .authenticated s → content w' = some s := by
  have hstep : ∀ {now action f c step c'}, LoginMove now action f c step c' → f.InStep c →
      step.2.InStep c' :=
    fun hm h => hm.inStep h
  refine (resumeAndRun_invariant hs hc inStep_ofSession hstep policy start actions w).mono
    fun r w' hi => ?_
  intro moments f s hr hf
  exact hi moments f hr s hf

/-- A logout whose store fails leaves the flow authenticated, and the key in the store. -/
theorem LoginFlow.authenticated_is_stored_after_failed_logout :
    let store := SessionStore.memory.unreliable
    let calls : LoginCalls (List (Option StoreError) × Option Session) :=
      ⟨fun _ => pure {}, throw .unauthorized⟩
    let failures : List (Option StoreError) := [none, none, some (.file .isADirectory)]
    ∃ moments f s w',
      (resumeAndRun store calls .untilCleared default
          [(default, .adoptApiKey "key"), (default, .logout)]).run (failures, none) =
        (.ok (moments, f), w') ∧
      f.state = .authenticated s ∧ w'.2 = some s := by
  intro store calls failures
  have hc : calls.Quiet fun w => w.2 := ⟨fun _ _ => rfl, fun _ => rfl⟩
  refine ⟨_, _, _, _, rfl, rfl, ?_⟩
  exact authenticated_is_stored SessionStore.memory_lawful.unreliable hc .untilCleared default
    [(default, .adoptApiKey "key"), (default, .logout)] (failures, none) _ _ _ rfl rfl

end SigningConsole
