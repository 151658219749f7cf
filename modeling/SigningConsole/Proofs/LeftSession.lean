import SigningConsole.Proofs.LoginStore
import SigningConsole.Proofs.SingleUse
/-!
The session that a failed login leaves in the store.

A flow that has a session may begin another login. If that login fails, the flow has no session any
more, but the store still holds the one from before, and the next time the store is read the flow
has it back. `LeftBehind` says of a history of operations that it ended so: a code was accepted over
the session, and since then nothing was saved, given up or read again. This is the only way in which
a flow without a session can stand beside a store with one: every move keeps the account
(`LoginMove.accounted`), and so does every run (`LoginFlow.run_accounted`).
-/

namespace SigningConsole

open Calendar

variable {σ : Type}

/-! ## Histories -/

namespace LoginMoment

/-- The operation accepted a code while the flow had the session, and did not end with a new one. -/
structure Leaves (m : LoginMoment) (s : Session) : Prop where
  before : m.before.state = .authenticated s
  accepted : m.action.accepted m.before ≠ []
  reply : ∀ s', m.reply ≠ .ok (.session s')

/-- The operation found the flow without a session and left the store alone: it failed, it accepted
a code, or it was to read the store while a code waited. -/
structure Passes (m : LoginMoment) : Prop where
  before : m.before.session? = none
  reply : (∃ e, m.reply = .error e) ∨ (∃ code, m.reply = .ok (.code code)) ∨
    (m.before.state.pending?.isSome ∧ m.reply = .ok (.found none))

theorem Leaves.not_passes {m : LoginMoment} {s : Session} (h : m.Leaves s) : ¬ m.Passes := by
  intro hp
  have hnone := hp.before
  unfold LoginFlow.session? at hnone
  rw [h.before] at hnone
  cases hnone

end LoginMoment

/-- The history ends without a session, after a login that was begun over one and failed. -/
inductive LeftBehind (s : Session) : List LoginMoment → Prop where
  | left {past m} (h : m.Leaves s) : LeftBehind s (past ++ [m])
  | passed {past m} (h : LeftBehind s past) (hm : m.Passes) : LeftBehind s (past ++ [m])

namespace LeftBehind

variable {s s' : Session} {past : List LoginMoment} {m : LoginMoment}

theorem append_iff : LeftBehind s (past ++ [m]) ↔ m.Leaves s ∨ (LeftBehind s past ∧ m.Passes) := by
  constructor
  · intro h
    generalize hl : past ++ [m] = moments at h
    cases h with
    | left h =>
      obtain ⟨-, hm⟩ := List.append_inj' hl rfl
      cases hm
      exact .inl h
    | passed h hp =>
      obtain ⟨rfl, hm⟩ := List.append_inj' hl rfl
      cases hm
      exact .inr ⟨h, hp⟩
  · rintro (h | ⟨h, hp⟩)
    · exact .left h
    · exact .passed h hp

theorem not_nil : ¬ LeftBehind s [] := by
  intro h
  generalize hl : ([] : List LoginMoment) = moments at h
  cases h with
  | left _ => simp at hl
  | passed _ _ => simp at hl

theorem append_iff_of_passes (hm : m.Passes) : LeftBehind s (past ++ [m]) ↔ LeftBehind s past := by
  rw [append_iff]
  exact ⟨fun h => h.elim (fun hl => absurd hm hl.not_passes) And.left, fun h => .inr ⟨h, hm⟩⟩

theorem append_iff_of_leaves (hm : m.Leaves s') : LeftBehind s (past ++ [m]) ↔ s' = s := by
  rw [append_iff]
  constructor
  · rintro (h | ⟨-, hp⟩)
    · exact LoginStage.authenticated.inj (hm.before.symm.trans h.before)
    · exact absurd hp hm.not_passes
  · rintro rfl
    exact .inl hm

/-- An operation that neither begins a login over a session nor passes ends what was left behind. -/
theorem not_append (hl : m.action.accepted m.before = []) (hp : ¬ m.Passes) :
    ¬ LeftBehind s (past ++ [m]) := by
  rw [append_iff]
  rintro (h | ⟨-, h⟩)
  · exact h.accepted hl
  · exact hp h

end LeftBehind

/-! ## What one move does to the session that is left -/

/-- The store holds the session of the flow, or else just what was left behind. -/
structure LoginFlow.Accounted (past : List LoginMoment) (f : LoginFlow)
    (c : Option Session) : Prop where
  inStep : f.InStep c
  left : f.session? = none → ∀ s, c = some s ↔ LeftBehind s past

theorem LoginFlow.session?_of_pending {f : LoginFlow} {code : RedirectCode}
    (h : f.state = .codeReceived code) :
    f.session? = none := by
  unfold session?
  rw [h]
  rfl

theorem LoginFlow.receive_of_code {f : LoginFlow} {url : Url} {code : RedirectCode}
    (h : f.state.pending? = none) (hu : url.redirectCode? = some code) :
    f.receive url = (.ok code, { f with state := .codeReceived code }) := by
  obtain ⟨waiting, hf, -⟩ | ⟨-, hnone, -⟩ | ⟨-, code', hsome, hr⟩ := receive_cases f url
  · rw [hf] at h
    cases h
  · cases hnone.symm.trans hu
  · cases hsome.symm.trans hu
    exact hr

namespace LoginFlow.Accounted

variable {past : List LoginMoment} {f g : LoginFlow} {c : Option Session} {m : LoginMoment}

/-- An operation that leaves the store alone keeps the account of it. -/
theorem pass (h : Accounted past f c) (hf : m.before = f) (hm : m.Passes) (s : Session) :
    c = some s ↔ LeftBehind s (past ++ [m]) := by
  rw [LeftBehind.append_iff_of_passes hm]
  subst hf
  exact h.left hm.before s

/-- So does one that accepts a code, be there a session or not, and does not end with a new one. -/
theorem accept (h : Accounted past f c) (hf : m.before = f) (hnot : f.state.pending? = none)
    (ha : m.action.accepted f ≠ [])
    (hr : (∃ e, m.reply = .error e) ∨ ∃ code, m.reply = .ok (.code code)) (s : Session) :
    c = some s ↔ LeftBehind s (past ++ [m]) := by
  cases hst : f.state with
  | codeReceived code =>
    rw [hst] at hnot
    cases hnot
  | unauthenticated =>
    refine h.pass hf ⟨?_, hr.imp_right .inl⟩ s
    unfold LoginFlow.session?
    rw [hf, hst]
    rfl
  | authenticated s₀ =>
    have hm : m.Leaves s₀ := by
      refine ⟨?_, ?_, fun s' hs' => ?_⟩
      · rw [hf]
        exact hst
      · rw [hf]
        exact ha
      · obtain ⟨e, he⟩ | ⟨code, hc⟩ := hr
        · rw [he] at hs'
          cases hs'
        · rw [hc] at hs'
          cases hs'
    rw [LeftBehind.append_iff_of_leaves hm, h.inStep s₀ hst]
    exact Option.some_inj

end LoginFlow.Accounted

/-- Every move keeps the account of the store. -/
theorem LoginMove.accounted {now : ClockTime} {action : LoginAction} {f : LoginFlow}
    {c c' : Option Session} {step : LoginStep LoginReply} {past : List LoginMoment}
    (hm : LoginMove now action f c step c') (h : f.Accounted past c) :
    step.2.Accounted (past ++ [⟨now, action, f, step.1⟩]) c' := by
  refine ⟨hm.inStep h.inStep, fun hnone s => ?_⟩
  cases hm with
  | refused e _ => exact h.pass rfl ⟨hnone, .inl ⟨e, rfl⟩⟩ s
  | @received _ _ url code hf hu =>
    refine h.accept rfl hf ?_ (.inr ⟨code, rfl⟩) s
    rw [LoginAction.accepted, LoginFlow.receive_of_code hf hu]
    exact List.cons_ne_nil _ _
  | gaveUp hf e => exact h.pass rfl ⟨LoginFlow.session?_of_pending hf, .inl ⟨e, rfl⟩⟩ s
  | exchanged _ _ _ => cases hnone
  | @completed _ _ url code _ _ _ hr hx =>
    cases hr with
    | received hf hu =>
      -- the code was accepted just now, so the exchange was tried and can only have failed
      have ha : (LoginAction.complete url).accepted f ≠ [] := by
        rw [LoginAction.accepted, LoginFlow.receive_of_code hf hu]
        exact List.cons_ne_nil _ _
      cases hx with
      | refused e hp => cases hp rfl
      | gaveUp _ e => exact h.accept rfl hf ha (.inl ⟨e, rfl⟩) s
      | exchanged _ _ _ => cases hnone
  | adopted _ _ => cases hnone
  | keyAdopted ha =>
    cases ha with
    | refused e _ => exact h.pass rfl ⟨hnone, .inl ⟨e, rfl⟩⟩ s
    | adopted _ _ => cases hnone
  | invalidated =>
    refine iff_of_false (fun hs => Option.some_ne_none s hs.symm)
      (LeftBehind.not_append rfl fun hp => ?_)
    obtain ⟨e, he⟩ | ⟨code, hc⟩ | ⟨-, hn⟩ := hp.reply
    · cases he
    · cases hc
    · cases hn
  | loggedOut hf answer =>
    refine iff_of_false (fun hs => Option.some_ne_none s hs.symm)
      (LeftBehind.not_append rfl fun hp => ?_)
    have hsome := hp.before
    unfold LoginFlow.session? at hsome
    rw [hf] at hsome
    cases hsome
  | reread hf _ =>
    cases c' with
    | some s' => cases hnone
    | none =>
      refine iff_of_false (fun hs => Option.some_ne_none s hs.symm)
        (LeftBehind.not_append rfl fun hp => ?_)
      obtain ⟨e, he⟩ | ⟨code, hc⟩ | ⟨hn, -⟩ := hp.reply
      · cases he
      · cases hc
      · rw [show f.state.pending? = none from hf] at hn
        cases hn
  | @waited _ _ code hf =>
    refine h.pass rfl ⟨hnone, .inr (.inr ⟨?_, rfl⟩)⟩ s
    show (f.state.pending?).isSome
    rw [hf]
    rfl

/-! ## Runs -/

namespace LoginFlow

variable {store : SessionStore σ} {calls : LoginCalls σ} {content : σ → Option Session}

theorem run_accounted (hs : store.Lawful content) (hc : calls.Quiet content)
    (actions : List (ClockTime × LoginAction)) (past : List LoginMoment) (f : LoginFlow) (w : σ)
    (h : f.Accounted past (content w)) :
    After (f.run store calls actions) w fun r w' => r.2.Accounted (past ++ r.1) (content w') :=
  run_history (fun past f c => f.Accounted past c) hs hc (fun hm h => hm.accounted h)
    actions past f w h

/-- A flow that starts from the store has left nothing behind. -/
theorem accounted_ofSession (c : Option Session) (policy : SessionLifetime) :
    Accounted [] ⟨.ofSession? c, policy⟩ c := by
  refine ⟨inStep_ofSession c policy, fun hnone s => ?_⟩
  cases c with
  | none => exact iff_of_false (fun hs => Option.some_ne_none s hs.symm) LeftBehind.not_nil
  | some s' => cases hnone

/-- Reading an empty store again leaves a flow without a session. -/
theorem reload_of_empty (hs : store.Reliable content) (now : ClockTime) {f : LoginFlow} {w : σ}
    (hf : f.state = .unauthenticated) (hw : content w = none) :
    After (f.reload store now) w fun step _ => step.2.state = .unauthenticated := by
  unfold reload
  split
  · rename_i code hcode
    rw [hf] at hcode
    cases hcode
  · refine (hs.current now w).bind fun r w' hr => ?_
    obtain ⟨rfl, -⟩ := hr
    rw [hw]
    exact After.pure_iff.2 rfl

/-- A login that the backend refuses leaves the session from before in the store. -/
theorem complete_of_refused {f : LoginFlow} {url : Url} {code : RedirectCode}
    (h : f.state.pending? = none) (hu : url.redirectCode? = some code) (e : BackendError)
    (now : ClockTime) (c : Option Session) :
    (f.complete .memory ⟨fun _ => throw e, pure ()⟩ now url).run c =
      ((.error (.exchangeFailed e), { f with state := .unauthenticated }), c) := by
  unfold complete
  rw [receive_of_code h hu]
  rfl

theorem run_of_refused {f : LoginFlow} {url : Url} {code : RedirectCode}
    (h : f.state.pending? = none) (hu : url.redirectCode? = some code) (e : BackendError)
    (now : ClockTime) (c : Option Session) :
    (f.run .memory ⟨fun _ => throw e, pure ()⟩ [(now, .complete url)]).run c =
      (([⟨now, .complete url, f, .error (.exchangeFailed e)⟩],
        { f with state := .unauthenticated }), c) := by
  have hstep : (f.perform .memory ⟨fun _ => throw e, pure ()⟩ now (.complete url)).run c =
      ((.error (.exchangeFailed e), { f with state := .unauthenticated }), c) := by
    unfold perform
    rw [StateT.run_map, complete_of_refused h hu]
    rfl
  unfold run
  rw [StateT.run_bind, hstep]
  rfl

theorem resumeAndRun_of_resume {policy : SessionLifetime} {start : ClockTime}
    {f : LoginFlow} {w w' : σ} (h : (resume store policy start).run w = (.ok f, w'))
    (actions : List (ClockTime × LoginAction)) :
    (resumeAndRun store calls policy start actions).run w =
      (.ok ((f.run store calls actions).run w').1, ((f.run store calls actions).run w').2) := by
  unfold resumeAndRun
  rw [StateT.run_bind, h]
  rfl

/-- So it stays when the flow was resumed from it just before. -/
theorem resumeAndRun_of_refused {s : Session} {start : ClockTime}
    (hs : s.isExpired start = false) {url : Url} {code : RedirectCode}
    (hu : url.redirectCode? = some code) (policy : SessionLifetime) (e : BackendError)
    (now : ClockTime) :
    (resumeAndRun .memory ⟨fun _ => throw e, pure ()⟩ policy start
      [(now, .complete url)]).run (some s) =
      (.ok ([⟨now, .complete url, ⟨.authenticated s, policy⟩, .error (.exchangeFailed e)⟩],
        ⟨.unauthenticated, policy⟩), some s) := by
  have hresume :
      (resume .memory policy start).run (some s) = (.ok ⟨.authenticated s, policy⟩, some s) := by
    have hcurrent :
        (SessionStore.memory.current start).run.run (some s) = (.ok (some s), some s) := by
      unfold SessionStore.current
      rw [ExceptT.run_bind, StateT.run_bind]
      show (StateT.run (ExceptT.run (if s.isExpired start then _ else pure (some s))) (some s)) = _
      rw [hs]
      rfl
    unfold resume
    rw [StateT.run_bind, hcurrent]
    rfl
  rw [resumeAndRun_of_resume hresume, run_of_refused rfl hu]

/-- Over a store that never fails, a flow without a session and without a code stands beside a
session just when a login that was begun over that session failed. Otherwise no session can be used,
and reading the store again finds none. -/
theorem left_session_iff (hs : store.Reliable content) (hc : calls.Quiet content)
    (policy : SessionLifetime) (start : ClockTime)
    (actions : List (ClockTime × LoginAction)) (w : σ) :
    After (resumeAndRun store calls policy start actions) w fun r w' =>
      ∃ moments f, r = .ok (moments, f) ∧ (f.state = .unauthenticated →
        (∀ s, content w' = some s ↔ LeftBehind s moments) ∧
        ((∀ s, ¬ LeftBehind s moments) → ∀ later : ClockTime,
          After (store.current later).run w' (fun found _ => found = .ok none) ∧
          After (f.reload store later) w' fun step _ => step.2.state = .unauthenticated)) := by
  unfold resumeAndRun
  refine (resume_reliable hs policy start w).bind fun r w₀ hr => ?_
  subst hr
  have hrun :=
    run_accounted hs.toLawful hc actions [] _ w₀ (accounted_ofSession (content w₀) policy)
  refine After.map_iff.2 (hrun.mono fun r w' ha => ⟨r.1, r.2, rfl, fun hf => ?_⟩)
  have hnone : r.2.session? = none := by
    unfold session?
    rw [hf]
    rfl
  refine ⟨ha.left hnone, fun hleft later => ?_⟩
  have hempty : content w' = none := by
    cases hw' : content w' with
    | none => rfl
    | some s => exact absurd ((ha.left hnone s).1 hw') (hleft s)
  refine ⟨(hs.current later w').mono fun found _ hfound => ?_, reload_of_empty hs later hf hempty⟩
  rw [hfound.1, hempty]
  rfl

/-- The session that a refused login was begun over is left behind. -/
theorem refused_relogin_leaves_session :
    let url : Url :=
      ⟨"http", "", none, some (.name "localhost"), none, .segments [""], some "code=first", none⟩
    let calls : LoginCalls (Option Session) := ⟨fun _ => throw .unauthorized, pure ()⟩
    let old : Session := { token := "old", kind := .csrf }
    let refused : LoginMoment :=
      ⟨default, .complete url, ⟨.authenticated old, .untilCleared⟩,
        .error (.exchangeFailed .unauthorized)⟩
    (resumeAndRun .memory calls .untilCleared default [(default, .complete url)]).run (some old) =
        (.ok ([refused], ⟨.unauthenticated, .untilCleared⟩), some old) ∧
      LeftBehind old [refused] := by
  intro url calls old refused
  have hu : url.redirectCode? = some ⟨"first", none⟩ := by decide +kernel
  have hrun :
      (resumeAndRun .memory calls .untilCleared default [(default, .complete url)]).run
        (some old) = (.ok ([refused], ⟨.unauthenticated, .untilCleared⟩), some old) :=
    resumeAndRun_of_refused rfl hu .untilCleared .unauthorized default
  have hc : calls.Quiet id := ⟨fun _ _ => rfl, fun _ => rfl⟩
  obtain ⟨moments, f, heq, hf⟩ :=
    (left_session_iff SessionStore.memory_reliable hc .untilCleared default
      [(default, .complete url)] (some old)).of_run_eq hrun
  cases heq
  exact ⟨hrun, ((hf rfl).1 old).1 rfl⟩

/-- A flow without a session may stand beside a session that can be used. -/
theorem unauthenticated_beside_usable_session :
    let calls : LoginCalls (Option Session) := ⟨fun _ => throw .unauthorized, pure ()⟩
    ¬ ∀ (actions : List (ClockTime × LoginAction)) (w : Option Session),
      After (resumeAndRun .memory calls .untilCleared default actions) w fun r w' =>
        ∀ moments f, r = .ok (moments, f) → f.state = .unauthenticated →
          After (SessionStore.memory.current default).run w' fun found _ => found = .ok none := by
  intro calls h
  let url : Url :=
    ⟨"http", "", none, some (.name "localhost"), none, .segments [""], some "code=first", none⟩
  let old : Session := { token := "old", kind := .csrf }
  have hu : url.redirectCode? = some ⟨"first", none⟩ := by decide +kernel
  have hlive : old.isExpired (default : ClockTime) = false := rfl
  have hrun := resumeAndRun_of_refused hlive hu .untilCleared .unauthorized default
  cases (h [(default, .complete url)] (some old)).of_run_eq hrun _ _ rfl rfl

end LoginFlow

end SigningConsole
