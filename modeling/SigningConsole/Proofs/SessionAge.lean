import SigningConsole.Proofs.InstantSums
import SigningConsole.Proofs.LoginRun
/-!
No session outlives the greatest age that the policy allows.

A login stamps its session when it saves it, so the session's end follows from the time of the login
and from nothing that the session brings with it (`LoginMoment.Stamps`). While nothing else writes
to the store, what the store holds was there at the start of a run or was saved by one of its logins
(`LoginFlow.Traced`); every move keeps that (`LoginMove.traced`), and so does every run. Whoever
reads the store, the flow itself or one that is started anew (`LoginFlow.Reading`), gets the session
before its end, and takes it away from then on.
-/

namespace SigningConsole

open Calendar

variable {σ : Type}

/-! ## What a login saves -/

/-- The operation is a way to log in. -/
inductive LoginAction.IsLogin : LoginAction → Prop where
  | exchange : IsLogin .exchange
  | complete {url} : IsLogin (.complete url)
  | adopt {s} : IsLogin (.adopt s)
  | adoptApiKey {token} : IsLogin (.adoptApiKey token)

/-- A login that ended with the session, stamped under the policy at its time. -/
structure LoginMoment.Stamps (m : LoginMoment) (policy : SessionLifetime) (s : Session) : Prop where
  login : m.action.IsLogin
  reply : m.reply = .ok (.session s)
  stamped : ∃ given : Session, given.stamp? policy m.now = some s

namespace LoginMove

variable {now : ClockTime} {action : LoginAction} {f : LoginFlow} {c c' : Option Session}
  {step : LoginStep LoginReply}

theorem policy_eq (hm : LoginMove now action f c step c') : step.2.policy = f.policy := by
  induction hm with
  | completed _ _ ihr ihx => exact ihx.trans ihr
  | keyAdopted _ ih => exact ih
  | _ => rfl

/-- A move that ends with a session has stamped it and leaves it in the store. -/
theorem saves (hm : LoginMove now action f c step c') {s : Session}
    (hr : step.1 = .ok (.session s)) :
    LoginMoment.Stamps ⟨now, action, f, step.1⟩ f.policy s ∧ c' = some s := by
  induction hm with
  | exchanged _ grant hs =>
    cases hr
    exact ⟨⟨.exchange, rfl, _, hs⟩, rfl⟩
  | completed hreceived _ _ ihx =>
    obtain ⟨⟨-, hreply, given, hs⟩, hc⟩ := ihx hr
    rw [hreceived.policy_eq] at hs
    exact ⟨⟨.complete, hreply, given, hs⟩, hc⟩
  | adopted _ hs =>
    cases hr
    exact ⟨⟨.adopt, rfl, _, hs⟩, rfl⟩
  | keyAdopted _ ih =>
    obtain ⟨⟨-, hreply, hs⟩, hc⟩ := ih hr
    exact ⟨⟨.adoptApiKey, hreply, hs⟩, hc⟩
  | loggedOut _ answer =>
    cases hresult : LoginFlow.logoutResult answer with
    | ok u =>
      rw [hresult] at hr
      cases hr
    | error e =>
      rw [hresult] at hr
      cases hr
  | _ => cases hr

/-- Any other move leaves no session in the store that was not there. -/
theorem saves_nothing (hm : LoginMove now action f c step c')
    (hno : ∀ s, step.1 ≠ .ok (.session s)) {s : Session} (hs : c' = some s) : c = some s := by
  induction hm with
  | exchanged _ _ _ => exact absurd rfl (hno _)
  | completed _ _ ihr ihx => exact ihr (fun s hs => by cases hs) (ihx hno hs)
  | adopted _ _ => exact absurd rfl (hno _)
  | keyAdopted _ ih => exact ih hno hs
  | invalidated => cases hs
  | loggedOut _ _ => cases hs
  | reread _ hu => exact (Session.usable?_eq_some_iff.1 (hu.symm.trans hs)).1
  | _ => exact hs

end LoginMove

/-! ## Where the stored session comes from -/

/-- Every login of the history stamped its session under the policy, and the session that is stored
was there at the start or was saved by one of them. -/
structure LoginFlow.Traced (start : Option Session) (policy : SessionLifetime)
    (past : List LoginMoment) (f : LoginFlow) (c : Option Session) : Prop where
  policy_eq : f.policy = policy
  stamps : ∀ m ∈ past, ∀ s, m.reply = .ok (.session s) → m.Stamps policy s
  stored : ∀ s, c = some s → start = some s ∨ ∃ m ∈ past, m.reply = .ok (.session s)

theorem LoginFlow.traced_nil (f : LoginFlow) (c : Option Session) : f.Traced c f.policy [] c :=
  ⟨rfl, fun _ hm => absurd hm List.not_mem_nil, fun _ hs => .inl hs⟩

/-- Every move keeps track of the session that is stored. -/
theorem LoginMove.traced {now : ClockTime} {action : LoginAction} {f : LoginFlow}
    {start c c' : Option Session} {step : LoginStep LoginReply} {policy : SessionLifetime}
    {past : List LoginMoment} (hm : LoginMove now action f c step c')
    (h : f.Traced start policy past c) :
    step.2.Traced start policy (past ++ [⟨now, action, f, step.1⟩]) c' := by
  have hpolicy : step.2.policy = policy := hm.policy_eq.trans h.policy_eq
  refine ⟨hpolicy, fun m hmem s hr => ?_, fun s hs => ?_⟩
  · obtain hmem | hmem := List.mem_append.1 hmem
    · exact h.stamps m hmem s hr
    · cases List.mem_singleton.1 hmem
      rw [← h.policy_eq]
      exact (hm.saves hr).1
  · by_cases hlogin : ∃ s', step.1 = .ok (.session s')
    · obtain ⟨s', hr⟩ := hlogin
      cases (hm.saves hr).2.symm.trans hs
      exact .inr ⟨_, List.mem_append_right _ (List.mem_singleton_self _), hr⟩
    · refine (h.stored s (hm.saves_nothing (fun s' hr => hlogin ⟨s', hr⟩) hs)).imp_right
        fun hsaved => ?_
      obtain ⟨m, hmem, hr⟩ := hsaved
      exact ⟨m, List.mem_append_left _ hmem, hr⟩

/-! ## Ages -/

theorem Session.lt_of_not_isExpired {s : Session} {t : ClockTime} {stop : Instant}
    (hs : s.expiresAt = some stop) (h : ¬ s.isExpired t) : t < stop := by
  unfold isExpired at h
  rw [hs] at h
  exact Instant.not_le_iff.1 fun hle => h (decide_eq_true hle)

theorem Session.expiresAt_of_maxAge {given s : Session} {age : Int} {now : Instant}
    (h : given.stamp? (.maxAge age) now = some s) :
    ∃ stop, now.addNanos? age = some stop ∧ s.expiresAt = some stop := by
  obtain ⟨stop, hstop, rfl⟩ := Option.map_eq_some_iff.1 h
  exact ⟨stop, hstop, rfl⟩

theorem Session.expiresAt_of_untilCleared {given s : Session} {now : Instant}
    (h : given.stamp? .untilCleared now = some s) : s.expiresAt = none := by
  cases h
  rfl

/-- A login saved the session no later than `t`, for an age that is not over at `t`. -/
structure LoginMoment.Vouches (m : LoginMoment) (age : Int) (t : ClockTime)
    (s : Session) : Prop where
  login : m.action.IsLogin
  reply : m.reply = .ok (.session s)
  notLater : m.now ≤ t
  fresh : ∃ stop, m.now.addNanos? age = some stop ∧ s.expiresAt = some stop ∧ t < stop

theorem LoginMoment.Stamps.vouches {m : LoginMoment} {age : Int} {t : ClockTime} {s : Session}
    (h : m.Stamps (.maxAge age) s) (hm : m.now ≤ t) (hx : ¬ s.isExpired t) : m.Vouches age t s := by
  obtain ⟨given, hstamp⟩ := h.stamped
  obtain ⟨stop, hstop, hends⟩ := Session.expiresAt_of_maxAge hstamp
  exact ⟨h.login, h.reply, hm, stop, hstop, hends, Session.lt_of_not_isExpired hends hx⟩

/-! ## Reading the store -/

namespace LoginFlow

variable {store : SessionStore σ} {calls : LoginCalls σ} {content : σ → Option Session}

/-- What a reading of the store at `t` comes to, from a state to a state and after a history: the
flow that it gives has no session but one of the age, and a session that has expired is gone, so
that later on the store holds only what is saved later. -/
structure Reading (store : SessionStore σ) (calls : LoginCalls σ) (content : σ → Option Session)
    (moments : List LoginMoment) (age : Int) (t : ClockTime) (w : σ)
    (r : Except LoginError LoginFlow) (w' : σ) : Prop where
  vouched : ∀ f s, r = .ok f → f.state = .authenticated s → ∃ m ∈ moments, m.Vouches age t s
  emptied : ∀ f s, r = .ok f → f.state.pending? = none → content w = some s → s.isExpired t →
    content w' = none ∧ ∀ later, After (f.run store calls later) w' fun r w'' =>
      ∀ s', content w'' = some s' → ∃ m ∈ r.1, m.reply = .ok (.session s')
  /-- It gives a flow unless the store fails. -/
  given : store.Reliable content → ∃ f, r = .ok f

/-- What the store holds after a run was there before it or was saved in it. -/
theorem run_traced (hs : store.Lawful content) (hc : calls.Quiet content)
    (actions : List (ClockTime × LoginAction)) (f : LoginFlow) (w : σ) :
    After (f.run store calls actions) w fun r w' => r.2.Traced (content w) f.policy r.1
      (content w') :=
  run_history (fun past g c => g.Traced (content w) f.policy past c) hs hc
    (fun hm h => hm.traced h) actions [] f w (f.traced_nil (content w))

/-- Whoever takes from the store what is still usable reads it so. -/
theorem reading_of_usable (hs : store.Lawful content) (hc : calls.Quiet content)
    {moments : List LoginMoment} {age : Int} {t : ClockTime} {f : LoginFlow} {w w' : σ}
    {r : Except LoginError LoginFlow} (htraced : f.Traced none (.maxAge age) moments (content w))
    (hclock : ∀ m ∈ moments, m.now ≤ t) (hread : ∀ g, r = .ok g → g.state.pending? = none →
      g.state = .ofSession? (content w') ∧ content w' = Session.usable? t (content w))
    (hgiven : store.Reliable content → ∃ g, r = .ok g) :
    Reading store calls content moments age t w r w' := by
  refine ⟨fun g s hr hg => ?_, fun g s hr hg hstored hx => ?_, hgiven⟩
  · obtain ⟨hstate, husable⟩ := hread g hr (by rw [hg]; rfl)
    have hfound : content w' = some s := by
      cases hw' : content w' with
      | none =>
        rw [hg, hw'] at hstate
        cases hstate
      | some s' =>
        rw [hg, hw'] at hstate
        cases hstate
        rfl
    obtain ⟨hstored, hx⟩ := Session.usable?_eq_some_iff.1 (husable.symm.trans hfound)
    obtain hstart | ⟨m, hmem, hreply⟩ := htraced.stored s hstored
    · cases hstart
    · exact ⟨m, hmem, (htraced.stamps m hmem s hreply).vouches (hclock m hmem) hx⟩
  · have hempty : content w' = none := by
      rw [(hread g hr hg).2, hstored]
      exact Session.usable?_expired hx
    refine ⟨hempty, fun later => (run_traced hs hc later g w').mono fun r w'' htraced s' hs' => ?_⟩
    exact (htraced.stored s' hs').resolve_left fun hstart => by cases hempty.symm.trans hstart

/-- A flow that reads the store again, and has no code that waits, has what is still usable of
it. -/
theorem reload_usable (hs : store.Lawful content) (t : ClockTime) (f : LoginFlow) (w : σ) :
    After (f.reload store t) w fun step w' => ∀ g, step.1.map (fun _ => step.2) = .ok g →
      g.state.pending? = none → g.state = .ofSession? (content w') ∧
      content w' = Session.usable? t (content w) := by
  unfold reload
  split
  · rename_i code hf
    refine After.pure_iff.2 fun g hg hpending => ?_
    cases hg
    rw [hf] at hpending
    cases hpending
  · refine (hs.current t w).bind fun r w' hr => ?_
    cases r with
    | ok s =>
      obtain ⟨hu, hw'⟩ := hr
      refine After.pure_iff.2 fun g hg _ => ?_
      cases hg
      rw [hw']
      exact ⟨rfl, hu⟩
    | error e =>
      refine After.pure_iff.2 fun g hg => ?_
      cases hg

theorem reload_reliable (hs : store.Reliable content) (t : ClockTime) (f : LoginFlow) (w : σ) :
    After (f.reload store t) w fun step _ => ∃ g, step.1.map (fun _ => step.2) = .ok g := by
  unfold reload
  split
  · exact After.pure_iff.2 ⟨_, rfl⟩
  · refine (hs.current t w).bind fun r w' hr => ?_
    obtain ⟨rfl, -⟩ := hr
    exact After.pure_iff.2 ⟨_, rfl⟩

/-- What the store holds after a run from the store was there at the start or was saved in the
run. -/
theorem resumeAndRun_traced (hs : store.Lawful content) (hc : calls.Quiet content)
    (policy : SessionLifetime) (start : ClockTime)
    (actions : List (ClockTime × LoginAction)) (w : σ) :
    After (resumeAndRun store calls policy start actions) w
      fun r w' => ∀ moments f, r = .ok (moments, f) →
      f.Traced (content w) policy moments (content w') ∧
      moments.map (fun m => (m.now, m.action)) = actions := by
  unfold resumeAndRun
  refine (resume_spec hs policy start w).bind fun r w₀ hr => ?_
  cases r with
  | error e =>
    refine After.pure_iff.2 fun moments f hf => ?_
    cases hf
  | ok f =>
    obtain ⟨rfl, husable⟩ := hr f rfl
    have hrun := (run_traced hs hc actions ⟨.ofSession? (content w₀), policy⟩ w₀).and
      (run_moments store calls actions ⟨.ofSession? (content w₀), policy⟩ w₀)
    refine After.map_iff.2 (hrun.mono fun r w' h => ?_)
    rintro moments g ⟨rfl⟩
    obtain ⟨htraced, hmoments⟩ := h
    -- what was usable at the start is what was there
    refine ⟨⟨htraced.policy_eq, htraced.stamps, fun s hs' => ?_⟩, hmoments⟩
    refine (htraced.stored s hs').imp_left fun hstart => ?_
    exact (Session.usable?_eq_some_iff.1 (husable.symm.trans hstart)).1

/-- Under a greatest age, and from an empty store, a session that is read at a time was saved by a
login of the run, less than the age before that time; one that has expired is taken away by the
reading. So it is at any moment of a run, as a run may end anywhere. Without a greatest age no login
saves a session that expires, and none is stored but one that was there before. -/
theorem session_within_age (hs : store.Lawful content) (hc : calls.Quiet content)
    (start : ClockTime) (actions : List (ClockTime × LoginAction)) (w : σ) :
    (∀ (age : Int) (t : ClockTime), content w = none → (∀ act ∈ actions, act.1 ≤ t) →
      After (resumeAndRun store calls (.maxAge age) start actions) w fun r w₁ =>
        ∀ moments f, r = .ok (moments, f) →
          After (f.reload store t) w₁ (fun step w₂ =>
            Reading store calls content moments age t w₁ (step.1.map fun _ => step.2) w₂) ∧
          ∀ policy, After (resume store policy t) w₁ fun r w₂ =>
            Reading store calls content moments age t w₁ r w₂) ∧
    After (resumeAndRun store calls .untilCleared start actions) w fun r w₁ =>
      ∀ moments f, r = .ok (moments, f) →
        (∀ m ∈ moments, ∀ s, m.reply = .ok (.session s) → s.expiresAt = none) ∧
          ∀ s, content w₁ = some s → content w = some s ∨ s.expiresAt = none := by
  refine ⟨fun age t hw hclock => (resumeAndRun_traced hs hc _ start actions w).mono ?_,
    (resumeAndRun_traced hs hc _ start actions w).mono ?_⟩
  · intro r w₁ htraced moments f hr
    obtain ⟨htraced, hmoments⟩ := htraced moments f hr
    rw [hw] at htraced
    have hbefore : ∀ m ∈ moments, m.now ≤ t := by
      intro m hm
      refine hclock (m.now, m.action) ?_
      rw [← hmoments]
      exact List.mem_map_of_mem hm
    refine ⟨?_, fun policy => ?_⟩
    · have hgiven : After (f.reload store t) w₁ fun step _ => store.Reliable content →
          ∃ g, step.1.map (fun _ => step.2) = .ok g := fun hr => reload_reliable hr t f w₁
      refine ((reload_usable hs t f w₁).and hgiven).mono fun step w₂ h => ?_
      exact reading_of_usable hs hc htraced hbefore h.1 h.2
    · have hgiven : After (resume store policy t) w₁ fun r _ => store.Reliable content →
          ∃ g, r = .ok g :=
        fun hr => ⟨_, resume_reliable hr policy t w₁⟩
      refine ((resume_spec hs policy t w₁).and hgiven).mono fun r w₂ h => ?_
      refine reading_of_usable hs hc htraced hbefore (fun g hg _ => ?_) h.2
      obtain ⟨rfl, husable⟩ := h.1 g hg
      exact ⟨rfl, husable⟩
  · intro r w₁ htraced moments f hr
    have htraced := (htraced moments f hr).1
    have hendless : ∀ m ∈ moments, ∀ s, m.reply = .ok (.session s) → s.expiresAt = none := by
      intro m hm s hreply
      obtain ⟨given, hstamp⟩ := (htraced.stamps m hm s hreply).stamped
      exact Session.expiresAt_of_untilCleared hstamp
    refine ⟨hendless, fun s hs => (htraced.stored s hs).imp_right fun hsaved => ?_⟩
    obtain ⟨m, hm, hreply⟩ := hsaved
    exact hendless m hm s hreply

/-- A session that is imported with an end of its own ends with the age that it is given. -/
theorem imported_session_ends_with_its_age :
    let at' (seconds : Int) (h : minSecond ≤ seconds ∧ seconds ≤ maxSecond) : ClockTime :=
      ⟨⟨seconds, 0, h, by decide⟩, nofun⟩
    let start := at' 0 (by decide)
    let last := at' 59 (by decide)
    let ending := at' 60 (by decide)
    let calls : LoginCalls (Option Session) := ⟨fun _ => throw .unauthorized, pure ()⟩
    let imported : Session :=
      { token := "t", kind := .csrf, expiresAt := some (at' 1000 (by decide)).toInstant }
    let kept : Session := { imported with expiresAt := some ending.toInstant }
    let f : LoginFlow := ⟨.authenticated kept, .maxAge 60000000000⟩
    let adopted : LoginMoment :=
      ⟨start, .adopt imported, ⟨.unauthenticated, .maxAge 60000000000⟩, .ok (.session kept)⟩
    (resumeAndRun .memory calls (.maxAge 60000000000) start [(start, .adopt imported)]).run none =
        (.ok ([adopted], f), some kept) ∧
      (resume .memory .untilCleared last).run (some kept) =
        (.ok ⟨.authenticated kept, .untilCleared⟩, some kept) ∧
      (∃ m ∈ [adopted], m.Vouches 60000000000 last kept) ∧
      ((f.reload .memory ending).run (some kept)).2 = none := by
  intro at' start last ending calls imported kept f adopted
  have hc : calls.Quiet id := ⟨fun _ _ => rfl, fun _ => rfl⟩
  have hage :=
    (session_within_age SessionStore.memory_lawful hc start [(start, .adopt imported)] none).1
      60000000000
  have hrun :
      (resumeAndRun .memory calls (.maxAge 60000000000) start [(start, .adopt imported)]).run
        none = (.ok ([adopted], f), some kept) := by
    subst start ending at'
    rfl
  have hread : (resume .memory .untilCleared last).run (some kept) =
      (.ok ⟨.authenticated kept, .untilCleared⟩, some kept) := rfl
  have hlast := ((hage last rfl (by decide)).of_run_eq hrun [adopted] f rfl).2 .untilCleared
  have hover := ((hage ending rfl (by decide)).of_run_eq hrun [adopted] f rfl).1
  exact ⟨hrun, hread, (hlast.of_run_eq hread).vouched _ kept rfl rfl,
    (hover.emptied _ kept rfl rfl rfl (by decide)).1⟩

end LoginFlow

end SigningConsole
