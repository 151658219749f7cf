import SigningConsole.Login.Flow
import SigningConsole.Proofs.Store
/-!
Runs of the login flow.

A `LoginAction` is one of the operations that the flow offers, and `LoginFlow.run` performs a list
of them, each at a time of its own, and remembers from which flow each began and what it gave.

`LoginMove` lists what an operation can come to when the store is lawful and nothing but the flow
writes to it: the flow and the session in the store after it, from those before it. It has one case
for each way through an operation, and `LoginFlow.perform_moves` says that there are no others. What
holds of every run follows from it by induction on the run (`LoginFlow.run_invariant`).
-/

namespace SigningConsole

open Calendar

variable {σ α : Type}

/-- An operation of the login flow. -/
inductive LoginAction where
  | receive (url : Url)
  | exchange
  | complete (url : Url)
  | adopt (s : Session)
  | adoptApiKey (token : String)
  | invalidate
  | reload
  | logout

/-- What an operation gives when it succeeds. -/
inductive LoginReply where
  | code (c : RedirectCode)
  | session (s : Session)
  | found (s : Option Session)
  | done

/-- A step with its result as the result of an operation. -/
def LoginStep.as (tag : α → LoginReply) (step : LoginStep α) : LoginStep LoginReply :=
  (step.1.map tag, step.2)

/-- An operation that was performed: when, from which flow, and what it gave. -/
structure LoginMoment where
  now : ClockTime
  action : LoginAction
  before : LoginFlow
  reply : Except LoginError LoginReply

/-- The calls leave what `view` shows of the state as it is. -/
structure LoginCalls.Quiet (calls : LoginCalls σ) (view : σ → α) : Prop where
  redeem : ∀ code, Keeps view (calls.redeem code).run
  logout : Keeps view calls.logout.run

namespace LoginFlow

/-- Performs an operation. -/
def perform (store : SessionStore σ) (calls : LoginCalls σ) (now : ClockTime) (f : LoginFlow) :
    LoginAction → StateM σ (LoginStep LoginReply)
  | .receive url => pure (LoginStep.as .code (f.receive url))
  | .exchange => LoginStep.as .session <$> f.exchange store calls now
  | .complete url => LoginStep.as .session <$> f.complete store calls now url
  | .adopt s => LoginStep.as .session <$> f.adopt store now s
  | .adoptApiKey token => LoginStep.as .session <$> f.adoptApiKey store now token
  | .invalidate => LoginStep.as (fun _ => .done) <$> f.invalidate store
  | .reload => LoginStep.as .found <$> f.reload store now
  | .logout => LoginStep.as (fun _ => .done) <$> f.logout store calls

/-- Performs operations in order. -/
def run (store : SessionStore σ) (calls : LoginCalls σ) :
    List (ClockTime × LoginAction) → LoginFlow → StateM σ (List LoginMoment × LoginFlow)
  | [], f => pure ([], f)
  | (now, action) :: rest, f => do
    let step ← f.perform store calls now action
    let (moments, g) ← run store calls rest step.2
    return (⟨now, action, f, step.1⟩ :: moments, g)

/-- Starts from what the store holds and performs operations in order. -/
def resumeAndRun (store : SessionStore σ) (calls : LoginCalls σ) (policy : SessionLifetime)
    (start : ClockTime) (actions : List (ClockTime × LoginAction)) :
    StateM σ (Except LoginError (List LoginMoment × LoginFlow)) := do
  match ← resume store policy start with
  | .ok f => .ok <$> f.run store calls actions
  | .error e => return .error e

end LoginFlow

/-- What an operation can come to: from a flow and the session in the store to what the operation
gives, the flow and the session in the store after it. -/
inductive LoginMove (now : ClockTime) : LoginAction → LoginFlow → Option Session →
    LoginStep LoginReply → Option Session → Prop where
  /-- A failure that leaves everything as it was; a code that waits never survives its exchange. -/
  | refused {action f c} (e : LoginError) (h : action = .exchange → f.state.pending? = none) :
      LoginMove now action f c (.error e, f) c
  | received {f c url code} (h : f.state.pending? = none) (hu : url.redirectCode? = some code) :
      LoginMove now (.receive url) f c (.ok (.code code), { f with state := .codeReceived code }) c
  /-- The exchange fails, at the backend or when its session is saved. -/
  | gaveUp {f c code} (h : f.state = .codeReceived code) (e : LoginError) :
      LoginMove now .exchange f c (.error e, { f with state := .unauthenticated }) c
  | exchanged {f c code s} (h : f.state = .codeReceived code) (grant : Grant)
      (hs : (Session.ofGrant grant).stamp? f.policy now = some s) :
      LoginMove now .exchange f c (.ok (.session s), { f with state := .authenticated s }) (some s)
  | completed {f c url code g step c'}
      (hr : LoginMove now (.receive url) f c (.ok (.code code), g) c)
      (hx : LoginMove now .exchange g c step c') : LoginMove now (.complete url) f c step c'
  | adopted {f c given s} (h : f.state.pending? = none) (hs : given.stamp? f.policy now = some s) :
      LoginMove now (.adopt given) f c
        (.ok (.session s), { f with state := .authenticated s }) (some s)
  | keyAdopted {f c token step c'} (h : LoginMove now (.adopt (.ofApiKey token)) f c step c') :
      LoginMove now (.adoptApiKey token) f c step c'
  | invalidated {f c} :
      LoginMove now .invalidate f c (.ok .done, { f with state := .unauthenticated }) none
  | loggedOut {f c s} (h : f.state = .authenticated s) (answer : Except BackendError Unit) :
      LoginMove now .logout f c
        ((LoginFlow.logoutResult answer).map fun _ => .done, { f with state := .unauthenticated })
          none
  | reread {f c s} (h : f.state.pending? = none) (hs : s = Session.usable? now c) :
      LoginMove now .reload f c (.ok (.found s), { f with state := .ofSession? s }) s
  | waited {f c code} (h : f.state = .codeReceived code) :
      LoginMove now .reload f c (.ok (.found none), f) c

theorem LoginStage.pending?_eq_none {st : LoginStage} (h : ∀ code, st ≠ codeReceived code) :
    st.pending? = none := by
  cases st with
  | codeReceived code => exact absurd rfl (h code)
  | unauthenticated => rfl
  | authenticated s => rfl

namespace LoginFlow

variable {store : SessionStore σ} {calls : LoginCalls σ} {content : σ → Option Session}

/-! ## What each operation comes to -/

/-- The three ways through a redirect: a code waits, there is none to take, or one is taken. -/
theorem receive_cases (f : LoginFlow) (url : Url) :
    (∃ code, f.state = .codeReceived code ∧ f.receive url = (.error (f.invalid .redirect), f)) ∨
    (f.state.pending? = none ∧ url.redirectCode? = none ∧
      f.receive url = (.error .missingCode, f)) ∨
    (f.state.pending? = none ∧ ∃ code, url.redirectCode? = some code ∧
      f.receive url = (.ok code, { f with state := .codeReceived code })) := by
  unfold receive
  split
  · rename_i code hf
    exact .inl ⟨code, hf, rfl⟩
  · rename_i hf
    have hp : f.state.pending? = none := LoginStage.pending?_eq_none hf
    cases hu : url.redirectCode? with
    | none => exact .inr (.inl ⟨hp, rfl, rfl⟩)
    | some code => exact .inr (.inr ⟨hp, code, rfl, rfl⟩)

theorem receive_moves (now : ClockTime) (f : LoginFlow) (url : Url) (c : Option Session) :
    LoginMove now (.receive url) f c (LoginStep.as .code (f.receive url)) c := by
  obtain ⟨waiting, -, hr⟩ | ⟨-, -, hr⟩ | ⟨hp, code, hu, hr⟩ := receive_cases f url
  · rw [hr]
    exact .refused _ nofun
  · rw [hr]
    exact .refused _ nofun
  · rw [hr]
    exact .received hp hu

/-- A session is kept when it has an expiry and is saved; otherwise nothing changes. -/
theorem keep_spec (hs : store.Lawful content) (now : ClockTime) (s : Session)
    (f : LoginFlow) (w : σ) :
    After (keep store now s f) w fun r w' =>
      (∃ s', s.stamp? f.policy now = some s' ∧ r = (.ok s', { f with state := .authenticated s' }) ∧
        content w' = some s') ∨
      (∃ e, r = (.error e, f) ∧ content w' = content w) := by
  unfold keep
  cases hst : s.stamp? f.policy now with
  | none => exact .inr ⟨_, rfl, rfl⟩
  | some s' =>
    refine (hs.save s' (.inl (Session.writable_of_stamp hst)) w).bind fun r w' hr => ?_
    cases r with
    | ok _ => exact .inl ⟨s', rfl, rfl, hr⟩
    | error e => exact .inr ⟨_, rfl, hr⟩

theorem exchange_moves (hs : store.Lawful content) (hc : calls.Quiet content) (now : ClockTime)
    (f : LoginFlow) (w : σ) :
    After (f.exchange store calls now) w fun r w' =>
      LoginMove now .exchange f (content w) (LoginStep.as .session r) (content w') := by
  unfold exchange
  split
  · rename_i code hf
    refine (hc.redeem code w).bind fun answer w' hw' => ?_
    cases answer with
    | error e =>
      rw [← hw']
      exact .gaveUp hf _
    | ok grant =>
      refine (keep_spec hs now _ _ w').mono fun r w'' hr => ?_
      obtain ⟨s, hst, rfl, hw''⟩ | ⟨e, rfl, hw''⟩ := hr
      · rw [hw'']
        exact .exchanged hf grant hst
      · rw [hw'', hw']
        exact .gaveUp hf e
  · rename_i hf
    exact .refused _ fun _ => LoginStage.pending?_eq_none hf

theorem complete_moves (hs : store.Lawful content) (hc : calls.Quiet content) (now : ClockTime)
    (f : LoginFlow) (url : Url) (w : σ) :
    After (f.complete store calls now url) w fun r w' =>
      LoginMove now (.complete url) f (content w) (LoginStep.as .session r) (content w') := by
  have hr := receive_moves now f url (content w)
  unfold complete
  split
  · rename_i code g hg
    rw [hg] at hr
    exact (exchange_moves hs hc now g w).mono fun r w' hx => .completed hr hx
  · rename_i e g hg
    rw [hg] at hr
    cases hr with
    | refused _ _ => exact .refused e nofun

theorem adopt_moves (hs : store.Lawful content) (now : ClockTime) (f : LoginFlow)
    (s : Session) (w : σ) :
    After (f.adopt store now s) w fun r w' =>
      LoginMove now (.adopt s) f (content w) (LoginStep.as .session r) (content w') := by
  unfold adopt
  split
  · exact .refused _ nofun
  · rename_i hf
    refine (keep_spec hs now s f w).mono fun r w' hr => ?_
    obtain ⟨s', hst, rfl, hw'⟩ | ⟨e, rfl, hw'⟩ := hr
    · rw [hw']
      exact .adopted (LoginStage.pending?_eq_none hf) hst
    · rw [hw']
      exact .refused e nofun

theorem invalidate_spec (hs : store.Lawful content) (f : LoginFlow) (w : σ) :
    After (f.invalidate store) w fun r w' =>
      (r = (.ok (), { f with state := .unauthenticated }) ∧ content w' = none) ∨
      (∃ e, r = (.error e, f) ∧ content w' = content w) := by
  unfold invalidate
  refine (hs.clear w).bind fun r w' hr => ?_
  cases r with
  | ok _ => exact .inl ⟨rfl, hr⟩
  | error e => exact .inr ⟨_, rfl, hr⟩

theorem invalidate_moves (hs : store.Lawful content) (now : ClockTime) (f : LoginFlow) (w : σ) :
    After (f.invalidate store) w fun r w' =>
      LoginMove now .invalidate f (content w) (LoginStep.as (fun _ => .done) r) (content w') := by
  refine (invalidate_spec hs f w).mono fun r w' hr => ?_
  obtain ⟨rfl, hw'⟩ | ⟨e, rfl, hw'⟩ := hr
  · rw [hw']
    exact .invalidated
  · rw [hw']
    exact .refused e nofun

theorem reload_moves (hs : store.Lawful content) (now : ClockTime) (f : LoginFlow) (w : σ) :
    After (f.reload store now) w fun r w' =>
      LoginMove now .reload f (content w) (LoginStep.as .found r) (content w') := by
  unfold reload
  split
  · exact .waited ‹_›
  · rename_i hf
    refine (hs.current now w).bind fun r w' hr => ?_
    cases r with
    | ok s =>
      obtain ⟨hu, hw'⟩ := hr
      refine After.pure_iff.2 ?_
      rw [hw']
      exact .reread (LoginStage.pending?_eq_none hf) hu
    | error e =>
      refine After.pure_iff.2 ?_
      rw [show content w' = content w from hr]
      exact .refused _ nofun

theorem logout_moves (hs : store.Lawful content) (hc : calls.Quiet content) (now : ClockTime)
    (f : LoginFlow) (w : σ) :
    After (f.logout store calls) w fun r w' =>
      LoginMove now .logout f (content w) (LoginStep.as (fun _ => .done) r) (content w') := by
  unfold logout
  split
  · rename_i hf
    obtain ⟨s, hst⟩ : ∃ s, f.state = .authenticated s := by
      cases h : f.state with
      | authenticated s => exact ⟨s, rfl⟩
      | unauthenticated => simp [isLoggedIn, session?, h, LoginStage.session?] at hf
      | codeReceived code => simp [isLoggedIn, session?, h, LoginStage.session?] at hf
    refine (hc.logout w).bind fun answer w' hw' => ?_
    refine (invalidate_spec hs f w').bind fun r w'' hr => ?_
    obtain ⟨rfl, hw''⟩ | ⟨e, rfl, hw''⟩ := hr
    · refine After.pure_iff.2 ?_
      rw [hw'']
      exact .loggedOut hst answer
    · refine After.pure_iff.2 ?_
      rw [hw'', hw']
      exact .refused e nofun
  · exact .refused _ nofun

/-- Every operation comes to one of the moves. -/
theorem perform_moves (hs : store.Lawful content) (hc : calls.Quiet content) (now : ClockTime)
    (f : LoginFlow) (action : LoginAction) (w : σ) :
    After (f.perform store calls now action) w fun step w' =>
      LoginMove now action f (content w) step (content w') := by
  cases action with
  | receive url => exact receive_moves now f url (content w)
  | exchange => exact exchange_moves hs hc now f w
  | complete url => exact complete_moves hs hc now f url w
  | adopt s => exact adopt_moves hs now f s w
  | adoptApiKey token =>
    unfold perform adoptApiKey
    rw [After.map_iff]
    exact (adopt_moves hs now f (.ofApiKey token) w).mono fun _ _ h => .keyAdopted h
  | invalidate => exact invalidate_moves hs now f w
  | reload => exact reload_moves hs now f w
  | logout => exact logout_moves hs hc now f w

/-! ## Runs -/

/-- A flow that starts from the store has the session that is usable in it. -/
theorem resume_spec (hs : store.Lawful content) (policy : SessionLifetime)
    (start : ClockTime) (w : σ) :
    After (resume store policy start) w fun r w' =>
      ∀ f, r = .ok f → f = ⟨.ofSession? (content w'), policy⟩ ∧
        content w' = Session.usable? start (content w) := by
  unfold resume
  refine (hs.current start w).bind fun r w' hr => ?_
  cases r with
  | ok s =>
    obtain ⟨hu, hw'⟩ := hr
    refine After.pure_iff.2 fun f hf => ?_
    cases hf
    rw [hw']
    exact ⟨rfl, hu⟩
  | error e =>
    refine After.pure_iff.2 fun f hf => ?_
    cases hf

/-- Starting from a store that never fails gives a flow. -/
theorem resume_reliable (hs : store.Reliable content) (policy : SessionLifetime)
    (start : ClockTime) (w : σ) :
    After (resume store policy start) w fun r w' => r = .ok ⟨.ofSession? (content w'), policy⟩ := by
  unfold resume
  refine (hs.current start w).bind fun r w' hr => ?_
  obtain ⟨rfl, hw'⟩ := hr
  refine After.pure_iff.2 ?_
  rw [hw']

/-- What every move preserves of the operations so far, the flow and the store holds after every
run. -/
theorem run_history (Inv : List LoginMoment → LoginFlow → Option Session → Prop)
    (hs : store.Lawful content) (hc : calls.Quiet content)
    (hstep : ∀ {past now action f c step c'}, LoginMove now action f c step c' → Inv past f c →
      Inv (past ++ [⟨now, action, f, step.1⟩]) step.2 c')
    (actions : List (ClockTime × LoginAction)) (past : List LoginMoment) (f : LoginFlow) (w : σ)
    (h : Inv past f (content w)) :
    After (f.run store calls actions) w fun r w' => Inv (past ++ r.1) r.2 (content w') := by
  induction actions generalizing past f w with
  | nil =>
    refine After.pure_iff.2 ?_
    rw [List.append_nil]
    exact h
  | cons act rest ih =>
    obtain ⟨now, action⟩ := act
    unfold run
    -- the rest of the run starts from the flow and the store that the first operation leaves
    refine (perform_moves hs hc now f action w).bind fun step w' hm => ?_
    refine (ih _ step.2 w' (hstep hm h)).bind fun r w'' hr => After.pure_iff.2 ?_
    rw [List.append_assoc, List.singleton_append] at hr
    exact hr

/-- What every move preserves of the flow and the store holds after every run. -/
theorem run_invariant (hs : store.Lawful content) (hc : calls.Quiet content)
    {Inv : LoginFlow → Option Session → Prop}
    (hstep : ∀ {now action f c step c'}, LoginMove now action f c step c' → Inv f c → Inv step.2 c')
    (actions : List (ClockTime × LoginAction)) (f : LoginFlow) (w : σ) (h : Inv f (content w)) :
    After (f.run store calls actions) w fun r w' => Inv r.2 (content w') :=
  run_history (fun _ => Inv) hs hc hstep actions [] f w h

/-- A run performs the operations in order, each at its time. -/
theorem run_moments (store : SessionStore σ) (calls : LoginCalls σ)
    (actions : List (ClockTime × LoginAction)) (f : LoginFlow) (w : σ) :
    After (f.run store calls actions) w
      fun r _ => r.1.map (fun m => (m.now, m.action)) = actions := by
  induction actions generalizing f w with
  | nil => exact rfl
  | cons act rest ih =>
    obtain ⟨now, action⟩ := act
    have hstep : After (f.perform store calls now action) w fun _ _ => True := trivial
    unfold run
    refine hstep.bind fun step w' _ => (ih step.2 w').bind fun r w'' hr => After.pure_iff.2 ?_
    rw [List.map_cons, hr]

/-- So does what every flow has that starts from a store. -/
theorem resumeAndRun_invariant (hs : store.Lawful content) (hc : calls.Quiet content)
    {Inv : LoginFlow → Option Session → Prop} (hstart : ∀ c policy, Inv ⟨.ofSession? c, policy⟩ c)
    (hstep : ∀ {now action f c step c'}, LoginMove now action f c step c' → Inv f c → Inv step.2 c')
    (policy : SessionLifetime) (start : ClockTime)
    (actions : List (ClockTime × LoginAction)) (w : σ) :
    After (resumeAndRun store calls policy start actions) w fun r w' =>
      ∀ moments f, r = .ok (moments, f) → Inv f (content w') := by
  unfold resumeAndRun
  refine (resume_spec hs policy start w).bind fun r w' hr => ?_
  cases r with
  | error e =>
    refine After.pure_iff.2 fun moments f hf => ?_
    cases hf
  | ok f =>
    obtain ⟨rfl, -⟩ := hr f rfl
    refine After.map_iff.2 ((run_invariant hs hc hstep actions _ w' (hstart _ policy)).mono
      fun r w'' hi => ?_)
    rintro moments g ⟨rfl⟩
    exact hi

end LoginFlow

end SigningConsole
