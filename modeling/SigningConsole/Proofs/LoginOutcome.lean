import SigningConsole.Console.Program
import SigningConsole.Proofs.FileStore
import SigningConsole.Proofs.InstantSums
import SigningConsole.Proofs.LoginRun
import SigningConsole.Proofs.Rejection
/-!
What the session file holds when a login has succeeded.

A login stamps its session and saves it (`Obtained`), and asks who is logged in afterwards. The
adapter through which that is asked takes the session away again if the answer rejects it. A login
by API key or by cookie fails then; a login by callback goes on without the identity. So a login
that has succeeded leaves a session that can be used just when its lifetime was not over at once and
no answer was a rejection.
-/

namespace SigningConsole

open Calendar Text

variable {σ α : Type}

/-! ## Lifetimes -/

/-- What is stored under the policy at one moment can still be used at another. -/
def SessionLifetime.Lasts (policy : SessionLifetime) (start t : Instant) : Prop :=
  match policy with
  | .untilCleared => True
  | .maxAge nanos => ∃ stop, start.addNanos? nanos = some stop ∧ t < stop

/-- Without a positive span nothing lasts at all. -/
theorem SessionLifetime.not_lasts_of_le {nanos : Int} (h : nanos ≤ 0) (start : Instant) :
    ¬ (maxAge nanos).Lasts start start := by
  rintro ⟨stop, hstop, hlt⟩
  exact Instant.not_le_iff.2 hlt ((Instant.addNanos?_le_iff hstop).2 h)

theorem Session.isExpired_of_stamp {s s' : Session} {policy : SessionLifetime} {start : Instant}
    (h : s.stamp? policy start = some s') (t : Instant) :
    s'.isExpired t ↔ ¬ policy.Lasts start t := by
  unfold stamp? at h
  cases policy with
  | untilCleared =>
    cases h
    exact iff_of_false nofun (not_not_intro trivial)
  | maxAge nanos =>
    obtain ⟨stop, hstop, rfl⟩ := Option.map_eq_some_iff.1 h
    have hexpired : isExpired { s with expiresAt := some stop } t ↔ stop ≤ t := decide_eq_true_iff
    have hlasts : (SessionLifetime.maxAge nanos).Lasts start t ↔ t < stop := by
      constructor
      · rintro ⟨stop', hstop', hlt⟩
        cases hstop.symm.trans hstop'
        exact hlt
      · exact fun hlt => ⟨stop, hstop, hlt⟩
    rw [hexpired, hlasts, ← Instant.not_le_iff, Classical.not_not]

/-! ## Sessions that are obtained -/

/-- The session was stamped and stored, and nothing that was sent for it was rejected. -/
structure Obtained (policy : SessionLifetime) (now : Instant) (content : σ → Option Session)
    (deeds : σ → Deeds) (w w' : σ) (s : Session) : Prop where
  stamped : ∃ given : Session, given.stamp? policy now = some s
  stored : content w' = some s
  accepted : Accepted deeds w w'

namespace LoginFlow

variable {store : SessionStore σ} {calls : LoginCalls σ} {content : σ → Option Session}
  {deeds : σ → Deeds}

theorem keep_keeps {view : σ → α} (hq : store.Quiet view) (now : ClockTime) (s : Session)
    (f : LoginFlow) :
    Keeps view (keep store now s f) := by
  intro w
  unfold keep
  cases s.stamp? f.policy now with
  | none => exact rfl
  | some s' =>
    refine (hq.save s' w).bind fun r w' hw' => ?_
    cases r with
    | ok _ => exact hw'
    | error e => exact hw'

theorem adopt_keeps {view : σ → α} (hq : store.Quiet view) (now : ClockTime) (s : Session)
    (f : LoginFlow) :
    Keeps view (f.adopt store now s) := by
  unfold adopt
  split
  · exact .pure _
  · exact keep_keeps hq now s f

/-- An operation of the flow changes no more than the store and the exchange of a code do. -/
theorem complete_keeps {view : σ → α} (hq : store.Quiet view)
    (hr : ∀ code, Keeps view (calls.redeem code).run) (now : ClockTime) (url : Url)
    (f : LoginFlow) : Keeps view (f.complete store calls now url) := by
  have hexchange : ∀ f : LoginFlow, Keeps view (f.exchange store calls now) := by
    intro f
    unfold exchange
    split
    · rename_i code _
      intro w
      refine (hr code w).bind fun r w' hw' => ?_
      cases r with
      | ok grant => exact (keep_keeps hq now _ _ w').mono fun _ _ h => Eq.trans h hw'
      | error e => exact hw'
    · exact .pure _
  unfold complete
  split
  · exact hexchange _
  · exact .pure _

theorem keep_obtains (hs : store.Lawful content) (hq : store.Quiet deeds)
    (now : ClockTime) (s : Session) (f : LoginFlow) (w : σ) :
    After (keep store now s f) w fun step w' =>
      ∀ s', step.1 = .ok s' → Obtained f.policy now.toInstant content deeds w w' s' := by
  refine ((keep_spec hs now s f w).and (keep_keeps hq now s f w)).mono fun step w' h s' hok => ?_
  obtain ⟨⟨kept, hst, rfl, hw'⟩ | ⟨e, rfl, -⟩, hd⟩ := h
  · cases hok
    exact ⟨⟨s, hst⟩, hw', .of_eq hd⟩
  · cases hok

theorem adopt_obtains (hs : store.Lawful content) (hq : store.Quiet deeds)
    (now : ClockTime) (s : Session) (f : LoginFlow) (w : σ) :
    After (f.adopt store now s) w fun step w' =>
      ∀ s', step.1 = .ok s' → Obtained f.policy now.toInstant content deeds w w' s' := by
  unfold adopt
  split
  · refine After.pure_iff.2 fun s' hok => ?_
    cases hok
  · exact keep_obtains hs hq now s f w

/-- The session of a code is stored whatever the exchange did to the store before. -/
theorem exchange_obtains (hs : store.Lawful content) (hq : store.Quiet deeds)
    (hr : ∀ code w, After (calls.redeem code).run w fun r w' => ∀ grant, r = .ok grant →
      Accepted deeds w w')
    (now : ClockTime) (f : LoginFlow) (w : σ) :
    After (f.exchange store calls now) w fun step w' =>
      ∀ s', step.1 = .ok s' → Obtained f.policy now.toInstant content deeds w w' s' := by
  unfold exchange
  split
  · rename_i code _
    refine (hr code w).bind fun answer w' ha => ?_
    cases answer with
    | ok grant =>
      refine (keep_obtains hs hq now _ _ w').mono fun step w'' h s' hok => ?_
      obtain ⟨hst, hw'', hd⟩ := h s' hok
      exact ⟨hst, hw'', (ha grant rfl).trans hd⟩
    | error e =>
      refine After.pure_iff.2 fun s' hok => ?_
      cases hok
  · refine After.pure_iff.2 fun s' hok => ?_
    cases hok

theorem receive_policy (f : LoginFlow) (url : Url) : (f.receive url).2.policy = f.policy := by
  obtain ⟨waiting, -, hr⟩ | ⟨-, -, hr⟩ | ⟨-, code, -, hr⟩ := receive_cases f url <;> rw [hr]

theorem complete_obtains (hs : store.Lawful content) (hq : store.Quiet deeds)
    (hr : ∀ code w, After (calls.redeem code).run w fun r w' => ∀ grant, r = .ok grant →
      Accepted deeds w w')
    (now : ClockTime) (url : Url) (f : LoginFlow) (w : σ) :
    After (f.complete store calls now url) w fun step w' =>
      ∀ s', step.1 = .ok s' → Obtained f.policy now.toInstant content deeds w w' s' := by
  have hpolicy := f.receive_policy url
  unfold complete
  split
  · rename_i g hg
    rw [hg] at hpolicy
    rw [← hpolicy]
    exact exchange_obtains hs hq hr now g w
  · refine After.pure_iff.2 fun s' hok => ?_
    cases hok

end LoginFlow

/-- A code is not exchanged by an answer that rejects it. -/
theorem Adapter.exchange_accepted {a : Adapter σ} {deeds : σ → Deeds} (hd : a.Does deeds)
    (spec : CallPlan) (w : σ) :
    After (a.exchange spec).run w fun r w' => ∀ grant, r = .ok grant → Accepted deeds w w' := by
  unfold exchange
  refine (perform_deeds hd none spec w).bindExcept (fun answer w' hp => ?_)
    fun e w' _ grant hok => ?_
  · obtain ⟨described, hsent, -, hiff, -⟩ := hp.described
    have haccepted : Accepted deeds w w' := by
      refine ⟨described.toList, hsent, fun x hx hrejects => ?_⟩
      cases hiff.1 ⟨x, hx, hrejects.2⟩
    have hread : After (ExceptT.mk (pure (bodyGrant spec.response answer)) : Call σ Grant).run w'
        fun _ w'' =>
        Accepted deeds w w'' := haccepted
    refine hread.bindExcept (fun grant w'' h => ?_) fun e w'' h grant _ => h
    dsimp only
    split
    · exact fun _ _ => h
    · exact fun _ _ => h
  · cases hok

/-- An exchange of a code leaves alone what neither clearing nor the rest of the adapter touches. -/
theorem Adapter.exchange_keeps {a : Adapter σ} {view : σ → α} (hc : a.ClearsOnly view id)
    (spec : CallPlan) :
    Keeps view (a.exchange spec).run := by
  have hperform : Keeps view (a.perform none spec).run := by
    intro w
    have h := perform_view hc none spec w
    simp only [unlessRejected_id] at h
    exact h
  unfold exchange
  refine hperform.bindExcept fun answer => Keeps.bindExcept (.pure _) fun grant => ?_
  dsimp only
  split
  · exact .pure _
  · exact .pure _

/-! ## The console's store and adapter -/

namespace SessionStore

/-- What a call finds is what is still usable of the content. -/
theorem Lawful.live?_eq {store : SessionStore σ} {content : σ → Option Session}
    (h : store.Lawful content) (hr : store.Readable content) (now : Instant) (w : σ) :
    store.live? now w = Session.usable? now (content w) := by
  cases hu : Session.usable? now (content w) with
  | some s =>
    obtain ⟨hs, hx⟩ := Session.usable?_eq_some_iff.1 hu
    have hcurrent := hr.current hs hx
    unfold After at hcurrent
    unfold live?
    rw [hcurrent]
    rfl
  | none =>
    have hcurrent := h.current now w
    unfold After at hcurrent
    unfold live?
    cases hfound : ((store.current now).run.run w).1 with
    | error e => rfl
    | ok c =>
      rw [hfound] at hcurrent
      obtain ⟨rfl, -⟩ := hcurrent
      rw [hu]
      rfl

end SessionStore

/-- What was done in the course of a console's commands. -/
def Console.deeds (c : Console) : Deeds := c.traffic.deeds

namespace Setup

variable (e : Setup)

/-- The session that the session file holds. -/
def stored (c : Console) : Option Session := SessionStore.held e.sessionPath c.files

theorem store_lawful : e.store.Lawful e.stored :=
  (SessionStore.file_lawful e.sessionPath).onPart Console.filesPart

theorem store_empties : e.store.Empties e.stored :=
  fun c => SessionStore.file_empties e.sessionPath c.files

theorem store_readable : e.store.Readable e.stored :=
  fun c => SessionStore.file_readable e.sessionPath c.files

theorem store_quiet : e.store.Quiet Console.deeds := SessionStore.onPart_quiet _ fun _ _ => rfl

theorem live?_eq (now : Instant) (c : Console) :
    e.store.live? now c = Session.usable? now (e.stored c) :=
  e.store_lawful.live?_eq e.store_readable now c

/-- The clock is read before what comes next. -/
theorem after_now {ε : Type} {k : ClockTime → ExceptT ε (StateM Console) α}
    {Q : Except ε α → Console → Prop} {c : Console}
    (h : After (k (e.clock c.readings)).run { c with readings := c.readings + 1 } Q) :
    After ((liftM e.now : ExceptT ε (StateM Console) ClockTime) >>= k).run c Q := h

theorem store_reads_no_clock : e.store.Quiet Console.readings :=
  SessionStore.onPart_quiet _ fun _ _ => rfl

theorem adapter_reads_no_clock : e.client.adapter.ClearsOnly Console.readings id :=
  ⟨fun _ => rfl, fun _ _ _ => rfl, fun _ => rfl, fun _ _ => rfl, fun _ _ => rfl⟩

theorem adapter_clears : e.client.adapter.ClearsOnly e.stored fun _ => none :=
  ⟨e.store_empties, fun _ _ _ => rfl, fun _ => rfl, fun _ _ => rfl, fun _ _ => rfl⟩

theorem adapter_does : e.client.adapter.Does Console.deeds :=
  ⟨e.store_quiet, fun _ _ _ => rfl, fun _ => rfl, fun _ _ => rfl, fun _ _ => rfl⟩

/-- The console's adapter keeps no record of what the store held. -/
theorem adapter_minds : e.client.adapter.Minds e.stored fun _ => [] where
  lawful := e.store_lawful
  remembers :=
    ⟨fun _ => List.nil_subset _, fun _ _ => List.nil_subset _, fun _ => List.nil_subset _⟩
  send _ _ _ := rfl
  redirect _ := rfl
  notify _ _ := rfl
  log _ _ := rfl

end Setup

/-! ## Asking who is logged in -/

/-- After a call the stored session can be used unless its time is over or an answer rejected it. -/
theorem StoredInCall.usable_iff {now : Instant} {sent : List Exchange}
    {cookies : List String} {s : Session} {c : Option Session}
    (h : StoredInCall now sent cookies (some s) c) (hx : ¬ s.isExpired now)
    (hr : (∃ x ∈ sent, x.Rejects) → c = none) (t : Instant) :
    (Session.usable? t c).isSome ↔ ¬ s.isExpired t ∧ ∀ x ∈ sent, ¬ x.Rejects := by
  have hkept : ∀ s' : Session, c = some s' → s'.expiresAt = s.expiresAt →
      ((Session.usable? t c).isSome ↔ ¬ s.isExpired t ∧ ∀ x ∈ sent, ¬ x.Rejects) := by
    intro s' hc hend
    have hexpired : s'.isExpired t = s.isExpired t := by
      unfold Session.isExpired
      rw [hend]
    have hno : ∀ x ∈ sent, ¬ x.Rejects := by
      intro x hx hrejects
      rw [hr ⟨x, hx, hrejects⟩] at hc
      cases hc
    rw [hc, Session.usable?_isSome_iff, hexpired]
    exact (and_iff_left hno).symm
  cases h with
  | same => exact hkept s rfl rfl
  | expired hx' => exact absurd hx' hx
  | rejected hx hp h₁ => exact iff_of_false (fun hn => by cases hn) fun hn => hn.2 _ hx ⟨hp, h₁⟩
  | @renewed _ raws _ => exact hkept _ rfl (s.expiresAt_absorbAll raws)

/-- A session whose time is over is taken away before a request, and nothing is stored in its
place. -/
theorem Adapter.request_expired {a : Adapter σ} {content : σ → Option Session}
    (h : a.ClearsOnly content fun _ => none) (hr : a.store.Readable content) {now : Instant}
    {w : σ} {s : Session} (hs : content w = some s) (hx : s.isExpired now) (spec : CallPlan) :
    After (a.request now spec).run w fun _ w' => content w' = none := by
  have hcurrent : After (a.store.current now).run w fun r w' => r.toOption.join = none ∧
      content w' = none := by
    unfold SessionStore.current
    refine (hr w s hs).bindExcept (fun c w' hc => ?_) fun e w' he => ?_
    · cases hc
      simp only [hx, if_true]
      exact (h.clear w').bindExcept (fun _ _ hw'' => ⟨rfl, hw''⟩) fun _ _ hw'' => ⟨rfl, hw''⟩
    · cases he
  have hfind : After (a.session? now) w fun used w' => used = none ∧ content w' = none := by
    unfold session?
    refine hcurrent.bind fun r w' hw' => ?_
    obtain ⟨hnone, hw'⟩ := hw'
    cases r with
    | error e => exact (h.log _ w').bind fun _ w'' hk => After.pure_iff.2 ⟨rfl, Eq.trans hk hw'⟩
    | ok c =>
      cases c with
      | none => exact ⟨rfl, hw'⟩
      | some s' => cases hnone
  unfold request
  refine hfind.bindLift fun used w₁ hw₁ => ?_
  obtain ⟨rfl, hw₁⟩ := hw₁
  have hperform : After (a.perform none spec).run w₁ fun _ w' => content w' = none := by
    refine (perform_view h none spec w₁).mono fun r w' hw' => hw'.trans ?_
    unfold unlessRejected
    split
    · rfl
    · exact hw₁
  exact hperform.bindExcept (fun _ _ hw' => hw') fun _ _ hw' => hw'

/-- A session was stamped and stored, and the clock was read but for the stamp. -/
structure Setup.Obtained (e : Setup) (policy : SessionLifetime) (before after : Console)
    (s : Session) : Prop where
  obtained : SigningConsole.Obtained policy (e.clock before.readings) e.stored Console.deeds
    before after s
  readings : after.readings = before.readings + 1

/-- What was sent between two states, and when the session can be used in the end: the clock was
read first for its stamp, and then to ask with it. -/
structure Setup.Outcome (e : Setup) (policy : SessionLifetime) (before after : Console)
    (sent : List Exchange) : Prop where
  exchanges : after.deeds.exchanges = before.deeds.exchanges ++ sent
  usable_iff : ∀ t, (Session.usable? t (e.stored after)).isSome ↔
    policy.Lasts (e.clock before.readings) (e.clock (before.readings + 1)) ∧
      policy.Lasts (e.clock before.readings) t ∧ ∀ x ∈ sent, ¬ x.Rejects

namespace Setup

variable {e : Setup} {policy : SessionLifetime} {before c c' : Console} {s : Session}
  {sent : List Exchange}

/-- What is printed, shown or logged afterwards changes nothing. -/
theorem Outcome.keep (h : e.Outcome policy before c sent) (hfiles : c'.files = c.files)
    (hd : c'.deeds = c.deeds) :
    e.Outcome policy before c' sent := by
  refine ⟨?_, ?_⟩
  · rw [hd]
    exact h.exchanges
  · unfold stored
    rw [hfiles]
    exact h.usable_iff

/-- So it is with a session that was obtained. -/
theorem Obtained.keep (h : e.Obtained policy before c s) (hfiles : c'.files = c.files)
    (hd : c'.deeds = c.deeds) (hreadings : c'.readings = c.readings) :
    e.Obtained policy before c' s := by
  obtain ⟨⟨hstamped, hstored, haccepted⟩, hread⟩ := h
  refine ⟨⟨hstamped, ?_, ?_⟩, hreadings.trans hread⟩
  · unfold stored
    rw [hfiles]
    exact hstored
  · unfold Accepted
    rw [hd]
    exact haccepted

/-- A request is made with the session that was obtained; a rejection is what the caller gets. -/
theorem request_outcome (h : e.Obtained policy before c s) (spec : CallPlan) :
    After (e.client.adapter.request (e.clock c.readings) spec).run
      { c with readings := c.readings + 1 } fun r after =>
      ∃ sent, e.Outcome policy before after sent ∧
        ((∃ x ∈ sent, x.Rejects) → r = .error .unauthorized) := by
  obtain ⟨⟨⟨given, hst⟩, hstored, earlier, hearlier, hno⟩, hread⟩ := h
  let asked := e.clock (before.readings + 1)
  let c₁ : Console := { c with readings := c.readings + 1 }
  have hasked : e.clock c.readings = asked := congrArg e.clock hread
  have hstored₁ : e.stored c₁ = some s := hstored
  have hexpired : After (e.client.adapter.request asked spec).run c₁ fun _ after =>
      s.isExpired asked → e.stored after = none := fun hx =>
    Adapter.request_expired e.adapter_clears e.store_readable hstored₁ hx spec
  rw [hasked]
  refine ((Adapter.request_stores e.adapter_minds e.adapter_does asked spec rfl).and hexpired).mono
    fun r after hr => ?_
  obtain ⟨⟨sent, hsent, hwithin, hrejected⟩, hgone⟩ := hr
  have hall : (∀ x ∈ earlier ++ sent, ¬ x.Rejects) ↔ ∀ x ∈ sent, ¬ x.Rejects := by
    constructor
    · intro h x hx
      exact h x (List.mem_append_right _ hx)
    · intro h x hx
      exact (List.mem_append.1 hx).elim (hno x) (h x)
  refine ⟨earlier ++ sent, ⟨?_, fun t => ?_⟩, ?_⟩
  · rw [hsent, ← List.append_assoc]
    exact congrArg (· ++ sent) hearlier
  · rw [hall]
    by_cases hx : s.isExpired asked
    · rw [hgone hx]
      exact iff_of_false nofun fun hn => (Session.isExpired_of_stamp hst asked).1 hx hn.1
    · have hstep := hwithin.now
      have hlasts : policy.Lasts (e.clock before.readings) asked :=
        Classical.not_not.1 (mt (Session.isExpired_of_stamp hst asked).2 hx)
      rw [hstored₁] at hstep
      rw [hstep.usable_iff hx (fun hx => (hrejected hx).2 e.store_empties) t,
        Session.isExpired_of_stamp hst, Classical.not_not]
      exact (and_iff_right hlasts).symm
  · rintro ⟨x, hx, hrejects⟩
    obtain hx | hx := List.mem_append.1 hx
    · exact absurd hrejects (hno x hx)
    · exact (hrejected ⟨x, hx, hrejects⟩).1

theorem userInfo_outcome (h : e.Obtained policy before c s) :
    After e.client.userInfo.run c fun r after => ∃ sent, e.Outcome policy before after sent ∧
      ((∃ x ∈ sent, x.Rejects) → r = .error .unauthorized) := by
  unfold Client.userInfo Client.json Adapter.json
  refine e.after_now ?_
  refine (request_outcome h Endpoint.userInfo).bindExcept (fun payload after hp => ?_)
    fun e after hp => ?_
  · -- the answer was taken, so it was no rejection, whether or not it can be read
    obtain ⟨sent, hout, hrejected⟩ := hp
    refine ⟨sent, hout, fun hx => ?_⟩
    cases hrejected hx
  · obtain ⟨sent, hout, hrejected⟩ := hp
    refine ⟨sent, hout, fun hx => ?_⟩
    cases hrejected hx
    rfl

end Setup

/-! ## Logging in -/

namespace Run

variable {e : Setup} {policy : SessionLifetime} {before c : Console} {s : Session}
  {op : LoginFlow → StateM Console (LoginStep Session)}

/-- An operation of the flow never fails as a step of a command. -/
theorem flow_obtains
    (h : After (op c.flow) c fun step c' => ∀ s, step.1 = .ok s → e.Obtained policy before c' s) :
    After (Run.flow op).run c fun r c' =>
      ∃ result, r = .ok result ∧ ∀ s, result = .ok s → e.Obtained policy before c' s := by
  refine ⟨_, rfl, fun s hok => ?_⟩
  exact (h s hok).keep rfl rfl rfl

/-- An operation of the flow with a stamp obtains its session, if it reads the clock only for
that. -/
theorem obtained_of_read {op : ClockTime → LoginFlow → StateM Console (LoginStep Session)}
    (h : ∀ now f c, After (op now f) c fun step c' =>
      ∀ s, step.1 = .ok s → Obtained f.policy now.toInstant e.stored Console.deeds c c' s)
    (hkeeps : ∀ now f, Keeps Console.readings (op now f)) {k : Except LoginError Session → Run α}
    {Q : Except Failure α → Console → Prop} (c : Console)
    (hk : ∀ result c', (∀ s, result = .ok s → e.Obtained c.flow.policy c c' s) →
      After (k result).run c' Q) :
    After (do k (← Run.flow (op (← e.now))) : Run α).run c Q := by
  refine e.after_now ?_
  have hop : After (op (e.clock c.readings) c.flow) { c with readings := c.readings + 1 }
      fun step c' =>
      ∀ s, step.1 = .ok s → e.Obtained c.flow.policy c c' s := by
    refine ((h _ _ _).and (hkeeps _ _ _)).mono fun step c' hstep s hok => ?_
    obtain ⟨hstamped, hstored, haccepted⟩ := hstep.1 s hok
    exact ⟨⟨hstamped, hstored, haccepted⟩, hstep.2⟩
  refine (flow_obtains hop).bindExcept (fun result c' hr => ?_) fun failure c' hr => ?_
  · obtain ⟨_, ⟨rfl⟩, hobtained⟩ := hr
    exact hk result c' hobtained
  · obtain ⟨_, hr, -⟩ := hr
    cases hr

/-- A change of the console is made before what comes next. -/
theorem modify_bind {f : Console → Console} {k : Unit → Run α}
    {Q : Except Failure α → Console → Prop} (h : After (k ()).run (f c) Q) :
    After ((modify f : Run Unit) >>= k).run c Q := h

theorem auth_after {α : Type} (result : Except LoginError α) (c : Console) :
    After (Run.auth result).run c fun r c' => c' = c ∧ ∀ a, r = .ok a → result = .ok a := by
  cases result with
  | ok a =>
    refine ⟨rfl, fun a' ha => ?_⟩
    cases ha
    rfl
  | error cause =>
    refine ⟨rfl, fun a ha => ?_⟩
    cases ha

theorem logExchange_after (result : Except LoginError Session) (c : Console) :
    After (Run.logExchange result).run c fun r c' =>
      c'.files = c.files ∧ c'.deeds = c.deeds ∧ c'.readings = c.readings ∧ r = .ok () := by
  unfold Run.logExchange
  split
  · exact ⟨rfl, rfl, rfl, rfl⟩
  · exact ⟨rfl, rfl, rfl, rfl⟩
  · exact ⟨rfl, rfl, rfl, rfl⟩

/-- Asking who is logged in fails on a rejection. -/
theorem identify_outcome (h : e.Obtained policy before c s) :
    After (Run.identify e).run c fun r after =>
      r = .ok () → ∃ sent, e.Outcome policy before after sent ∧ ∀ x ∈ sent, ¬ x.Rejects := by
  have hcall : After (Run.call e.client.userInfo).run c
      fun r after => ∃ sent, e.Outcome policy before after sent ∧
        ((∃ x ∈ sent, x.Rejects) → r = .error (.backend .unauthorized)) := by
    refine (Setup.userInfo_outcome h).bind fun r after hr => After.pure_iff.2 ?_
    obtain ⟨sent, hout, hrejected⟩ := hr
    refine ⟨sent, hout, fun hx => ?_⟩
    rw [hrejected hx]
    rfl
  unfold Run.identify
  refine hcall.bindExcept (fun me after hr => ?_) fun failure after _ hok => ?_
  · obtain ⟨sent, hout, hrejected⟩ := hr
    have hno : ∀ x ∈ sent, ¬ x.Rejects := by
      intro x hx hrejects
      cases hrejected ⟨x, hx, hrejects⟩
    exact fun _ => ⟨sent, hout.keep rfl rfl, hno⟩
  · cases hok

/-- A login with a session that is at hand: it is taken, and asked who is logged in. -/
theorem adopted_outcome (e : Setup) (s : Session) (entry : Log.Entry) (c : Console) :
    After (do
        let _ ← Run.auth (← Run.flow (LoginFlow.adopt e.store (← e.now) s))
        Run.log entry
        Run.identify e : Run Unit).run c fun r after =>
      r = .ok () → ∃ sent, e.Outcome c.flow.policy c after sent ∧ ∀ x ∈ sent, ¬ x.Rejects := by
  refine obtained_of_read
    (fun now f c => LoginFlow.adopt_obtains e.store_lawful e.store_quiet now s f c)
      (fun now f => LoginFlow.adopt_keeps e.store_reads_no_clock now s f) c
        fun result c₁ hobtained => ?_
  refine (auth_after result c₁).bindExcept (fun s c₂ hs => ?_) fun failure c₂ _ hok => ?_
  · obtain ⟨rfl, hs⟩ := hs
    have hlogged : e.Obtained c.flow.policy c { c₂ with traffic := c₂.traffic.addEntry entry } s :=
      (hobtained s (hs s rfl)).keep rfl rfl rfl
    unfold Run.log
    exact modify_bind (identify_outcome hlogged)
  · cases hok

theorem loginByKey_outcome (e : Setup) (key : String) (c : Console) :
    After (Run.loginByKey e key).run c fun r after =>
      r = .ok () → ∃ sent, e.Outcome c.flow.policy c after sent ∧ ∀ x ∈ sent, ¬ x.Rejects :=
  adopted_outcome e (.ofApiKey key) _ c

theorem loginWithCookie_outcome (e : Setup) (header : String) (c : Console) :
    After (Run.loginWithCookie e header).run c fun r after =>
      r = .ok () → ∃ sent, e.Outcome c.flow.policy c after sent ∧ ∀ x ∈ sent, ¬ x.Rejects := by
  unfold Run.loginWithCookie
  cases Session.ofCookieHeader? header with
  | none =>
    intro hok
    cases hok
  | some s => exact adopted_outcome e s _ c

/-- A login by callback succeeds once its session is stored, whatever the answer is to who is logged
in. -/
theorem loginWithCallback_outcome (e : Setup) (url : Url) (c : Console) :
    After (Run.loginWithCallback e url).run c fun r after =>
      r = .ok () → ∃ sent, e.Outcome c.flow.policy c after sent := by
  have hredeem : ∀ code c, After (e.client.auth.redeem code).run c fun r c' =>
      ∀ grant, r = .ok grant → Accepted Console.deeds c c' := by
    intro code c
    exact Adapter.exchange_accepted e.adapter_does _ c
  let opened : Console := { c with screen := c.screen.openLogin e.settings.loginUrl }
  unfold Run.loginWithCallback Run.screen
  refine modify_bind (obtained_of_read
    (fun now f c => LoginFlow.complete_obtains e.store_lawful e.store_quiet hredeem now url f c)
    (fun now f => LoginFlow.complete_keeps e.store_reads_no_clock
      (fun code => Adapter.exchange_keeps e.adapter_reads_no_clock _) now url f) opened
        fun result c₁ hobtained => ?_)
  refine (logExchange_after result c₁).bindExcept (fun _ c₂ hl => ?_) fun failure c₂ hl => ?_
  · obtain ⟨hfiles, hd, hreadings, -⟩ := hl
    cases result with
    | error cause =>
      intro hok
      cases hok
    | ok s =>
      have hlogged : e.Obtained c.flow.policy opened c₂ s :=
        (hobtained s rfl).keep hfiles hd hreadings
      refine (Setup.userInfo_outcome hlogged).bindLift fun answer c₃ ho => ?_
      obtain ⟨sent, ⟨hexchanges, husable⟩, -⟩ := ho
      exact fun _ => ⟨sent, hexchanges, husable⟩
  · obtain ⟨-, -, -, hl⟩ := hl
    cases hl

/-- A login that succeeds leaves its outcome, in spite of a rejection only by callback. -/
theorem login_outcome (e : Setup) {way : LoginWay} (hway : way ≠ .ask) (c : Console) :
    After (Run.login e way).run c fun r after => r = .ok () →
      ∃ sent, e.Outcome c.flow.policy c after sent ∧
      ((∃ x ∈ sent, x.Rejects) → ∃ url, way = .callback url) := by
  cases way with
  | ask => exact absurd rfl hway
  | apiKey key =>
    refine (loginByKey_outcome e key c).mono fun r after h hok => ?_
    obtain ⟨sent, hout, hno⟩ := h hok
    exact ⟨sent, hout, fun ⟨x, hx, hrejects⟩ => absurd hrejects (hno x hx)⟩
  | cookie header =>
    refine (loginWithCookie_outcome e header c).mono fun r after h hok => ?_
    obtain ⟨sent, hout, hno⟩ := h hok
    exact ⟨sent, hout, fun ⟨x, hx, hrejects⟩ => absurd hrejects (hno x hx)⟩
  | callback url =>
    refine (loginWithCallback_outcome e url c).mono fun r after h hok => ?_
    obtain ⟨sent, hout⟩ := h hok
    exact ⟨sent, hout, fun _ => ⟨url, rfl⟩⟩

end Run

namespace Command

/-- A command that runs to its end and succeeds has given nothing up. -/
theorem runToEnd_after {e : Setup} {c : Console} {command : Command} {Q : Console → Prop}
    (h : After (command.run e).run c fun r after => r = .ok () → Q after) :
    After (command.runToEnd e) c fun r after => r = .ok () → Q after := by
  unfold runToEnd
  refine h.bind fun r after hr => ?_
  split
  · have hgiven : After (giveUp e).run after fun _ _ => True := trivial
    refine hgiven.bind fun given after' _ => ?_
    cases given with
    | ok _ =>
      intro hok
      cases hok
    | error cause =>
      intro hok
      cases hok
  · exact hr

/-- A login that succeeds reads the clock to stamp its session, and again to ask who is logged in.
Its session can be used at a time just when its lifetime lasts until then, lasted until it was asked
with, and none of the answers that the login got was a rejection. Only a login by callback succeeds
in spite of a rejection. -/
theorem login_usable_iff (e : Setup) (way : LoginWay) (hway : way ≠ .ask) (c : Console) :
    let stamped := e.clock c.readings
    let asked := e.clock (c.readings + 1)
    After ((Command.login way).runToEnd e) c fun result after => result = .ok () →
      ∃ sent, after.traffic.exchanges = c.traffic.exchanges ++ sent ∧
        ((∃ x ∈ sent, x.Rejects) → ∃ url, way = .callback url) ∧
        ∀ t, (e.store.live? t after).isSome ↔
          c.flow.policy.Lasts stamped asked ∧ c.flow.policy.Lasts stamped t ∧
          ∀ x ∈ sent, ¬ x.Rejects := by
  intro stamped asked
  refine runToEnd_after ((Run.login_outcome e hway c).mono fun r after h hok => ?_)
  obtain ⟨sent, hout, hcallback⟩ := h hok
  refine ⟨sent, hout.exchanges, hcallback, fun t => ?_⟩
  rw [e.live?_eq]
  exact hout.usable_iff t

theorem eq_ok_of_isOk {r : Except Failure Unit} (h : r.isOk) : r = .ok () := by
  cases r with
  | ok _ => rfl
  | error e => cases h

/-- A login by API key whose identity request is answered leaves a session that can be used until
its minute is over. -/
theorem login_by_key_usable :
    let base : Url :=
      ⟨"http", "", none, some (.name "example.com"), none, .segments [""], none, none⟩
    let backend : Backend := .scripted
      [.ok { status := 200, body := .ok (Utf8.ofString "\x7b\"id\":1,\"email\":\"a@b\"\x7d") }]
    let clock : Clock := fun n => (ClockTime.of? (20 * n) 0).getD default
    let e : Setup := ⟨{ base, loginUrl := base }, "session.json", clock, false, backend, []⟩
    let c : Console :=
      { files := ∅, flow := ⟨.unauthenticated, .maxAge 60000000000⟩, keys := .empty .server
        statistics := { window := ⟨default, default, .day⟩ } }
    let run := ((Command.login (.apiKey "key")).runToEnd e).run c
    LoginWay.apiKey "key" ≠ .ask ∧ run.1 = .ok () ∧ (e.store.live? (clock 4) run.2).isSome ∧
      ¬ (e.store.live? (clock 5) run.2).isSome := by
  intro base backend clock e c
  -- a name for the run would let the kernel go through it once more at each use
  dsimp only
  have hway : LoginWay.apiKey "key" ≠ .ask := by
    intro h
    cases h
  have hok : (((Command.login (.apiKey "key")).runToEnd e).run c).1 = .ok () :=
    eq_ok_of_isOk (by decide +kernel)
  obtain ⟨sent, -, hcallback, husable⟩ := login_usable_iff e (.apiKey "key") hway c hok
  have hno : ∀ x ∈ sent, ¬ x.Rejects := by
    intro x hx hrejects
    obtain ⟨url, hurl⟩ := hcallback ⟨x, hx, hrejects⟩
    cases hurl
  have hends : (clock 2).addNanos? 60000000000 = some (clock 5) := by decide +kernel
  refine ⟨hway, hok,
    (husable _).2 ⟨⟨_, hends, by decide +kernel⟩, ⟨_, hends, by decide +kernel⟩, hno⟩, fun h => ?_⟩
  obtain ⟨-, ⟨stop, hstop, hlt⟩, -⟩ := (husable _).1 h
  cases hends.symm.trans hstop
  exact absurd hlt (by decide +kernel)

/-- A login by callback may succeed and leave no session. -/
theorem login_without_session :
    let base : Url :=
      ⟨"http", "", none, some (.name "example.com"), none, .segments [""], none, none⟩
    let c : Console :=
      { files := ∅, flow := ⟨.unauthenticated, .untilCleared⟩, keys := .empty .server
        statistics := { window := ⟨default, default, .day⟩ } }
    ¬ ∀ (outcomes : List Outcome) (way : LoginWay), way ≠ .ask →
      let e : Setup :=
        ⟨{ base, loginUrl := base }, "session.json", default, false, .scripted outcomes, []⟩
      After ((Command.login way).runToEnd e) c fun result after =>
        result = .ok () → (e.store.live? (e.clock after.readings) after).isSome := by
  intro base c h
  let url : Url :=
    ⟨"http", "", none, some (.name "localhost"), none, .segments [""], some "code=c0de", none⟩
  -- the code is exchanged for a cookie, and whatever is asked with it is rejected
  let outcomes : List Outcome :=
    [.ok { status := 302, headers := [("Set-Cookie", Utf8.ofString "signatrust=sess")] },
      .ok { status := 401 },
      .ok { status := 401 }]
  let e : Setup :=
    ⟨{ base, loginUrl := base }, "session.json", default, false, .scripted outcomes, []⟩
  have hway : LoginWay.callback url ≠ .ask := by
    intro h
    cases h
  have hrun :
      let run := ((Command.login (.callback url)).runToEnd e).run c
      run.1.isOk ∧ (e.store.live? (e.clock run.2.readings) run.2).isSome = false := by
    decide +kernel
  have hlive := h outcomes (.callback url) hway (eq_ok_of_isOk hrun.1)
  exact absurd hlive (ne_true_of_eq_false hrun.2)

end Command

end SigningConsole
