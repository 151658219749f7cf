import SigningConsole.Proofs.Deeds
/-!
What a call of the adapter sends, whom it tells, and what it gives.

`Answered` and `Performed` list the ways through the described request, with the deeds of each:
the description is no request, its request cannot be sent, or it is sent once and its answer is
settled by the status. `Primed` is what comes before: the request for a token.
`Adapter.request_reports` puts them together for a call on any store, with any backend and any
description, and says in one place (`CallReport`) what is sent, when the operator is sent to the
login or notified, and what the caller gets.
-/

namespace SigningConsole

open Calendar

variable {σ τ α : Type}

/-- The session that a call finds; one that cannot be read counts as none. -/
def SessionStore.live? (store : SessionStore σ) (now : Instant) (w : σ) : Option Session :=
  ((store.current now).run.run w).1.toOption.join

namespace CallPlan

/-- The path of the description is a URL, or names one below the backend's address. -/
def Resolves (base : Url) (spec : CallPlan) : Prop := ∃ url, resolve base spec.path = .ok url

/-- The request of a description with the headers of a session. -/
def prepare (base : Url) (s : Option Session) (spec : CallPlan) : Except RequestFault Request := do
  let url ← resolve base spec.path
  spec.request url ((s.map Session.headers).getD [])

/-- What is prepared is the request to the URL of the path, with the query of the description
behind the URL's own. -/
theorem prepare_eq_ok {base : Url} {s : Option Session} {spec : CallPlan} {r : Request}
    (h : spec.prepare base s = .ok r) :
    ∃ url, resolve base spec.path = .ok url ∧
      r = .to spec.method (if spec.query.isEmpty then url else url.addPairs spec.query)
        ((s.map Session.headers).getD []) spec.body := by
  unfold prepare at h
  cases hurl : resolve base spec.path with
  | error e =>
    rw [hurl] at h
    cases h
  | ok url =>
    rw [hurl] at h
    have hrequest : spec.request url ((s.map Session.headers).getD []) = .ok r := h
    unfold request at hrequest
    split at hrequest
    · cases hrequest
    · cases hrequest
      exact ⟨url, rfl, rfl⟩

theorem prepare_ok_iff {base : Url} {s : Option Session} {spec : CallPlan} :
    (∃ r, spec.prepare base s = .ok r) ↔ spec.Resolves base ∧ spec.badMime? = none := by
  unfold prepare Resolves request
  cases resolve base spec.path with
  | error e => simp [bind, Except.bind]
  | ok url => cases spec.badMime? <;> simp [bind, Except.bind]

end CallPlan

theorem Status.isAccepted_iff {status : Nat} :
    Status.isAccepted status ↔ 200 ≤ status ∧ status < 400 := by
  unfold Status.isAccepted
  rw [Bool.and_eq_true, decide_eq_true_iff, decide_eq_true_iff]

/-! ## The ways through a request -/

/-- How the outcome of a request that was sent is settled: the deeds and the result. -/
inductive Answered (take : Answer → Except BackendError α) :
    Outcome → Deeds → Deeds → Except BackendError α → Prop where
  | transport (e : TransportFault) (d : Deeds) :
      Answered take (.error e) d d (.error (.transport e))
  | unauthorized {answer : Answer} (h : answer.status = 401) (d : Deeds) :
      Answered take (.ok answer) d d.redirected (.error .unauthorized)
  | accepted {answer : Answer} (h : 200 ≤ answer.status ∧ answer.status < 400) (d : Deeds) :
      Answered take (.ok answer) d d (take answer)
  | server {answer : Answer} (h : answer.status = 500) (d : Deeds) :
      Answered take (.ok answer) d (d.notified answer.failureText)
        (.error (.server answer.failureText))
  | refused {answer : Answer} (h : ¬ (200 ≤ answer.status ∧ answer.status < 400))
      (h₁ : answer.status ≠ 401) (h₅ : answer.status ≠ 500) (d : Deeds) :
      Answered take (.ok answer) d d (.error (.status answer.status answer.failureText))

theorem Answered.of_error {take : Answer → Except BackendError α} {e : TransportFault}
    {d d' : Deeds} {result : Except BackendError α} (h : Answered take (.error e) d d' result) :
    d' = d ∧ result = .error (.transport e) := by
  cases h with
  | transport => exact ⟨rfl, rfl⟩

/-- An answer that was taken may be read further. -/
theorem Answered.read {outcome : Outcome} {d d' : Deeds} {result : Except BackendError Answer}
    (h : Answered .ok outcome d d' result) (take : Answer → Except BackendError α) :
    Answered take outcome d d' (result >>= take) := by
  cases h with
  | transport e => exact .transport e d
  | unauthorized h => exact .unauthorized h d
  | accepted h => exact .accepted h d
  | server h => exact .server h d
  | refused h h₁ h₅ => exact .refused h h₁ h₅ d

/-- What is done about a description: nothing, or its request is sent and the outcome settled. -/
inductive Performed (base : Url) (s : Option Session) (spec : CallPlan)
    (take : Answer → Except BackendError α) :
    Deeds → Deeds → Except BackendError α → Prop where
  | invalid {e : RequestFault} (h : spec.prepare base s = .error e) (d : Deeds) :
      Performed base s spec take d d (.error (.request e))
  | unsendable {r : Request} {fault : TransportFault} (h : spec.prepare base s = .ok r)
      (hf : r.fault? = some fault) (d : Deeds) :
      Performed base s spec take d d (.error (.transport fault))
  | sent {r : Request} {d d' : Deeds} {result : Except BackendError α} (outcome : Outcome)
      (h : spec.prepare base s = .ok r) (hs : r.CanBeSent)
      (ha : Answered take outcome (d.plus (some ⟨.described, r, outcome⟩)) d' result) :
      Performed base s spec take d d' result

theorem Performed.read {base : Url} {s : Option Session} {spec : CallPlan} {d d' : Deeds}
    {result : Except BackendError Answer} (h : Performed base s spec .ok d d' result)
    (take : Answer → Except BackendError α) :
    Performed base s spec take d d' (result >>= take) := by
  cases h with
  | invalid h => exact .invalid h d
  | unsendable h hf => exact .unsendable h hf d
  | sent outcome h hs ha => exact .sent outcome h hs (ha.read take)

/-- What is done to get the token that a session lacks, and the session with what came of it. -/
inductive Primed (a : Adapter σ) : Option Session → Option Exchange → Option Session → Prop where
  | absent : Primed a none none none
  | complete {s : Session} (h : ¬ s.needsToken) : Primed a (some s) none (some s)
  | unsendable {s : Session} (h : s.needsToken) (hs : ¬ (a.primingRequest s).CanBeSent) :
      Primed a (some s) none (some s)
  | unanswered {s : Session} (h : s.needsToken) (hs : (a.primingRequest s).CanBeSent)
      (e : TransportFault) :
      Primed a (some s) (some ⟨.priming, a.primingRequest s, .error e⟩) (some s)
  | answered {s : Session} (h : s.needsToken) (hs : (a.primingRequest s).CanBeSent)
      (answer : Answer) :
      Primed a (some s) (some ⟨.priming, a.primingRequest s, .ok answer⟩)
        (some (s.absorbAll answer.setCookies).1)

namespace Adapter

variable {a : Adapter σ} {deeds : σ → Deeds}

theorem prime_deeds (h : a.Does deeds) (s : Session) (hn : s.needsToken) (w : σ) :
    After (a.prime s) w fun s' w' =>
      ∃ primed, deeds w' = (deeds w).plus primed ∧ Primed a (some s) primed (some s') := by
  unfold prime
  refine (deliver_deeds h .priming (a.primingRequest s) w).bind fun outcome w' hd => ?_
  obtain ⟨primed, hw', hd⟩ := hd
  cases hd with
  | withheld hf =>
    exact (h.log _ w').bind fun _ w'' hw'' =>
      ⟨none, hw''.trans hw', .unsendable hn (Request.not_canBeSent hf)⟩
  | sent hs =>
    cases outcome with
    | ok answer =>
      refine (absorb_deeds h s answer w').mono fun s' w'' hw'' => ?_
      obtain ⟨rfl, hw''⟩ := hw''
      exact ⟨_, hw''.trans hw', .answered hn hs answer⟩
    | error e => exact (h.log _ w').bind fun _ w'' hw'' => ⟨_, hw''.trans hw', .unanswered hn hs e⟩

/-- The session of a call is the one that the store holds, primed where it lacks its token. -/
theorem session?_deeds (h : a.Does deeds) (now : Instant) (w : σ) :
    After (a.session? now) w fun used w' =>
      ∃ primed, deeds w' = (deeds w).plus primed ∧ Primed a (a.store.live? now w) primed used := by
  have hcurrent : After (a.store.current now).run w fun r w' =>
      r.toOption.join = a.store.live? now w ∧ deeds w' = deeds w := ⟨rfl, h.store.current now w⟩
  unfold session?
  refine hcurrent.bind fun r w' hr => ?_
  obtain ⟨hr, hw'⟩ := hr
  rw [← hr]
  cases r with
  | error e =>
    refine (h.log _ w').bind fun _ w'' hw'' => ⟨none, ?_, .absent⟩
    rw [Deeds.plus_none]
    exact hw''.trans hw'
  | ok c =>
    cases c with
    | none => exact ⟨none, hw'.trans (Deeds.plus_none _).symm, .absent⟩
    | some s =>
      by_cases hn : s.needsToken
      · simp only [hn, if_true]
        rw [← hw']
        exact After.map_iff.2 (prime_deeds h s hn w')
      · simp only [hn, Bool.false_eq_true, if_false]
        exact ⟨none, hw'.trans (Deeds.plus_none _).symm, .complete hn⟩

theorem reject_deeds (h : a.Does deeds) (url : Url) (w : σ) :
    After (a.reject url) w fun _ w' => deeds w' = (deeds w).redirected := by
  unfold reject
  refine (h.log _ w).bind fun _ w₁ h₁ => (h.store.clear w₁).bind fun r w₂ h₂ => ?_
  cases r with
  | ok _ =>
    refine (h.redirect w₂).mono fun _ w₃ h₃ => ?_
    rw [h₃, h₂, h₁]
  | error e =>
    refine (h.log _ w₂).bind fun _ w₃ h₃ => (h.redirect w₃).mono fun _ w₄ h₄ => ?_
    rw [h₄, h₃, h₂, h₁]

/-- The outcome of a request is settled by its status. -/
theorem settle_deeds (h : a.Does deeds) (url : Url) (outcome : Outcome) (w : σ) :
    After (a.settle url outcome).run w fun result w' => Answered .ok outcome (deeds w)
      (deeds w') result := by
  unfold settle
  cases outcome with
  | error e => exact .transport e _
  | ok answer =>
    by_cases h₁ : answer.status = 401
    · simp only [h₁, if_true]
      refine (reject_deeds h url w).bind fun _ w' hw' => After.pure_iff.2 ?_
      rw [hw']
      exact .unauthorized h₁ _
    · simp only [h₁, if_false]
      by_cases ha : Status.isAccepted answer.status
      · simp only [ha, if_true]
        exact After.pure_iff.2 (.accepted (Status.isAccepted_iff.1 ha) _)
      · simp only [ha, Bool.false_eq_true, if_false]
        by_cases h₅ : answer.status = 500
        · simp only [h₅, if_true]
          refine (h.notify _ w).bind fun _ w' hw' => After.pure_iff.2 ?_
          rw [hw']
          exact .server h₅ _
        · simp only [h₅, if_false]
          exact After.pure_iff.2 (.refused (mt Status.isAccepted_iff.2 ha) h₁ h₅ _)

/-- The described request is sent once, if there is one and it can be sent. -/
theorem perform_deeds (h : a.Does deeds) (s : Option Session) (spec : CallPlan) (w : σ) :
    After (a.perform s spec).run w fun result w' => Performed a.base s spec .ok (deeds w)
      (deeds w') result := by
  unfold perform
  cases hurl : CallPlan.resolve a.base spec.path with
  | error e =>
    refine After.pure_iff.2 (.invalid ?_ _)
    unfold CallPlan.prepare
    rw [hurl]
    rfl
  | ok url =>
    have hprepare : spec.prepare a.base s = spec.request url ((s.map Session.headers).getD []) := by
      unfold CallPlan.prepare
      rw [hurl]
      rfl
    dsimp only
    cases hr : spec.request url ((s.map Session.headers).getD []) with
    | error e => exact After.pure_iff.2 (.invalid (hprepare.trans hr) _)
    | ok request =>
      refine (deliver_deeds h .described request w).bindLift fun outcome w' hd => ?_
      obtain ⟨sent, hw', hd⟩ := hd
      refine (settle_deeds h url outcome w').mono fun result w'' hs => ?_
      rw [hw'] at hs
      cases hd with
      | withheld hf =>
        rw [Deeds.plus_none] at hs
        obtain ⟨hd, rfl⟩ := hs.of_error
        rw [hd]
        exact .unsendable (hprepare.trans hr) hf _
      | sent hc => exact .sent outcome (hprepare.trans hr) hc hs

theorem conclude_deeds (h : a.Does deeds) (s : Option Session) (answer : Answer) :
    Keeps deeds (a.conclude s answer) := by
  intro w
  cases s with
  | none => exact rfl
  | some s => exact (absorb_deeds h s answer w).bind fun _ w' hw' => hw'.2

/-- A call primes its session, sends the described request, and reads an answer that was taken. -/
theorem request_deeds (h : a.Does deeds) (now : Instant) (spec : CallPlan) (w : σ) :
    After (a.request now spec).run w fun result w' => ∃ primed used,
      Primed a (a.store.live? now w) primed used ∧
        Performed a.base used spec (Answer.payload spec.response) ((deeds w).plus primed)
          (deeds w') result := by
  unfold request
  refine (session?_deeds h now w).bindLift fun used w' hp => ?_
  obtain ⟨primed, hw', hp⟩ := hp
  refine (perform_deeds h used spec w').bindExcept (fun answer w'' ha => ?_) fun e w'' he => ?_
  · refine (conclude_deeds h used answer w'').bindLift fun _ w₃ hw₃ => ?_
    refine After.pure_iff.2 ⟨primed, used, hp, ?_⟩
    rw [hw₃, ← hw']
    exact ha.read _
  · rw [hw'] at he
    exact ⟨primed, used, hp, he.read _⟩

end Adapter

/-! ## The report of a call -/

namespace Exchange

/-- The status of the answer, if there is one. -/
def status? (x : Exchange) : Option Nat := x.outcome.toOption.map (·.status)

/-- What is notified of the answer: the failure, if the status is 500. -/
def notice? (x : Exchange) : Option String :=
  match x.outcome with
  | .ok answer => if answer.status = 500 then some answer.failureText else none
  | .error _ => none

/-- What the caller gets, where `take` reads the answers that are taken. -/
def result (take : Answer → Except BackendError α) (x : Exchange) : Except BackendError α :=
  match x.outcome with
  | .error e => .error (.transport e)
  | .ok answer =>
    if answer.status = 401 then .error .unauthorized
    else if answer.status = 500 then .error (.server answer.failureText)
    else if 200 ≤ answer.status ∧ answer.status < 400 then take answer
    else .error (.status answer.status answer.failureText)

end Exchange

/-- What is sent before a described request, and the session that it leaves. -/
structure PrimingReport (a : Adapter σ) (live : Option Session) (primed : Option Exchange)
    (used : Option Session) : Prop where
  /-- The backend is asked for a token just for a browser session with cookies and without token. -/
  primed_iff : primed.isSome ↔ ∃ s, live = some s ∧ s.kind = .csrf ∧ s.cookies.isEmpty = false ∧
    s.token = "" ∧ (a.primingRequest s).CanBeSent
  primed_request : ∀ x ∈ primed, x.purpose = .priming ∧ ∃ s, live = some s ∧
    x.request = a.primingRequest s
  /-- The described request goes with the session that was found and the cookies of the answer. -/
  used_eq : used = live.map fun s =>
    match primed.bind (·.outcome.toOption) with
    | some answer => (s.absorbAll answer.setCookies).1
    | none => s

/-- What a call does and gives, where `described` is the described request with its
outcome, if it is sent. -/
structure CallReport (a : Adapter σ) (live used : Option Session) (spec : CallPlan)
    (primed described : Option Exchange) (before after : Deeds)
    (result : Except BackendError Payload) : Prop extends PrimingReport a live primed used where
  /-- Nothing else is sent, and nothing twice. -/
  exchanges : after.exchanges = before.exchanges ++ primed.toList ++ described.toList
  described_iff : described.isSome ↔
    spec.Resolves a.base ∧ spec.badMime? = none ∧
    ∀ r, spec.prepare a.base used = .ok r → r.CanBeSent
  described_request : ∀ x ∈ described, x.purpose = .described ∧
    spec.prepare a.base used = .ok x.request
  redirects : after.redirects =
    before.redirects + if described.bind (·.status?) = some 401 then 1 else 0
  notices : after.notices = before.notices ++ (described.bind (·.notice?)).toList
  invalid : ¬ (spec.Resolves a.base ∧ spec.badMime? = none) → ∃ e, result = .error (.request e)
  unsendable : spec.Resolves a.base ∧ spec.badMime? = none → described = none →
    ∃ e, result = .error (.transport e)
  answered : ∀ x ∈ described, result = x.result (Answer.payload spec.response)

theorem Session.needsToken_iff (s : Session) :
    s.needsToken ↔ s.kind = .csrf ∧ s.cookies.isEmpty = false ∧ s.token = "" := by
  unfold needsToken
  simp [and_assoc, and_comm, and_left_comm]

theorem Primed.reports {a : Adapter σ} {live used : Option Session} {primed : Option Exchange}
    (h : Primed a live primed used) : PrimingReport a live primed used := by
  cases h with
  | absent => exact ⟨by simp, by simp, rfl⟩
  | complete h =>
    rw [Session.needsToken_iff] at h
    refine ⟨?_, by simp, rfl⟩
    simpa using fun h₁ h₂ h₃ => absurd ⟨h₁, h₂, h₃⟩ h
  | unsendable h hs => exact ⟨by simp [hs], by simp, rfl⟩
  | unanswered h hs e =>
    rw [Session.needsToken_iff] at h
    exact ⟨by simp [h, hs], by simp, rfl⟩
  | answered h hs answer =>
    rw [Session.needsToken_iff] at h
    exact ⟨by simp [h, hs], by simp, rfl⟩

/-- What an outcome adds to the deeds, and the result, by its status. -/
theorem Answered.adds {take : Answer → Except BackendError α} (x : Exchange) {d d' : Deeds}
    {result : Except BackendError α} (h : Answered take x.outcome d d' result) :
    d' = ⟨d.exchanges, d.redirects + if x.status? = some 401 then 1
      else 0, d.notices ++ x.notice?.toList⟩ ∧
      result = x.result take := by
  obtain ⟨purpose, request, outcome⟩ := x
  cases h with
  | transport e => simp [Exchange.status?, Exchange.notice?, Exchange.result, Except.toOption]
  | unauthorized h =>
    simp [Exchange.status?, Exchange.notice?, Exchange.result, Except.toOption, Deeds.redirected, h]
  | @accepted answer h =>
    have h₁ : answer.status ≠ 401 := by omega
    have h₅ : answer.status ≠ 500 := by omega
    simp [Exchange.status?, Exchange.notice?, Exchange.result, Except.toOption, h, h₁, h₅]
  | server h =>
    simp [Exchange.status?, Exchange.notice?, Exchange.result, Except.toOption, Deeds.notified, h]
  | @refused answer h h₁ h₅ =>
    have hresult : (Exchange.mk purpose request (.ok answer)).result take =
        .error (.status answer.status answer.failureText) := by
      unfold Exchange.result
      simp only [h₁, h₅, h, if_false]
    rw [hresult]
    simp [Exchange.status?, Exchange.notice?, Except.toOption, h₁, h₅]

/-- A description that was performed has its report. -/
theorem Performed.reports {a : Adapter σ} {live used : Option Session} {spec : CallPlan}
    {primed : Option Exchange} {d d' : Deeds} {result : Except BackendError Payload}
    (hp : Primed a live primed used)
    (h : Performed a.base used spec (Answer.payload spec.response) (d.plus primed) d' result) :
    ∃ described, CallReport a live used spec primed described d d' result := by
  have hvalid : ∀ {r}, spec.prepare a.base used = .ok r → spec.Resolves a.base ∧
      spec.badMime? = none :=
    fun h => CallPlan.prepare_ok_iff.1 ⟨_, h⟩
  -- the deeds before the described request, so that the cases can fix those after it
  generalize hd₀ : d.plus primed = d₀ at h
  cases h with
  | @invalid e hr =>
    have hno : ¬ (spec.Resolves a.base ∧ spec.badMime? = none) := fun hv => by
      obtain ⟨r, hr'⟩ := CallPlan.prepare_ok_iff.2 hv
      cases hr.symm.trans hr'
    subst hd₀
    refine ⟨none, ⟨hp.reports, ?_, ?_, ?_, ?_, ?_, fun _ => ⟨e, rfl⟩, fun hv => absurd hv hno, ?_⟩⟩
    · simp [Deeds.plus]
    · simpa using fun h₁ h₂ => absurd ⟨h₁, h₂⟩ hno
    · simp
    · simp [Deeds.plus]
    · simp [Deeds.plus]
    · simp
  | @unsendable r fault hr hf =>
    subst hd₀
    refine ⟨none, ⟨hp.reports, ?_, ?_, ?_, ?_, ?_, fun hno => absurd (hvalid hr) hno, fun _ _ =>
      ⟨fault, rfl⟩, ?_⟩⟩
    · simp [Deeds.plus]
    · simpa using fun _ _ => ⟨r, hr, Request.not_canBeSent hf⟩
    · simp
    · simp [Deeds.plus]
    · simp [Deeds.plus]
    · simp
  | @sent r _ _ _ outcome hr hs ha =>
    subst hd₀
    obtain ⟨rfl, hresult⟩ := Answered.adds ⟨.described, r, outcome⟩ ha
    refine ⟨some ⟨.described, r, outcome⟩,
      ⟨hp.reports, ?_, ?_, ?_, ?_, ?_, fun hno => absurd (hvalid hr) hno, ?_, ?_⟩⟩
    · simp [Deeds.plus]
    · obtain ⟨hpath, hmime⟩ := hvalid hr
      simpa [hpath, hmime, hr] using hs
    · simpa using hr
    · simp [Deeds.plus]
    · simp [Deeds.plus]
    · simp
    · simpa using hresult

/-- A call has its report whatever the store holds, the description says and the backend answers. -/
theorem Adapter.request_reports (store : SessionStore τ) (base loginUrl : Url) (backend : Backend)
    (now : Instant) (spec : CallPlan) (w : τ × Traffic) :
    let a := Adapter.forBackend Part.second (store.onPart Part.first) base loginUrl backend
    After (a.request now spec).run w fun result w' =>
      ∃ primed described used,
        CallReport a (a.store.live? now w) used spec primed described w.2.deeds w'.2.deeds
          result := by
  intro a
  refine (request_deeds (Adapter.forBackend_does store base loginUrl backend) now spec w).mono
    fun result w' h => ?_
  obtain ⟨primed, used, hp, h⟩ := h
  obtain ⟨described, h⟩ := h.reports hp
  exact ⟨primed, described, used, h⟩

/-- A path may be a URL to which nothing can be sent. -/
theorem Adapter.resolved_path_not_sent :
    let base : Url :=
      ⟨"http", "", none, some (.name "example.com"), none, .segments [""], none, none⟩
    let a := Adapter.forBackend Part.second (SessionStore.memory.onPart Part.first) base base
      fun _ _ => .ok { status := 200 }
    ¬ ∀ spec : CallPlan, spec.Resolves a.base → spec.badMime? = none →
      ((a.request default spec).run.run (none, {})).2.2.exchanges.length = 1 := by
  intro base a h
  have hresolves : (CallPlan.get "mailto:x" []).Resolves a.base := by
    have hsome : (CallPlan.resolve a.base "mailto:x").toOption.isSome := by decide +kernel
    cases hr : CallPlan.resolve a.base "mailto:x" with
    | ok url => exact ⟨url, hr⟩
    | error e =>
      rw [hr] at hsome
      cases hsome
  have hsent := h (.get "mailto:x" []) hresolves rfl
  exact absurd hsent (by decide +kernel)

end SigningConsole
