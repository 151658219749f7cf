import SigningConsole.Login.Flow
import SigningConsole.Proofs.Rejection
/-!
The exchange of a code does not depend on the session that is stored.

Two adapters for the same backend, with stores that have nothing to do with each other, are run
side by side (`Twins`). An exchange reads neither store, so the two runs do the same deeds and give
the same result. What it does to its own store is that a rejection clears it; it never saves. A
grant carries a credential whichever way the answer gave it, so that a login by code stores no
session without one.
-/

namespace SigningConsole

open Calendar

variable {σ τ α : Type}

/-! ## Two adapters side by side -/

/-- The two states have the same deeds. -/
def SameDeeds (deeds : σ → Deeds) (deeds' : τ → Deeds) (w : σ) (u : τ) : Prop := deeds w = deeds' u

/-- Computations that add the same deeds are alike, whatever else they do to their states. -/
theorem Alike.of_deeds {deeds : σ → Deeds} {deeds' : τ → Deeds} {m : StateM σ Unit}
    {m' : StateM τ Unit} (add : Deeds → Deeds)
    (hm : ∀ w, After m w fun _ w' => deeds w' = add (deeds w))
    (hm' : ∀ u, After m' u fun _ u' => deeds' u' = add (deeds' u)) :
    Alike (SameDeeds deeds deeds') m m' := by
  intro w u h
  have h : deeds w = deeds' u := h
  have hw : deeds (m.run w).2 = add (deeds w) := hm w
  have hu : deeds' (m'.run u).2 = add (deeds' u) := hm' u
  refine ⟨rfl, ?_⟩
  show deeds (m.run w).2 = deeds' (m'.run u).2
  rw [hw, hu, h]

namespace Adapter

/-- Two adapters for one backend that get the same outcomes after the same deeds. -/
structure Twins (a : Adapter σ) (a' : Adapter τ) (deeds : σ → Deeds)
    (deeds' : τ → Deeds) : Prop where
  base : a'.base = a.base
  does : a.Does deeds
  does' : a'.Does deeds'
  send : ∀ purpose request, Alike (SameDeeds deeds deeds') (a.send purpose request)
    (a'.send purpose request)

theorem forBackend_twins (store : SessionStore σ) (store' : SessionStore τ) (base loginUrl : Url)
    (backend : Backend) :
    (forBackend (Part.second : Part (σ × Traffic) Traffic) (store.onPart Part.first) base
      loginUrl backend).Twins
      (forBackend (Part.second : Part (τ × Traffic) Traffic) (store'.onPart Part.first) base
        loginUrl backend)
      (fun w => w.2.deeds) (fun u => u.2.deeds) where
  base := rfl
  does := forBackend_does store base loginUrl backend
  does' := forBackend_does store' base loginUrl backend
  send purpose request := by
    intro w u h
    have hdeeds : w.2.deeds = u.2.deeds := h
    have hsent : w.2.exchanges = u.2.exchanges := congrArg Deeds.exchanges hdeeds
    have houtcome : backend w.2.requests request = backend u.2.requests request := by
      unfold Traffic.requests
      rw [hsent]
    refine ⟨houtcome, ?_⟩
    show w.2.deeds.plus (some ⟨purpose, request, backend w.2.requests request⟩) =
      u.2.deeds.plus (some ⟨purpose, request, backend u.2.requests request⟩)
    rw [hdeeds, houtcome]

variable {a : Adapter σ} {a' : Adapter τ} {deeds : σ → Deeds} {deeds' : τ → Deeds}

theorem deliver_alike (h : a.Twins a' deeds deeds') (purpose : Purpose) (request : Request) :
    Alike (SameDeeds deeds deeds') (a.deliver purpose request) (a'.deliver purpose request) := by
  unfold deliver
  cases request.fault? with
  | some fault => exact .pure _
  | none => exact h.send purpose request

/-- How a rejection is dealt with differs by what clearing gives, but not by what is done. -/
theorem settle_alike (h : a.Twins a' deeds deeds') (url : Url) (outcome : Outcome) :
    Alike (SameDeeds deeds deeds') (a.settle url outcome).run (a'.settle url outcome).run := by
  unfold settle
  cases outcome with
  | error e => exact .pure _
  | ok answer =>
    have hreject : Alike (SameDeeds deeds deeds') (a.reject url) (a'.reject url) :=
      .of_deeds Deeds.redirected (reject_deeds h.does url) (reject_deeds h.does' url)
    have hnotify : Alike (SameDeeds deeds deeds') (a.notify answer.failureText)
        (a'.notify answer.failureText) :=
      .of_deeds (·.notified answer.failureText) (h.does.notify _) (h.does'.notify _)
    dsimp only
    split
    · exact hreject.bind fun _ => .pure _
    · split
      · exact .pure _
      · split
        · exact hnotify.bind fun _ => .pure _
        · exact .pure _

theorem perform_alike (h : a.Twins a' deeds deeds') (s : Option Session) (spec : CallPlan) :
    Alike (SameDeeds deeds deeds') (a.perform s spec).run (a'.perform s spec).run := by
  unfold perform
  rw [h.base]
  cases CallPlan.resolve a.base spec.path with
  | error e => exact .pure _
  | ok url =>
    dsimp only
    cases spec.request url ((s.map Session.headers).getD []) with
    | error e => exact .pure _
    | ok request =>
      exact (deliver_alike h .described request).bind fun outcome => settle_alike h url outcome

/-- An exchange reads no store. -/
theorem exchange_alike (h : a.Twins a' deeds deeds') (spec : CallPlan) :
    Alike (SameDeeds deeds deeds') (a.exchange spec).run (a'.exchange spec).run := by
  unfold exchange
  refine (perform_alike h none spec).bindExcept fun answer => ?_
  have hread : Alike (SameDeeds deeds deeds')
      (ExceptT.mk (pure (bodyGrant spec.response answer)) : Call σ Grant).run
      (ExceptT.mk (pure (bodyGrant spec.response answer)) : Call τ Grant).run := .pure _
  refine hread.bindExcept fun grant => ?_
  dsimp only
  split
  · exact .pure _
  · exact .pure _

end Adapter

/-! ## Credentials -/

namespace Session

/-- A browser session with a token or a cookie has a header to carry it. -/
theorem headers_ne_nil {s : Session} (hk : s.kind = .csrf)
    (h : s.token.isEmpty = false ∨ s.cookies.isEmpty = false) :
    s.headers ≠ [] := by
  intro hnone
  unfold headers at hnone
  obtain ⟨hcookies, htoken⟩ := List.append_eq_nil_iff.1 hnone
  obtain h | h := h
  · simp [h] at htoken
  · simp [hk, h] at hcookies

theorem headers_ofGrant {g : Grant} (h : g.isEmpty = false) : (ofGrant g).headers ≠ [] := by
  refine headers_ne_nil rfl ?_
  unfold Grant.isEmpty at h
  exact Bool.and_eq_false_iff.1 h

/-- An expiry carries no credential. -/
theorem headers_of_stamp {s s' : Session} {policy : SessionLifetime} {now : Instant}
    (h : s.stamp? policy now = some s') : s'.headers = s.headers := by
  unfold stamp? at h
  cases policy with
  | untilCleared =>
    cases h
    rfl
  | maxAge seconds =>
    obtain ⟨at', -, rfl⟩ := Option.map_eq_some_iff.1 h
    rfl

end Session

/-! ## What an exchange does -/

/-- What an exchange sends, given the description of it. -/
structure ExchangeReport (base : Url) (spec : CallPlan) (described : Option Exchange)
    (before after : Deeds) : Prop where
  /-- Nothing else is sent, and nothing twice. -/
  exchanges : after.exchanges = before.exchanges ++ described.toList
  described_iff : described.isSome ↔
    spec.Resolves base ∧ spec.badMime? = none ∧ ∀ r, spec.prepare base none = .ok r → r.CanBeSent
  described_request : ∀ x ∈ described, x.purpose = .described ∧
    spec.prepare base none = .ok x.request
  /-- The request carries no credential but the user of its own URL, and none if there is no user in
  it. -/
  headers : ∀ x ∈ described, ∃ url, CallPlan.resolve base spec.path = .ok url ∧
    x.request.headers = url.userHeaders ∧ (∀ h ∈ x.request.headers, h.1 = Url.userHeader) ∧
    (url.username = "" → url.password = none → x.request.headers = [])

/-- A request has a header for the user of its URL, those of the session, and no others. -/
theorem CallPlan.prepare_headers {base : Url} {s : Option Session} {spec : CallPlan} {r : Request}
    (h : spec.prepare base s = .ok r) :
    ∃ url, resolve base spec.path = .ok url ∧
      r.headers = url.userHeaders ++ (s.map Session.headers).getD [] := by
  obtain ⟨url, hurl, rfl⟩ := prepare_eq_ok h
  refine ⟨url, hurl, ?_⟩
  unfold Request.to
  dsimp only
  split <;> rfl

namespace Adapter

variable {a : Adapter σ} {deeds : σ → Deeds} {view : σ → α} {cleared : α → α}

theorem exchangeReport_of_performed {spec : CallPlan} {d d' : Deeds}
    {result : Except BackendError Answer} (h : Performed a.base none spec .ok d d' result) :
    ∃ described, ExchangeReport a.base spec described d d' ∧
      (described.bind (·.status?) = some 401 ↔ result = .error .unauthorized) := by
  have hp : Performed a.base none spec .ok (d.plus none) d' result := by
    rw [Deeds.plus_none]
    exact h
  obtain ⟨described, hreport⟩ := (hp.read (Answer.payload spec.response)).reports Primed.absent
  have hsent : d'.exchanges = d.exchanges ++ described.toList := by
    rw [hreport.exchanges, Option.toList_none, List.append_nil]
  refine ⟨described, ⟨hsent, hreport.described_iff, hreport.described_request, fun x hx => ?_⟩,
    h.unauthorized_iff hsent⟩
  obtain ⟨url, hurl, hheaders⟩ := CallPlan.prepare_headers (hreport.described_request x hx).2
  have hheaders : x.request.headers = url.userHeaders := hheaders.trans (List.append_nil _)
  refine ⟨url, hurl, hheaders, fun h hh => ?_, fun hname hpassword => ?_⟩
  · rw [hheaders] at hh
    exact Url.name_of_mem_userHeaders hh
  · exact hheaders.trans (Url.userHeaders_eq_nil hname hpassword)

/-- An exchange sends its request at most, a rejection clears the store, and a grant has a
credential. -/
theorem exchange_spec (hc : a.ClearsOnly view cleared) (hd : a.Does deeds)
    (spec : CallPlan) (w : σ) :
    After (a.exchange spec).run w fun r w' =>
      ∃ described, ExchangeReport a.base spec described (deeds w) (deeds w') ∧
        view w' = (if described.bind (·.status?) = some 401 then cleared (view w) else view w) ∧
        ∀ grant, r = .ok grant → described.bind (·.status?) ≠ some 401 ∧
          (Session.ofGrant grant).headers ≠ [] := by
  unfold exchange
  refine ((perform_view hc none spec w).and (perform_deeds hd none spec w)).bindExcept
    (fun answer w' hw' => ?_) fun e w' hw' => ?_
  · obtain ⟨hview, hperf⟩ := hw'
    obtain ⟨described, hreport, hiff⟩ := exchangeReport_of_performed hperf
    have haccepted : described.bind (·.status?) ≠ some 401 := by
      intro h₁
      cases hiff.1 h₁
    have hsame : view w' = if described.bind (·.status?) = some 401 then cleared (view w)
        else view w := by
      rw [if_neg haccepted]
      exact hview
    have hread : After (ExceptT.mk (pure (bodyGrant spec.response answer)) : Call σ Grant).run w'
        fun _ w'' =>
        w'' = w' := rfl
    refine hread.bindExcept (fun grant w'' hw'' => ?_) fun e w'' hw'' => ?_
    · rw [hw'']
      dsimp only
      -- the grant is looked at once the cookies are in it
      split
      · refine ⟨described, hreport, hsame, fun grant hg => ?_⟩
        cases hg
      · rename_i hempty
        refine ⟨described, hreport, hsame, fun grant hg => ?_⟩
        cases hg
        exact ⟨haccepted, Session.headers_ofGrant (Bool.eq_false_iff.2 hempty)⟩
    · rw [hw'']
      refine ⟨described, hreport, hsame, fun grant hg => ?_⟩
      cases hg
  · obtain ⟨hview, hperf⟩ := hw'
    obtain ⟨described, hreport, hiff⟩ := exchangeReport_of_performed hperf
    refine ⟨described, hreport, ?_, fun grant hg => ?_⟩
    · rw [hview]
      exact unlessRejected_eq hiff
    · cases hg

end Adapter

/-! ## What a login by code leaves -/

/-- The state of the store once it is cleared. -/
def SessionStore.cleared (store : SessionStore σ) (w : σ) : σ := (store.clear.run.run w).2

/-- What a login leaves: the store as it was, cleared, or as it is after the save of a session
with a credential. -/
inductive SessionStore.LoginLeaves (store : SessionStore σ) (w : σ) : σ → Prop where
  | same : LoginLeaves store w w
  | cleared : LoginLeaves store w (store.cleared w)
  | saved (s : Session) (h : s.headers ≠ []) : LoginLeaves store w ((store.save s).run.run w).2

/-- A code is exchanged beside the store, which it may clear; a grant leaves the store alone
and has a credential. -/
def LoginCalls.RedeemsApart (calls : LoginCalls τ) (store : SessionStore σ) (p : Part τ σ) : Prop :=
  ∀ code w, After (calls.redeem code).run w fun r w' =>
    (p.get w' = p.get w ∨ p.get w' = store.cleared (p.get w)) ∧
      ∀ grant, r = .ok grant → p.get w' = p.get w ∧ (Session.ofGrant grant).headers ≠ []

namespace LoginFlow

variable {store : SessionStore σ} {p : Part τ σ} {calls : LoginCalls τ}

theorem keep_leaves {s : Session} (hs : s.headers ≠ []) (now : ClockTime) (f : LoginFlow) (w : τ) :
    After (keep (store.onPart p) now s f) w fun _ w' => store.LoginLeaves (p.get w) (p.get w') := by
  unfold keep
  cases hstamp : s.stamp? f.policy now with
  | none => exact .same
  | some s' =>
    have hs' : s'.headers ≠ [] := by
      rw [Session.headers_of_stamp hstamp]
      exact hs
    have hsaved : After ((store.onPart p).save s').run w
        fun _ w' => p.get w' = ((store.save s').run.run (p.get w)).2 :=
      p.get_set _ _
    refine hsaved.bind fun r w' hw' => ?_
    have hleaves : store.LoginLeaves (p.get w) (p.get w') := by
      rw [hw']
      exact .saved s' hs'
    cases r with
    | ok _ => exact hleaves
    | error e => exact hleaves

/-- A login by code saves only the session of a grant, over a store that its exchange has left
alone. -/
theorem exchange_leaves (hr : calls.RedeemsApart store p) (now : ClockTime)
    (f : LoginFlow) (w : τ) :
    After (f.exchange (store.onPart p) calls now) w fun _ w' => store.LoginLeaves (p.get w)
      (p.get w') := by
  unfold exchange
  split
  · rename_i code _
    refine (hr code w).bind fun r w' hw' => ?_
    obtain ⟨hleft, hgrant⟩ := hw'
    cases r with
    | ok grant =>
      obtain ⟨hsame, hheaders⟩ := hgrant grant rfl
      rw [← hsame]
      exact keep_leaves hheaders now _ w'
    | error e =>
      refine After.pure_iff.2 ?_
      obtain hsame | hcleared := hleft
      · rw [hsame]
        exact .same
      · rw [hcleared]
        exact .cleared
  · exact .same

theorem complete_leaves (hr : calls.RedeemsApart store p) (now : ClockTime) (url : Url)
    (f : LoginFlow) (w : τ) :
    After (f.complete (store.onPart p) calls now url) w fun _ w' => store.LoginLeaves (p.get w)
      (p.get w') := by
  unfold complete
  split
  · rename_i g _
    exact exchange_leaves hr now g w
  · exact .same

end LoginFlow

namespace Adapter

/-- The state of the store is changed by clearing it. -/
theorem forBackend_clears (store : SessionStore σ) (base loginUrl : Url) (backend : Backend) :
    (forBackend (Part.second : Part (σ × Traffic) Traffic) (store.onPart Part.first) base loginUrl
      backend).ClearsOnly (fun w => w.1) store.cleared :=
  ⟨fun _ => rfl, fun _ _ _ => rfl, fun _ => rfl, fun _ _ => rfl, fun _ _ => rfl⟩

/-- An exchange of a code does the same and gives the same whatever the stores hold. It sends the
described request and nothing else, if the description has a request that can be sent, with no
credential but the user of the URL to which it goes; only a rejection changes the store, by clearing
it. A grant has a credential, so a login by code saves no session without one. -/
theorem exchange_ignores_session (store : SessionStore σ) (store' : SessionStore τ)
    (base loginUrl : Url) (backend : Backend) (spec : CallPlan) (w : σ) (w' : τ) (t : Traffic) :
    let a := forBackend Part.second (store.onPart Part.first) base loginUrl backend
    let a' := forBackend Part.second (store'.onPart Part.first) base loginUrl backend
    let run := (a.exchange spec).run.run (w, t)
    let run' := (a'.exchange spec).run.run (w', t)
    run.1 = run'.1 ∧ run.2.2.deeds = run'.2.2.deeds ∧
      (∃ described, ExchangeReport a.base spec described t.deeds run.2.2.deeds ∧
        run.2.1 = (if described.bind (·.status?) = some 401 then store.cleared w else w) ∧
        ∀ grant, run.1 = .ok grant → (Session.ofGrant grant).headers ≠ []) ∧
      ∀ (plan : RedirectCode → CallPlan) (logout : Call (σ × Traffic) Unit) (now : ClockTime)
        (f : LoginFlow),
        let calls : LoginCalls (σ × Traffic) := ⟨fun code => a.exchange (plan code), logout⟩
        After (f.exchange (store.onPart Part.first) calls now) (w, t)
          (fun _ v => store.LoginLeaves w v.1) ∧
          ∀ url, After (f.complete (store.onPart Part.first) calls now url) (w, t) fun _ v =>
            store.LoginLeaves w v.1 := by
  intro a a' run run'
  have hd : a.Does fun w => w.2.deeds := forBackend_does store base loginUrl backend
  have hc : a.ClearsOnly (fun w => w.1) store.cleared :=
    forBackend_clears store base loginUrl backend
  obtain ⟨hresult, hdeeds⟩ : run.1 = run'.1 ∧ run.2.2.deeds = run'.2.2.deeds :=
    exchange_alike (forBackend_twins store store' base loginUrl backend) spec (w, t) (w', t) rfl
  refine ⟨hresult, hdeeds, ?_, ?_⟩
  · obtain ⟨described, hreport, hstate, hgrant⟩ := exchange_spec hc hd spec (w, t)
    exact ⟨described, hreport, hstate, fun grant hg => (hgrant grant hg).2⟩
  · intro plan logout now f calls
    have hr : calls.RedeemsApart store Part.first := by
      intro code v
      refine (exchange_spec hc hd (plan code) v).mono fun r v' hv' => ?_
      obtain ⟨described, -, hstate, hgrant⟩ := hv'
      by_cases h₁ : described.bind (·.status?) = some 401
      · rw [if_pos h₁] at hstate
        refine ⟨.inr hstate, fun grant hg => ?_⟩
        exact absurd h₁ (hgrant grant hg).1
      · rw [if_neg h₁] at hstate
        exact ⟨.inl hstate, fun grant hg => ⟨hstate, (hgrant grant hg).2⟩⟩
    exact ⟨LoginFlow.exchange_leaves hr now f (w, t), fun url => LoginFlow.complete_leaves hr
      now url f (w, t)⟩

/-- Nothing is sent for a path that resolves if the part that goes with it has no valid content
type; and a request to an address with a user name carries that as its credential. -/
theorem exchange_not_sent_or_not_bare :
    let page (user : String) : Url :=
      ⟨"http", user, none, some (.name "example.com"), none, .segments [""], none, none⟩
    let a (base : Url) := forBackend Part.second (SessionStore.memory.onPart Part.first) base base
      (.scripted [.ok { status := 200 }])
    (¬ ∀ spec : CallPlan, spec.Resolves (a (page "")).base →
      (((a (page "")).exchange spec).run.run (none, {})).2.2.exchanges.length = 1) ∧
    ¬ ∀ (base : Url) (spec : CallPlan),
      ∀ x ∈ (((a base).exchange spec).run.run (none, {})).2.2.exchanges,
        ∀ h ∈ x.request.headers, h.1 ≠ "Authorization" := by
  intro page a
  constructor
  · intro h
    let spec : CallPlan :=
      { method := .post, path := "/x",
        body := .multipart { fileName := "f", mime := some "bad mime", bytes := [] } }
    have hresolves : spec.Resolves (a (page "")).base := by
      have hsome :
          (CallPlan.resolve (a (page "")).base spec.path).toOption.isSome := by decide +kernel
      cases hr : CallPlan.resolve (a (page "")).base spec.path with
      | ok url => exact ⟨url, hr⟩
      | error e =>
        rw [hr] at hsome
        cases hsome
    have hsent := h spec hresolves
    exact absurd hsent (by decide +kernel)
  · intro h
    exact absurd (h (page "ops") (.get "x" [])) (by decide +kernel)

end Adapter

end SigningConsole
