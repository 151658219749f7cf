import SigningConsole.Http.Adapter
import SigningConsole.Proofs.Store
/-!
What calls of the backend do to the session that is stored.

A call writes to the store from two places, with a copy of the session that it read before, and
clears it from two others. Each time the session that it leaves descends from the one that was
there: it is gone, or it has the same holder and the same end, and an API key is unchanged. As
descending goes on from one write to the next, a session that is gone stays gone.

`SessionStore.watched` keeps a list of what the store holds after each of its operations, so
that this is said of every moment of a call and not only of its end. `Trail` is the
invariant that carries it.
-/

namespace SigningConsole

open Calendar Text

variable {σ τ α : Type}

/-! ## Descent -/

/-- The same credential kind, identity and end, and the same session if it is an API key. -/
structure Session.SameHolder (s s' : Session) : Prop where
  kind : s'.kind = s.kind
  email : s'.email = s.email
  userId : s'.userId = s.userId
  expiresAt : s'.expiresAt = s.expiresAt
  apiKey : s.kind = .apiKey → s' = s

namespace Session.SameHolder

theorem refl (s : Session) : s.SameHolder s := ⟨rfl, rfl, rfl, rfl, fun _ => rfl⟩

theorem trans {s s' s'' : Session} (h : s.SameHolder s') (h' : s'.SameHolder s'') :
    s.SameHolder s'' where
  kind := h'.kind.trans h.kind
  email := h'.email.trans h.email
  userId := h'.userId.trans h.userId
  expiresAt := h'.expiresAt.trans h.expiresAt
  apiKey hk := (h'.apiKey (h.kind.trans hk)).trans (h.apiKey hk)

end Session.SameHolder

/-- What is stored later is nothing, or a session with the holder of the one before. -/
def Descends (c c' : Option Session) : Prop :=
  c' = none ∨ ∃ s s', c = some s ∧ c' = some s' ∧ s.SameHolder s'

namespace Descends

theorem refl (c : Option Session) : Descends c c := by
  cases c with
  | none => exact .inl rfl
  | some s => exact .inr ⟨s, s, rfl, rfl, .refl s⟩

theorem trans {c c' c'' : Option Session} (h : Descends c c') (h' : Descends c' c'') :
    Descends c c'' := by
  obtain rfl | ⟨s', s'', rfl, rfl, hs'⟩ := h'
  · exact .inl rfl
  · obtain hnone | ⟨s, _, rfl, ⟨rfl⟩, hs⟩ := h
    · cases hnone
    · exact .inr ⟨s, s'', rfl, rfl, hs.trans hs'⟩

end Descends

/-- Cookies change the token and the cookies of a browser session, and nothing of an API key. -/
theorem Session.absorb_sameHolder (s : Session) (raw : String) : s.SameHolder (s.absorb raw).1 := by
  unfold absorb
  cases hk : s.kind with
  | apiKey => exact .refl s
  | csrf => exact ⟨hk.symm, rfl, rfl, rfl, fun h => absurd (hk.symm.trans h) nofun⟩

theorem Session.absorbAll_sameHolder (s : Session) (raws : List String) :
    s.SameHolder (s.absorbAll raws).1 := by
  induction raws generalizing s with
  | nil => exact .refl s
  | cons raw raws ih => exact (s.absorb_sameHolder raw).trans (ih _)

/-! ## A store that is watched -/

namespace SessionStore

/-- The store with a list of what it holds after each operation. -/
def watched (store : SessionStore τ) (content : τ → Option Session) :
    SessionStore (τ × List (Option Session)) :=
  let watch {α : Type} (m : StoreM τ α) : StoreM (τ × List (Option Session)) α := ExceptT.mk do
    let r ← Part.first.run m.run
    modify fun w => (w.1, w.2 ++ [content w.1])
    return r
  { load := watch store.load
    save := fun s => watch (store.save s)
    clear := watch store.clear }

/-- Each operation of the store adds the content that it leaves to the past. -/
structure Recorded (store : SessionStore σ) (content : σ → Option Session)
    (past : σ → List (Option Session)) : Prop where
  load : ∀ w, After store.load.run w fun _ w' => past w' = past w ++ [content w']
  save : ∀ s w, After (store.save s).run w fun _ w' => past w' = past w ++ [content w']
  clear : ∀ w, After store.clear.run w fun _ w' => past w' = past w ++ [content w']

theorem watched_lawful {store : SessionStore τ} {content : τ → Option Session}
    (h : store.Lawful content) :
    (store.watched content).Lawful fun w => content w.1 :=
  ⟨fun w => h.load w.1, fun s hs w => h.save s hs.of_comp w.1, fun w => h.clear w.1⟩

end SessionStore

/-- The adapter writes to the session only by its store, which records what it holds. -/
structure Adapter.Watches (a : Adapter σ) (content : σ → Option Session)
    (past : σ → List (Option Session)) : Prop where
  lawful : a.store.Lawful content
  recorded : a.store.Recorded content past
  send : ∀ purpose request, Keeps (fun w => (content w, past w)) (a.send purpose request)
  redirect : Keeps (fun w => (content w, past w)) a.redirect
  notify : ∀ message, Keeps (fun w => (content w, past w)) (a.notify message)
  log : ∀ entry, Keeps (fun w => (content w, past w)) (a.log entry)

/-- An adapter for a backend, with a watched store beside the traffic. -/
theorem Adapter.forBackend_watches {store : SessionStore τ} {content : τ → Option Session}
    (h : store.Lawful content) (base loginUrl : Url) (backend : Backend) :
    (Adapter.forBackend (Part.second : Part ((τ × List (Option Session)) × Traffic) Traffic)
      ((store.watched content).onPart Part.first) base loginUrl backend).Watches
      (fun w => content w.1.1) (fun w => w.1.2) where
  lawful := (SessionStore.watched_lawful h).onPart Part.first
  recorded := ⟨fun _ => rfl, fun _ _ => rfl, fun _ => rfl⟩
  send _ _ _ := rfl
  redirect _ := rfl
  notify _ _ := rfl
  log _ _ := rfl

/-- From the content at the start on, each content that was recorded descends from every one before
it, and what is stored now descends from them all. -/
structure Trail (start : Option Session) (content : σ → Option Session)
    (past : σ → List (Option Session)) (w : σ) : Prop where
  pairwise : (start :: past w).Pairwise Descends
  now : ∀ c ∈ start :: past w, Descends c (content w)

namespace Trail

variable {start : Option Session} {content : σ → Option Session}
  {past : σ → List (Option Session)} {w w' : σ}

theorem keep (h : Trail start content past w) (hk : (content w', past w') = (content w, past w)) :
    Trail start content past w' := by
  obtain ⟨hc, hp⟩ := Prod.mk.inj hk
  refine ⟨?_, ?_⟩
  · rw [hp]
    exact h.pairwise
  · rw [hc, hp]
    exact h.now

/-- A step of the store that descends goes on with the trail. -/
theorem record (h : Trail start content past w) (hd : Descends (content w) (content w'))
    (hp : past w' = past w ++ [content w']) : Trail start content past w' := by
  have hnow : ∀ c ∈ start :: past w, Descends c (content w') := fun c hc => (h.now c hc).trans hd
  refine ⟨?_, fun c hc => ?_⟩
  · rw [hp, ← List.cons_append, List.pairwise_append]
    refine ⟨h.pairwise, List.pairwise_singleton _ _, fun c hc c' hc' => ?_⟩
    rw [List.mem_singleton.1 hc']
    exact hnow c hc
  · rw [hp, ← List.cons_append] at hc
    obtain hc | hc := List.mem_append.1 hc
    · exact hnow c hc
    · rw [List.mem_singleton.1 hc]
      exact .refl _

end Trail

/-- What is stored has the holder of the session. -/
def Holds (content : σ → Option Session) (s : Session) (w : σ) : Prop :=
  ∃ s₀, content w = some s₀ ∧ s₀.SameHolder s

theorem Holds.descends {content : σ → Option Session} {s s' : Session} {w : σ}
    (h : Holds content s w) (hs : s.SameHolder s') : Descends (content w) (some s') := by
  obtain ⟨s₀, hc, hs₀⟩ := h
  exact .inr ⟨s₀, s', hc, rfl, hs₀.trans hs⟩

theorem Holds.keep {content : σ → Option Session} {past : σ → List (Option Session)}
    {s : Session} {w w' : σ} (h : Holds content s w)
    (hk : (content w', past w') = (content w, past w)) : Holds content s w' := by
  obtain ⟨s₀, hc, hs₀⟩ := h
  exact ⟨s₀, (Prod.mk.inj hk).1.trans hc, hs₀⟩

namespace Adapter

variable {a : Adapter σ} {content : σ → Option Session} {past : σ → List (Option Session)}
  {start : Option Session} {w : σ}

/-! ## What each step of a call does to the trail -/

theorem deliver_keeps {α : Type} {view : σ → α}
    (h : ∀ purpose request, Keeps view (a.send purpose request)) (purpose : Purpose)
    (request : Request) : Keeps view (a.deliver purpose request) := by
  unfold deliver
  cases request.fault? with
  | some fault => exact .pure _
  | none => exact h purpose request

theorem clear_trail (h : a.Watches content past) (ht : Trail start content past w) :
    After a.store.clear.run w fun _ w' => Trail start content past w' := by
  refine ((h.lawful.clear w).and (h.recorded.clear w)).mono fun r w' hw' => ?_
  obtain ⟨hc, hp⟩ := hw'
  cases r with
  | ok _ => exact ht.record (.inl hc) hp
  | error e => exact ht.record (by rw [show content w' = content w from hc]; exact .refl _) hp

/-- A session is saved only over one of its holder; where that fails the other stays. -/
theorem save_trail (h : a.Watches content past) (ht : Trail start content past w) {s s' : Session}
    (hh : Holds content s w) (hs : s.SameHolder s') :
    After (a.store.save s').run w fun _ w' => Trail start content past w' ∧
      Holds content s' w' := by
  have hcan : SessionStore.CanHold content s' := by
    obtain ⟨s₀, hs₀, hsame⟩ := hh
    exact .inr ⟨w, s₀, hs₀, (hsame.trans hs).expiresAt⟩
  refine ((h.lawful.save s' hcan w).and (h.recorded.save s' w)).mono fun r w' hw' => ?_
  obtain ⟨hc, hp⟩ := hw'
  cases r with
  | ok _ =>
    have hc : content w' = some s' := hc
    refine ⟨ht.record ?_ hp, s', hc, .refl s'⟩
    rw [hc]
    exact hh.descends hs
  | error e =>
    have hc : content w' = content w := hc
    obtain ⟨s₀, hs₀, hh⟩ := hh
    refine ⟨ht.record ?_ hp, s₀, hc.trans hs₀, hh.trans hs⟩
    rw [hc]
    exact .refl _

theorem load_trail (h : a.Watches content past) (ht : Trail start content past w) :
    After a.store.load.run w fun r w' => Trail start content past w' ∧ ∀ c, r = .ok c →
      content w' = c := by
  refine ((h.lawful.load w).and (h.recorded.load w)).mono fun r w' hw' => ?_
  obtain ⟨hc, hp⟩ := hw'
  cases r with
  | ok c =>
    obtain ⟨hc, hw'⟩ := hc
    refine ⟨ht.record (by rw [hw']; exact .refl _) hp, fun c' hc' => ?_⟩
    cases hc'
    exact hw'.trans hc.symm
  | error e =>
    have hw' : content w' = content w := hc
    refine ⟨ht.record (by rw [hw']; exact .refl _) hp, fun c' hc' => ?_⟩
    cases hc'

/-- The session that can be used is the one that is stored. -/
theorem current_trail (h : a.Watches content past) (now : Instant)
    (ht : Trail start content past w) :
    After (a.store.current now).run w fun r w' =>
      Trail start content past w' ∧ ∀ s, r = .ok (some s) → content w' = some s := by
  unfold SessionStore.current
  refine (load_trail h ht).bindExcept (fun c w' hc => ?_)
    fun e w' he => ⟨he.1, fun s hs => by cases hs⟩
  obtain ⟨ht', hc⟩ := hc
  cases c with
  | none => exact ⟨ht', fun s hs => by cases hs⟩
  | some s =>
    by_cases hx : s.isExpired now
    · simp only [hx, if_true]
      refine (clear_trail h ht').bindExcept (fun _ w'' ht'' => ?_) fun e w'' ht'' => ?_
      · exact ⟨ht'', fun s hs => by cases hs⟩
      · exact ⟨ht'', fun s hs => by cases hs⟩
    · simp only [hx, Bool.false_eq_true, if_false]
      refine ⟨ht', fun s' hs' => ?_⟩
      cases hs'
      exact hc _ rfl

theorem absorb_trail (h : a.Watches content past) (ht : Trail start content past w) {s : Session}
    (hh : Holds content s w) (answer : Answer) :
    After (a.absorb s answer) w fun s' w' => Trail start content past w' ∧ Holds content s' w' := by
  have hs := s.absorbAll_sameHolder answer.setCookies
  unfold absorb
  generalize s.absorbAll answer.setCookies = absorbed at hs ⊢
  obtain ⟨s', changed⟩ := absorbed
  cases changed with
  | false =>
    obtain ⟨s₀, hc, hs₀⟩ := hh
    exact ⟨ht, s₀, hc, hs₀.trans hs⟩
  | true =>
    refine (save_trail h ht hh hs).bind fun r w' hw' => ?_
    cases r with
    | ok _ => exact hw'
    | error e =>
      refine (h.log _ w').bind fun _ w'' hk => After.pure_iff.2 ?_
      exact ⟨hw'.1.keep hk, hw'.2.keep hk⟩

/-- Before the described request, the session with the cookies of the priming answer may be
stored. -/
theorem prime_trail (h : a.Watches content past) (ht : Trail start content past w) {s : Session}
    (hh : Holds content s w) :
    After (a.prime s) w fun s' w' => Trail start content past w' ∧ Holds content s' w' := by
  unfold prime
  refine (deliver_keeps h.send _ _ w).bind fun outcome w' hk => ?_
  cases outcome with
  | ok answer => exact absorb_trail h (ht.keep hk) (hh.keep hk) answer
  | error e =>
    refine (h.log _ w').bind fun _ w'' hk' => After.pure_iff.2 ?_
    exact ⟨(ht.keep hk).keep hk', (hh.keep hk).keep hk'⟩

theorem session?_trail (h : a.Watches content past) (now : Instant)
    (ht : Trail start content past w) :
    After (a.session? now) w fun used w' =>
      Trail start content past w' ∧ ∀ s, used = some s → Holds content s w' := by
  unfold session?
  refine (current_trail h now ht).bind fun r w' hr => ?_
  obtain ⟨ht', hc⟩ := hr
  cases r with
  | error e =>
    refine (h.log _ w').bind fun _ w'' hk => ⟨ht'.keep hk, fun s hs => ?_⟩
    cases hs
  | ok c =>
    cases c with
    | none =>
      refine ⟨ht', fun s hs => ?_⟩
      cases hs
    | some s =>
      have hh : Holds content s w' := ⟨s, hc s rfl, .refl s⟩
      by_cases hn : s.needsToken
      · simp only [hn, if_true]
        refine After.map_iff.2
          ((prime_trail h ht' hh).mono fun s' w'' hs' => ⟨hs'.1, fun s hs => ?_⟩)
        cases hs
        exact hs'.2
      · simp only [hn, Bool.false_eq_true, if_false]
        refine ⟨ht', fun s' hs => ?_⟩
        cases hs
        exact hh

theorem reject_trail (h : a.Watches content past) (url : Url) (ht : Trail start content past w) :
    After (a.reject url) w fun _ w' => Trail start content past w' := by
  unfold reject
  refine (h.log _ w).bind fun _ w₁ h₁ => (clear_trail h (ht.keep h₁)).bind fun r w₂ h₂ => ?_
  cases r with
  | ok _ => exact (h.redirect w₂).mono fun _ w₃ h₃ => h₂.keep h₃
  | error e =>
    refine (h.log _ w₂).bind fun _ w₃ h₃ => (h.redirect w₃).mono fun _ w₄ h₄ => ?_
    exact (h₂.keep h₃).keep h₄

/-- Only a rejection touches the store, and an answer that is taken leaves it alone. -/
theorem settle_trail (h : a.Watches content past) (url : Url) (outcome : Outcome)
    (ht : Trail start content past w) :
    After (a.settle url outcome).run w fun r w' =>
      Trail start content past w' ∧ ∀ answer, r = .ok answer →
        (content w', past w') = (content w, past w) := by
  unfold settle
  cases outcome with
  | error e => exact ⟨ht, fun _ _ => rfl⟩
  | ok answer =>
    dsimp only
    split
    · refine (reject_trail h url ht).bindLift fun _ w' ht' => After.pure_iff.2
        ⟨ht', fun answer hr => ?_⟩
      cases hr
    · split
      · exact ⟨ht, fun _ _ => rfl⟩
      · split
        · exact (h.notify _ w).bindLift fun _ w' hk => After.pure_iff.2 ⟨ht.keep hk, fun _ _ => hk⟩
        · exact ⟨ht, fun _ _ => rfl⟩

theorem perform_trail (h : a.Watches content past) (s : Option Session) (spec : CallPlan)
    (ht : Trail start content past w) :
    After (a.perform s spec).run w fun r w' =>
      Trail start content past w' ∧ ∀ answer, r = .ok answer →
        (content w', past w') = (content w, past w) := by
  unfold perform
  cases CallPlan.resolve a.base spec.path with
  | error e => exact ⟨ht, fun _ _ => rfl⟩
  | ok url =>
    dsimp only
    cases spec.request url ((s.map Session.headers).getD []) with
    | error e => exact ⟨ht, fun _ _ => rfl⟩
    | ok request =>
      refine (deliver_keeps h.send _ _ w).bindLift fun outcome w' hk => ?_
      refine (settle_trail h url outcome (ht.keep hk)).mono fun r w'' hr =>
        ⟨hr.1, fun answer ha => ?_⟩
      exact (hr.2 answer ha).trans hk

theorem conclude_trail (h : a.Watches content past) (ht : Trail start content past w)
    {s : Option Session} (hh : ∀ s', s = some s' → Holds content s' w) (answer : Answer) :
    After (a.conclude s answer) w fun _ w' => Trail start content past w' := by
  cases s with
  | none => exact ht
  | some s => exact (absorb_trail h ht (hh s rfl) answer).bind fun _ w' hw' => hw'.1

/-! ## Runs of calls -/

theorem request_trail (h : a.Watches content past) (now : Instant) (spec : CallPlan)
    (ht : Trail start content past w) :
    After (a.request now spec).run w fun _ w' => Trail start content past w' := by
  unfold request
  refine (session?_trail h now ht).bindLift fun used w' hu => ?_
  refine (perform_trail h used spec hu.1).bindExcept (fun answer w'' hr => ?_) fun e w'' hr => hr.1
  -- an answer that is taken has not touched the store, so the copy is still of the holder
  -- of what is stored
  have hh : ∀ s, used = some s → Holds content s w'' :=
    fun s hs => (hu.2 s hs).keep (hr.2 answer rfl)
  exact (conclude_trail h hr.1 hh answer).bindLift fun _ w₃ hw₃ => hw₃

theorem exchange_trail (h : a.Watches content past) (spec : CallPlan)
    (ht : Trail start content past w) :
    After (a.exchange spec).run w fun _ w' => Trail start content past w' := by
  unfold exchange
  refine (perform_trail h none spec ht).bindExcept (fun answer w' hr => ?_) fun e w' hr => hr.1
  have hread : After (ExceptT.mk (pure (bodyGrant spec.response answer)) : Call σ Grant).run w'
      fun _ w'' =>
      Trail start content past w'' := hr.1
  refine hread.bindExcept (fun grant w'' ht' => ?_) fun e w'' ht' => ht'
  dsimp only
  split
  · exact ht'
  · exact ht'

end Adapter

/-- A call of the adapter. -/
inductive AdapterCall where
  /-- A request with the stored session. -/
  | request (spec : CallPlan)
  /-- An exchange of a code, without it. -/
  | exchange (spec : CallPlan)

namespace Adapter

/-- Makes calls in order, each at a time of its own, whatever they give. -/
def callAll (a : Adapter σ) : List (Instant × AdapterCall) → StateM σ Unit
  | [] => pure ()
  | (now, .request spec) :: rest => do
    let _ ← (a.request now spec).run
    a.callAll rest
  | (_, .exchange spec) :: rest => do
    let _ ← (a.exchange spec).run
    a.callAll rest

theorem callAll_trail {a : Adapter σ} {content : σ → Option Session}
    {past : σ → List (Option Session)} {start : Option Session} (h : a.Watches content past)
    (calls : List (Instant × AdapterCall)) {w : σ}
    (ht : Trail start content past w) :
    After (a.callAll calls) w fun _ w' => Trail start content past w' := by
  induction calls generalizing w with
  | nil => exact ht
  | cons c rest ih =>
    obtain ⟨now, call⟩ := c
    cases call with
    | request spec => exact (request_trail h now spec ht).bind fun _ w' ht' => ih ht'
    | exchange spec => exact (exchange_trail h spec ht).bind fun _ w' ht' => ih ht'

/-- Over any calls, with any answers, each session that the store holds has the holder of all those
before it, from the first one on; once there is none there is none again. -/
theorem stored_session_descends {store : SessionStore τ} {content : τ → Option Session}
    (h : store.Lawful content) (base loginUrl : Url) (backend : Backend)
    (calls : List (Instant × AdapterCall)) (w : τ) (t : Traffic) :
    let a := Adapter.forBackend Part.second ((store.watched content).onPart Part.first) base
      loginUrl backend
    After (a.callAll calls) ((w, []), t) fun _ w' =>
      (content w :: w'.1.2).Pairwise Descends ∧
      ∀ c ∈ content w :: w'.1.2, Descends c (content w'.1.1) := by
  intro a
  have hstart : Trail (content w) (fun w => content w.1.1) (fun w => w.1.2) ((w, []), t) :=
    ⟨List.pairwise_singleton _ _, fun c hc => by rw [List.mem_singleton.1 hc]; exact .refl _⟩
  have hw := forBackend_watches h base loginUrl backend
  exact (callAll_trail hw calls hstart).mono fun _ w' ht => ⟨ht.pairwise, ht.now⟩

/-- A token that an answer renews is stored; after a rejection nothing is. -/
theorem rejected_session_stays_away :
    let base : Url :=
      ⟨"http", "", none, some (.name "example.com"), none, .segments [""], none, none⟩
    let backend : Backend := fun before _ =>
      if before.isEmpty then
        .ok { status := 200, headers := [("Set-Cookie", Utf8.ofString "Xsrf-Token=new")] }
      else .ok { status := 401 }
    let a := forBackend Part.second ((SessionStore.memory.watched id).onPart Part.first)
      base base backend
    let old : Session := { token := "old", kind := .csrf }
    let renewed : Session := { token := "new", kind := .csrf }
    let call : Instant × AdapterCall := (default, .request (.get "x" []))
    let past := ((a.callAll [call, call, call]).run ((some old, []), {})).2.1.2
    past = [some old, some renewed, some renewed, none, none, none] ∧
    (some old :: past).Pairwise Descends := by
  intro base backend a old renewed call past
  have h : After (a.callAll [call, call, call]) ((some old, []), {}) fun _ w' =>
      (some old :: w'.1.2).Pairwise Descends ∧ ∀ c ∈ some old :: w'.1.2, Descends c w'.1.1 :=
    stored_session_descends SessionStore.memory_lawful base base backend
      [call, call, call] (some old) {}
  unfold After at h
  have hpast : past = [some old, some renewed, some renewed, none, none, none] := by decide +kernel
  exact ⟨hpast, h.1⟩

end Adapter

end SigningConsole
