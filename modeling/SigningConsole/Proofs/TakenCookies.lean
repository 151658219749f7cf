import SigningConsole.Proofs.CallReport
import SigningConsole.Proofs.Descent
/-!
Which cookies a call takes into the stored session.

At every moment of a call the store holds what it held before, nothing, the session that the
described request was sent with, or that session with the cookies of the answer it got, if the
answer was accepted. `Within` carries this through the steps of a call, and `CallReport` says where
that session came from: it is the stored one with the cookies of the answer by which it was primed.
All that is asked of the adapter is that it writes by its store (`Adapter.Minds`), whether the store
is watched or not.

That answer is not asked whether it is a success. So the cookies that are taken are those of
accepted answers only as long as no failed answer to a priming request sets any.
-/

namespace SigningConsole

open Calendar Text

variable {σ τ : Type}

namespace Session

theorem absorbAll_append (s : Session) (raws raws' : List String) :
    (s.absorbAll (raws ++ raws')).1 = ((s.absorbAll raws).1.absorbAll raws').1 := by
  induction raws generalizing s with
  | nil => rfl
  | cons raw raws ih => exact ih (s.absorb raw).1

end Session

/-- A session that can be used is stored. -/
theorem SessionStore.Lawful.live?_eq_some {store : SessionStore σ} {content : σ → Option Session}
    (h : store.Lawful content) {now : Instant} {w : σ} {s : Session}
    (hs : store.live? now w = some s) :
    content w = some s := by
  have hc := h.current now w
  unfold SessionStore.live? at hs
  unfold After at hc
  generalize (StateT.run (store.current now).run w) = found at hs hc
  obtain ⟨r, w'⟩ := found
  cases r with
  | error e => cases hs
  | ok c =>
    obtain ⟨rfl, -⟩ := hc
    exact (Session.usable?_eq_some_iff.1 hs).1

/-! ## What is stored at any moment -/

/-- The operations of the store add to the past no more than what they leave in the store. -/
structure SessionStore.Remembers (store : SessionStore σ) (content : σ → Option Session)
    (past : σ → List (Option Session)) : Prop where
  load : ∀ w, After store.load.run w fun _ w' => past w' ⊆ content w' :: past w
  save : ∀ s w, After (store.save s).run w fun _ w' => past w' ⊆ content w' :: past w
  clear : ∀ w, After store.clear.run w fun _ w' => past w' ⊆ content w' :: past w

/-- The adapter writes to the session only by its store, which remembers no more than what it
holds. -/
structure Adapter.Minds (a : Adapter σ) (content : σ → Option Session)
    (past : σ → List (Option Session)) : Prop where
  lawful : a.store.Lawful content
  remembers : a.store.Remembers content past
  send : ∀ purpose request, Keeps (fun w => (content w, past w)) (a.send purpose request)
  redirect : Keeps (fun w => (content w, past w)) a.redirect
  notify : ∀ message, Keeps (fun w => (content w, past w)) (a.notify message)
  log : ∀ entry, Keeps (fun w => (content w, past w)) (a.log entry)

theorem SessionStore.Recorded.remembers {store : SessionStore σ} {content : σ → Option Session}
    {past : σ → List (Option Session)} (h : store.Recorded content past) :
    store.Remembers content past := by
  have hsub : ∀ w w', past w' = past w ++ [content w'] → past w' ⊆ content w' :: past w := by
    intro w w' hp
    rw [hp]
    simp
  exact ⟨fun w => (h.load w).mono fun _ w' => hsub w w', fun s w => (h.save s w).mono
    fun _ w' => hsub w w', fun w => (h.clear w).mono fun _ w' => hsub w w'⟩

theorem Adapter.Watches.minds {a : Adapter σ} {content : σ → Option Session}
    {past : σ → List (Option Session)} (h : a.Watches content past) : a.Minds content past :=
  ⟨h.lawful, h.recorded.remembers, h.send, h.redirect, h.notify, h.log⟩

/-- What is stored is allowed, and so is all that the store remembers. -/
structure Within (content : σ → Option Session) (past : σ → List (Option Session))
    (allowed : Option Session → Prop) (w : σ) : Prop where
  now : allowed (content w)
  past : ∀ c ∈ past w, allowed c

namespace Within

variable {content : σ → Option Session} {past : σ → List (Option Session)}
  {allowed allowed' : Option Session → Prop} {w w' : σ}

theorem mono (h : Within content past allowed w) (hi : ∀ c, allowed c → allowed' c) :
    Within content past allowed' w :=
  ⟨hi _ h.now, fun c hc => hi c (h.past c hc)⟩

theorem keep (h : Within content past allowed w)
    (hk : (content w', past w') = (content w, past w)) :
    Within content past allowed w' := by
  obtain ⟨hc, hp⟩ := Prod.mk.inj hk
  refine ⟨?_, ?_⟩
  · rw [hc]
    exact h.now
  · rw [hp]
    exact h.past

/-- An operation of the store goes on if it leaves what is allowed. -/
theorem record (h : Within content past allowed w) (hc : allowed (content w'))
    (hp : past w' ⊆ content w' :: past w) : Within content past allowed w' := by
  refine ⟨hc, fun c hmem => ?_⟩
  obtain rfl | hmem := List.mem_cons.1 (hp hmem)
  · exact hc
  · exact h.past c hmem

end Within

namespace Adapter

variable {a : Adapter σ} {content : σ → Option Session} {past : σ → List (Option Session)}
  {allowed : Option Session → Prop} {w : σ}

theorem clear_within (h : a.Minds content past) (hnone : allowed none)
    (hw : Within content past allowed w) :
    After a.store.clear.run w fun _ w' => Within content past allowed w' := by
  refine ((h.lawful.clear w).and (h.remembers.clear w)).mono fun r w' hr => ?_
  obtain ⟨hc, hp⟩ := hr
  cases r with
  | ok _ => exact hw.record (by rw [show content w' = none from hc]; exact hnone) hp
  | error e => exact hw.record (by rw [show content w' = content w from hc]; exact hw.now) hp

theorem save_within (h : a.Minds content past) {s : Session} (hcan : SessionStore.CanHold content s)
    (hs : allowed (some s)) (hw : Within content past allowed w) :
    After (a.store.save s).run w fun _ w' => Within content past allowed w' := by
  refine ((h.lawful.save s hcan w).and (h.remembers.save s w)).mono fun r w' hr => ?_
  obtain ⟨hc, hp⟩ := hr
  cases r with
  | ok _ => exact hw.record (by rw [show content w' = some s from hc]; exact hs) hp
  | error e => exact hw.record (by rw [show content w' = content w from hc]; exact hw.now) hp

theorem load_within (h : a.Minds content past) (hw : Within content past allowed w) :
    After a.store.load.run w fun r w' =>
      Within content past allowed w' ∧ content w' = content w ∧ ∀ c, r = .ok c → c = content w := by
  refine ((h.lawful.load w).and (h.remembers.load w)).mono fun r w' hr => ?_
  obtain ⟨hc, hp⟩ := hr
  cases r with
  | ok c =>
    obtain ⟨rfl, hw'⟩ := hc
    refine ⟨hw.record (by rw [hw']; exact hw.now) hp, hw', fun c' hc' => ?_⟩
    cases hc'
    rfl
  | error e =>
    have hw' : content w' = content w := hc
    refine ⟨hw.record (by rw [hw']; exact hw.now) hp, hw', fun c hc => ?_⟩
    cases hc

/-- Reading the session takes it away only when its time is over. -/
theorem current_within (h : a.Minds content past) (now : Instant)
    (hnone : ∀ s, content w = some s → s.isExpired now → allowed none)
    (hw : Within content past allowed w) :
    After (a.store.current now).run w fun _ w' => Within content past allowed w' := by
  unfold SessionStore.current
  refine (load_within h hw).bindExcept (fun c w' hc => ?_) fun e w' he => he.1
  obtain ⟨hw', -, hc⟩ := hc
  have hc : c = content w := hc c rfl
  cases c with
  | none => exact hw'
  | some s =>
    by_cases hx : s.isExpired now
    · simp only [hx, if_true]
      exact (clear_within h (hnone s hc.symm hx) hw').bindExcept (fun _ _ hw'' => hw'')
        fun _ _ hw'' => hw''
    · simp only [hx, Bool.false_eq_true, if_false]
      exact hw'

/-- The session with the cookies of an answer may be stored. -/
theorem absorb_within (h : a.Minds content past) (s : Session) (answer : Answer)
    (hcan : SessionStore.CanHold content s) (hw : Within content past allowed w) :
    After (a.absorb s answer) w fun s' w' =>
      s' = (s.absorbAll answer.setCookies).1 ∧
      Within content past (fun c => allowed c ∨ c = some s') w' := by
  have hcan := hcan.absorbAll answer.setCookies
  unfold absorb
  generalize s.absorbAll answer.setCookies = absorbed at hcan ⊢
  obtain ⟨s', changed⟩ := absorbed
  have hw : Within content past (fun c => allowed c ∨ c = some s') w := hw.mono fun c hc => .inl hc
  cases changed with
  | false => exact ⟨rfl, hw⟩
  | true =>
    refine (save_within h hcan (.inr rfl) hw).bind fun r w' hw' => ?_
    cases r with
    | ok _ => exact ⟨rfl, hw'⟩
    | error e => exact (h.log _ w').bind fun _ w'' hk => After.pure_iff.2 ⟨rfl, hw'.keep hk⟩

theorem prime_within (h : a.Minds content past) (s : Session)
    (hcan : SessionStore.CanHold content s) (hw : Within content past allowed w) :
    After (a.prime s) w fun s' w' => Within content past (fun c => allowed c ∨ c = some s') w' := by
  unfold prime
  refine (deliver_keeps h.send _ _ w).bind fun outcome w' hk => ?_
  cases outcome with
  | ok answer => exact (absorb_within h s answer hcan (hw.keep hk)).mono fun s' w'' hs' => hs'.2
  | error e =>
    refine (h.log _ w').bind fun _ w'' hk' => After.pure_iff.2 ?_
    exact ((hw.keep hk).keep hk').mono fun c hc => .inl hc

/-- Of the session that a call uses, no other form is stored. -/
theorem session?_within (h : a.Minds content past) (now : Instant)
    (hnone : ∀ s, content w = some s → s.isExpired now → allowed none)
    (hw : Within content past allowed w) :
    After (a.session? now) w fun used w' =>
      Within content past (fun c => allowed c ∨ (used.isSome ∧ c = used)) w' := by
  unfold session?
  refine ((current_within h now hnone hw).and (h.lawful.current now w)).bind fun r w' hw' => ?_
  obtain ⟨hw', hr⟩ := hw'
  cases r with
  | error e =>
    exact (h.log _ w').bind fun _ w'' hk => After.pure_iff.2
      ((hw'.keep hk).mono fun c hc => .inl hc)
  | ok c =>
    cases c with
    | none => exact hw'.mono fun c hc => .inl hc
    | some s =>
      have hs : content w = some s := (Session.usable?_eq_some_iff.1 hr.1.symm).1
      by_cases hn : s.needsToken
      · simp only [hn, if_true]
        refine After.map_iff.2 ((prime_within h s (.of_held hs) hw').mono fun s' w'' hs' => hs'.mono
          fun c hc => ?_)
        exact hc.imp_right fun hc => ⟨rfl, hc⟩
      · simp only [hn, Bool.false_eq_true, if_false]
        exact hw'.mono fun c hc => .inl hc

theorem reject_within (h : a.Minds content past) (url : Url) (hnone : allowed none)
    (hw : Within content past allowed w) :
    After (a.reject url) w fun _ w' => Within content past allowed w' := by
  unfold reject
  refine (h.log _ w).bind fun _ w₁ h₁ => (clear_within h hnone (hw.keep h₁)).bind fun r w₂ h₂ => ?_
  cases r with
  | ok _ => exact (h.redirect w₂).mono fun _ w₃ h₃ => h₂.keep h₃
  | error e =>
    refine (h.log _ w₂).bind fun _ w₃ h₃ => (h.redirect w₃).mono fun _ w₄ h₄ => ?_
    exact (h₂.keep h₃).keep h₄

theorem reject_clears (h : a.Minds content past) (hclear : a.store.Empties content)
    (url : Url) (w : σ) :
    After (a.reject url) w fun _ w' => content w' = none := by
  unfold reject
  refine (h.log _ w).bind fun _ w₁ _ => (hclear w₁).bind fun r w₂ hc => ?_
  cases r with
  | ok _ => exact (h.redirect w₂).mono fun _ w₃ h₃ => (Prod.mk.inj h₃).1.trans hc
  | error e =>
    refine (h.log _ w₂).bind fun _ w₃ h₃ => (h.redirect w₃).mono fun _ w₄ h₄ => ?_
    exact (Prod.mk.inj h₄).1.trans ((Prod.mk.inj h₃).1.trans hc)

/-- Settling an outcome takes the session away at most, and only when the answer rejects it. -/
theorem settle_within (h : a.Minds content past) (url : Url) (outcome : Outcome)
    (hw : Within content past allowed w) :
    After (a.settle url outcome).run w fun r w' =>
      Within content past (fun c => allowed c ∨ (c = none ∧ r = .error .unauthorized)) w' ∧
        (a.store.Empties content → r = .error .unauthorized → content w' = none) := by
  have hkept : ∀ r : Except BackendError Answer,
      Within content past (fun c => allowed c ∨ (c = none ∧ r = .error .unauthorized)) w :=
    fun r => hw.mono fun c hc => .inl hc
  unfold settle
  cases outcome with
  | error e => exact ⟨hkept _, fun _ hr => by cases hr⟩
  | ok answer =>
    dsimp only
    split
    · have hrejected : Within content past
          (fun c => allowed c ∨
            (c = none ∧ (.error .unauthorized : Except BackendError Answer) = .error .unauthorized))
          w := hkept _
      have hclears : After (a.reject url) w fun _ w' => a.store.Empties content →
          content w' = none :=
        fun hclear => reject_clears h hclear url w
      refine ((reject_within h url (.inr ⟨rfl, rfl⟩) hrejected).and hclears).bindLift
        fun _ w' hw' => ?_
      exact After.pure_iff.2 ⟨hw'.1, fun hclear _ => hw'.2 hclear⟩
    · split
      · exact ⟨hkept _, fun _ hr => by cases hr⟩
      · split
        · refine (h.notify _ w).bindLift fun _ w' hk => After.pure_iff.2
            ⟨(hkept _).keep hk, fun _ hr => ?_⟩
          cases hr
        · exact ⟨hkept _, fun _ hr => by cases hr⟩

theorem perform_within (h : a.Minds content past) (s : Option Session) (spec : CallPlan)
    (hw : Within content past allowed w) :
    After (a.perform s spec).run w fun r w' =>
      Within content past (fun c => allowed c ∨ (c = none ∧ r = .error .unauthorized)) w' ∧
        (a.store.Empties content → r = .error .unauthorized → content w' = none) := by
  unfold perform
  cases CallPlan.resolve a.base spec.path with
  | error e => exact ⟨hw.mono fun c hc => .inl hc, fun _ hr => by cases hr⟩
  | ok url =>
    dsimp only
    cases spec.request url ((s.map Session.headers).getD []) with
    | error e => exact ⟨hw.mono fun c hc => .inl hc, fun _ hr => by cases hr⟩
    | ok request =>
      exact (deliver_keeps h.send _ _ w).bindLift fun outcome w' hk =>
        settle_within h url outcome (hw.keep hk)

theorem conclude_within (h : a.Minds content past) (s : Option Session) (answer : Answer)
    (hcan : ∀ s', s = some s' → SessionStore.CanHold content s')
    (hw : Within content past allowed w) :
    After (a.conclude s answer) w fun _ w' => Within content past
      (fun c => allowed c ∨ ∃ s', s = some s' ∧ c = some (s'.absorbAll answer.setCookies).1)
        w' := by
  cases s with
  | none => exact hw.mono fun c hc => .inl hc
  | some s =>
    refine (absorb_within h s answer (hcan s rfl) hw).bind fun s' w' hs' => ?_
    obtain ⟨rfl, hw'⟩ := hs'
    exact After.pure_iff.2 (hw'.mono fun c hc => hc.imp_right fun hc => ⟨s, rfl, hc⟩)

end Adapter

/-! ## The cookies that are taken -/

namespace Exchange

/-- The cookies of the answer. -/
def cookies (x : Exchange) : List String :=
  match x.outcome with
  | .ok answer => answer.setCookies
  | .error _ => []

/-- The cookies of the answer, if it is accepted. -/
def acceptedCookies (x : Exchange) : List String :=
  match x.outcome with
  | .ok answer => if Status.isAccepted answer.status then answer.setCookies else []
  | .error _ => []

/-- The cookies that a call takes in: those of an accepted answer, and of any answer to a
request for a token. -/
def takenCookies (x : Exchange) : List String :=
  match x.purpose with
  | .priming => x.cookies
  | .described => x.acceptedCookies

end Exchange

/-- What may be stored at a moment of a call, given what was stored before it. -/
inductive StoredInCall (now : Instant) (sent : List Exchange) (cookies : List String) :
    Option Session → Option Session → Prop where
  | same {c} : StoredInCall now sent cookies c c
  | expired {s} (h : s.isExpired now) : StoredInCall now sent cookies (some s) none
  | rejected {c x} (hx : x ∈ sent) (hp : x.purpose = .described) (h : x.status? = some 401) :
      StoredInCall now sent cookies c none
  | renewed {s raws} (h : raws <+: cookies) :
      StoredInCall now sent cookies (some s) (some (s.absorbAll raws).1)

theorem StoredInCall.mono {now : Instant} {sent sent' : List Exchange}
    {cookies cookies' : List String} {c c' : Option Session}
    (h : StoredInCall now sent cookies c c') (hs : sent ⊆ sent') (hc : cookies <+: cookies') :
    StoredInCall now sent' cookies' c c' := by
  cases h with
  | same => exact .same
  | expired hx => exact .expired hx
  | rejected hx hp h₁ => exact .rejected (hs hx) hp h₁
  | renewed hr => exact .renewed (hr.trans hc)

/-- What may be stored may also be stored once more is sent. -/
theorem StoredInCall.append {now : Instant} {sent : List Exchange} {c c' : Option Session}
    (h : StoredInCall now sent (sent.flatMap Exchange.takenCookies) c c') (more : List Exchange) :
    StoredInCall now (sent ++ more) ((sent ++ more).flatMap Exchange.takenCookies) c c' := by
  rw [List.flatMap_append]
  exact h.mono (List.subset_append_left _ _) (List.prefix_append _ _)

/-- The session that a request is sent with is the stored one with the cookies of the
answer that primed it. -/
theorem Primed.used_eq {a : Adapter σ} {live used : Option Session} {primed : Option Exchange}
    (h : Primed a live primed used) {s : Session} (hs : used = some s) :
    ∃ s₀, live = some s₀ ∧ s = (s₀.absorbAll (primed.toList.flatMap Exchange.takenCookies)).1 := by
  cases h with
  | absent => cases hs
  | complete _ =>
    cases hs
    exact ⟨s, rfl, rfl⟩
  | unsendable _ _ =>
    cases hs
    exact ⟨s, rfl, rfl⟩
  | unanswered _ _ e =>
    cases hs
    exact ⟨s, rfl, rfl⟩
  | answered _ _ answer =>
    cases hs
    refine ⟨_, rfl, ?_⟩
    simp [Exchange.takenCookies, Exchange.cookies]

theorem Primed.purpose {a : Adapter σ} {live used : Option Session} {primed : Option Exchange}
    (h : Primed a live primed used) : ∀ x ∈ primed.toList, x.purpose = .priming := by
  cases h with
  | unanswered _ _ e => simp
  | answered _ _ answer => simp
  | _ => simp

/-- A priming request is no described one, so its answer is no rejection. -/
theorem Primed.exists_rejection {a : Adapter σ} {live used : Option Session}
    {primed : Option Exchange} (h : Primed a live primed used) {sent : List Exchange}
    (hx : ∃ x ∈ primed.toList ++ sent, x.purpose = .described ∧ x.status? = some 401) :
    ∃ x ∈ sent, x.status? = some 401 := by
  obtain ⟨x, hx, hpurpose, h₁⟩ := hx
  obtain hx | hx := List.mem_append.1 hx
  · rw [h.purpose x hx] at hpurpose
    cases hpurpose
  · exact ⟨x, hx, h₁⟩

/-- Just the answers with the status 401 are rejections. -/
theorem Exchange.result_unauthorized_iff (x : Exchange) :
    x.result .ok = .error .unauthorized ↔ x.status? = some 401 := by
  obtain ⟨purpose, request, outcome⟩ := x
  unfold Exchange.result
  cases outcome with
  | error e => exact iff_of_false nofun nofun
  | ok answer =>
    have hstatus : Exchange.status? ⟨purpose, request, .ok answer⟩ = some 401 ↔
        answer.status = 401 := Option.some_inj
    rw [hstatus]
    dsimp only
    split
    · rename_i h₁
      exact iff_of_true rfl h₁
    · rename_i h₁
      refine iff_of_false (fun h => ?_) h₁
      split at h
      · cases h
      · split at h <;> cases h

/-- An answer that is given to the caller was accepted. -/
theorem Exchange.acceptedCookies_of_ok {x : Exchange} {answer : Answer}
    (h : x.result .ok = .ok answer) :
    x.acceptedCookies = answer.setCookies := by
  obtain ⟨purpose, request, outcome⟩ := x
  unfold Exchange.result at h
  unfold Exchange.acceptedCookies
  cases outcome with
  | error e => cases h
  | ok given =>
    dsimp only at h ⊢
    split at h
    · cases h
    · split at h
      · cases h
      · split at h
        · rename_i ha
          cases h
          rw [if_pos (Status.isAccepted_iff.2 ha)]
        · cases h

/-- What was sent for a description, with what the result says of its answer. -/
theorem Performed.described {base : Url} {s : Option Session} {spec : CallPlan} {d d' : Deeds}
    {result : Except BackendError Answer} (h : Performed base s spec .ok d d' result) :
    ∃ described : Option Exchange, d'.exchanges = d.exchanges ++ described.toList ∧
      (∀ x ∈ described.toList, x.purpose = .described) ∧
      ((∃ x ∈ described.toList, x.status? = some 401) ↔ result = .error .unauthorized) ∧
      ∀ answer, result = .ok answer →
        described.toList.flatMap Exchange.takenCookies = answer.setCookies := by
  cases h with
  | invalid _ _ => exact ⟨none, (List.append_nil _).symm, by simp, by simp, by simp⟩
  | unsendable _ _ _ => exact ⟨none, (List.append_nil _).symm, by simp, by simp, by simp⟩
  | @sent r _ _ _ outcome _ _ ha =>
    obtain ⟨rfl, hresult⟩ := Answered.adds ⟨.described, r, outcome⟩ ha
    refine ⟨some ⟨.described, r, outcome⟩, rfl, by simp, ?_, fun answer hok => ?_⟩
    · rw [hresult, Exchange.result_unauthorized_iff]
      simp
    · rw [hresult] at hok
      rw [Option.toList_some, List.flatMap_singleton]
      exact Exchange.acceptedCookies_of_ok hok

namespace Adapter

variable {a : Adapter σ} {content : σ → Option Session} {past : σ → List (Option Session)}
  {deeds : σ → Deeds} {w : σ}

/-- Before the described request is sent, only the cookies of the priming answer are taken. -/
theorem session?_stores (h : a.Minds content past) (hd : a.Does deeds) (now : Instant)
    (hpast : past w = []) :
    After (a.session? now) w fun used w' => ∃ primed, deeds w' = (deeds w).plus primed ∧
      Primed a (a.store.live? now w) primed used ∧
      Within content past
        (StoredInCall now primed.toList (primed.toList.flatMap Exchange.takenCookies) (content w))
          w' := by
  have hstart : Within content past (StoredInCall now [] [] (content w)) w :=
    ⟨.same, by simp [hpast]⟩
  have hexpired : ∀ s, content w = some s → s.isExpired now →
      StoredInCall now [] [] (content w) none := by
    intro s hs hx
    rw [hs]
    exact .expired hx
  refine ((session?_within h now hexpired hstart).and (session?_deeds hd now w)).mono
    fun used w' hw' => ?_
  obtain ⟨hw', primed, hd', hp⟩ := hw'
  refine ⟨primed, hd', hp, hw'.mono fun c hc => ?_⟩
  obtain hc | ⟨hsome, rfl⟩ := hc
  · exact hc.mono (List.nil_subset _) (List.nil_prefix)
  · obtain ⟨s, rfl⟩ := Option.isSome_iff_exists.1 hsome
    obtain ⟨s₀, hlive, rfl⟩ := hp.used_eq rfl
    rw [h.lawful.live?_eq_some hlive]
    exact .renewed (List.prefix_refl _)

/-- During a call the store holds what it held, nothing, or its session with cookies that are taken.
A rejection is what the caller gets. -/
theorem request_stores (h : a.Minds content past) (hd : a.Does deeds) (now : Instant)
    (spec : CallPlan) (hpast : past w = []) :
    After (a.request now spec).run w
      fun r w' => ∃ sent, (deeds w').exchanges = (deeds w).exchanges ++ sent ∧
      Within content past (StoredInCall now sent (sent.flatMap Exchange.takenCookies)
        (content w)) w' ∧
      ((∃ x ∈ sent, x.purpose = .described ∧ x.status? = some 401) →
        r = .error .unauthorized ∧ (a.store.Empties content → content w' = none)) := by
  unfold request
  refine (session?_stores h hd now hpast).bindLift fun used w₁ hw₁ => ?_
  obtain ⟨primed, hd₁, hp, hw₁⟩ := hw₁
  have hbefore : (deeds w₁).exchanges = (deeds w).exchanges ++ primed.toList := by
    rw [hd₁]
    rfl
  refine ((perform_within h used spec hw₁).and (perform_deeds hd used spec w₁)).bindExcept
    (fun answer w₂ hw₂ => ?_) fun e w₂ hw₂ => ?_
  · obtain ⟨⟨hw₂, -⟩, hperf⟩ := hw₂
    obtain ⟨described, hd₂, -, hiff, htaken⟩ := hperf.described
    have hcan : ∀ s, used = some s → SessionStore.CanHold content s := by
      intro s hs
      obtain ⟨s₀, hlive, rfl⟩ := hp.used_eq hs
      exact (SessionStore.CanHold.of_held (h.lawful.live?_eq_some hlive)).absorbAll _
    refine ((conclude_within h used answer hcan hw₂).and
      (conclude_deeds hd used answer w₂)).bindLift fun _ w₃ hw₃ => ?_
    obtain ⟨hw₃, hd₃⟩ := hw₃
    refine After.pure_iff.2 ⟨primed.toList ++ described.toList, ?_, hw₃.mono fun c hc => ?_,
      fun hx => ?_⟩
    · rw [hd₃, hd₂, hbefore, List.append_assoc]
    · obtain (hc | ⟨-, hnone⟩) | ⟨s, hs, rfl⟩ := hc
      · exact hc.append _
      · cases hnone
      · obtain ⟨s₀, hlive, rfl⟩ := hp.used_eq hs
        rw [h.lawful.live?_eq_some hlive, ← Session.absorbAll_append, ← htaken answer rfl,
          ← List.flatMap_append]
        exact .renewed (List.prefix_refl _)
    · cases hiff.1 (hp.exists_rejection hx)
  · obtain ⟨⟨hw₂, hclear⟩, hperf⟩ := hw₂
    obtain ⟨described, hd₂, hpurpose, hiff, -⟩ := hperf.described
    refine ⟨primed.toList ++ described.toList, ?_, hw₂.mono fun c hc => ?_, fun hx => ?_⟩
    · rw [hd₂, hbefore, List.append_assoc]
    · obtain hc | ⟨rfl, hresult⟩ := hc
      · exact hc.append _
      · obtain ⟨x, hx, h₁⟩ := hiff.2 hresult
        exact .rejected (List.mem_append_right _ hx) (hpurpose x hx) h₁
    · have hresult := hiff.1 (hp.exists_rejection hx)
      cases hresult
      exact ⟨rfl, fun hs => hclear hs rfl⟩

/-- As long as no failed answer to a request for a token sets cookies, only accepted answers change
the session that is stored: at every moment of a call it is what it was, gone, or what it was with
cookies of accepted answers, in order and as far as they have come. It is gone only when its time is
over or the described request was answered with 401, and after such an answer it is gone unless it
cannot be taken away. -/
theorem stored_cookies_accepted {store : SessionStore τ} {content : τ → Option Session}
    (h : store.Lawful content) (base loginUrl : Url) (backend : Backend) (now : Instant)
    (spec : CallPlan) (w : τ) (t : Traffic) :
    let a := Adapter.forBackend Part.second ((store.watched content).onPart Part.first) base
      loginUrl backend
    After (a.request now spec).run ((w, []), t) fun _ w' =>
      ∃ sent, w'.2.exchanges = t.exchanges ++ sent ∧
        ((∀ x ∈ sent, x.purpose = .priming → x.cookies = x.acceptedCookies) →
          ∀ c ∈ content w'.1.1 :: w'.1.2,
            StoredInCall now sent (sent.flatMap Exchange.acceptedCookies) (content w) c) ∧
        (Succeeds store.clear → (∃ x ∈ sent, x.purpose = .described ∧ x.status? = some 401) →
          content w'.1.1 = none) := by
  intro a
  have hstores := request_stores (forBackend_watches h base loginUrl backend).minds
    (forBackend_does (store.watched content) base loginUrl backend) now spec (w := ((w, []), t)) rfl
  refine hstores.mono fun _ w' hw' => ?_
  obtain ⟨sent, hsent, hwithin, hclear⟩ := hw'
  refine ⟨sent, hsent, fun hprimed => ?_, fun hs hx => (hclear hx).2 fun w => h.empties hs w.1.1⟩
  have htaken : sent.flatMap Exchange.takenCookies = sent.flatMap Exchange.acceptedCookies := by
    rw [List.flatMap_def, List.flatMap_def]
    refine congrArg List.flatten (List.map_congr_left fun x hx => ?_)
    unfold Exchange.takenCookies
    cases hp : x.purpose with
    | priming => exact hprimed x hx hp
    | described => rfl
  rw [htaken] at hwithin
  exact List.forall_mem_cons.2 ⟨hwithin.now, hwithin.past⟩

/-- The token of the answer that primed a session stays when the described request is refused. -/
theorem refused_token_not_stored :
    let base : Url :=
      ⟨"http", "", none, some (.name "example.com"), none, .segments [""], none, none⟩
    let backend : Backend := fun before _ =>
      if before.isEmpty then
        .ok { status := 200, headers := [("Set-Cookie", Utf8.ofString "Xsrf-Token=given")] }
      else .ok { status := 403, headers := [("Set-Cookie", Utf8.ofString "Xsrf-Token=refused")] }
    let a := forBackend Part.second ((SessionStore.memory.watched id).onPart Part.first)
      base base backend
    let cold : Session :=
      { token := "", kind := .csrf, cookies := StringMap.insert ∅ "signatrust" "sess" }
    let w' := ((a.request default (.get "x" [])).run.run ((some cold, []), {})).2
    w'.1.1 = some { cold with token := "given" } ∧
      StoredInCall default w'.2.exchanges ["Xsrf-Token=given"] (some cold) w'.1.1 := by
  intro base backend a cold w'
  have hgiven : w'.1.1 = some { cold with token := "given" } := by decide +kernel
  have hprimed : ∀ x ∈ w'.2.exchanges, x.purpose = .priming →
      x.cookies = x.acceptedCookies := by decide +kernel
  have hcookies : w'.2.exchanges.flatMap Exchange.acceptedCookies = ["Xsrf-Token=given"] := by
    decide +kernel
  have h : After (a.request default (.get "x" [])).run ((some cold, []), {}) fun _ w' =>
      ∃ sent, w'.2.exchanges = [] ++ sent ∧
        ((∀ x ∈ sent, x.purpose = .priming → x.cookies = x.acceptedCookies) →
          ∀ c ∈ w'.1.1 :: w'.1.2, StoredInCall default sent (sent.flatMap Exchange.acceptedCookies)
            (some cold) c) ∧
        (Succeeds SessionStore.memory.clear →
          (∃ x ∈ sent, x.purpose = .described ∧ x.status? = some 401) →
          w'.1.1 = none) :=
    stored_cookies_accepted SessionStore.memory_lawful base base backend default (.get "x" [])
      (some cold) {}
  unfold After at h
  -- from here on only what is known of the final state is used
  generalize hw : ((a.request default (.get "x" [])).run.run ((some cold, []), {})).2 = v at h
  have hw : w' = v := hw
  rw [hw] at hgiven hprimed hcookies ⊢
  obtain ⟨sent, hsent, hstored, -⟩ := h
  rw [List.nil_append] at hsent
  subst hsent
  have hnow := hstored hprimed _ List.mem_cons_self
  rw [hcookies] at hnow
  exact ⟨hgiven, hnow⟩

/-- A failed answer to the request for a token changes the stored token all the same. -/
theorem refused_priming_answer_stored :
    let base : Url :=
      ⟨"http", "", none, some (.name "example.com"), none, .segments [""], none, none⟩
    ¬ ∀ (backend : Backend) (s : Session) (spec : CallPlan),
      (∀ before request answer, backend before request = .ok answer →
        Status.isAccepted answer.status = false) →
      let a := forBackend Part.second (SessionStore.memory.onPart Part.first) base base backend
      After (a.request default spec).run (some s, {}) fun _ w' => w'.1 = none ∨ w'.1 = some s := by
  intro base h
  let backend : Backend := fun _ _ =>
    .ok { status := 403, headers := [("Set-Cookie", Utf8.ofString "Xsrf-Token=refused")] }
  let cold : Session :=
    { token := "", kind := .csrf, cookies := StringMap.insert ∅ "signatrust" "sess" }
  have hrefused : ∀ before request answer, backend before request = .ok answer →
      Status.isAccepted answer.status = false := by
    rintro before request answer ⟨rfl⟩
    rfl
  have hkept := h backend cold (.get "x" []) hrefused
  unfold After at hkept
  exact absurd hkept (by decide +kernel)

end Adapter

end SigningConsole
