import SigningConsole.Proofs.Rejection
/-!
What a call leaves in a store that never fails.

The session that goes with the described request is just the one that the store holds then:
`Adapter.absorb` writes only when a cookie reports a change, and cookies that report none change
nothing (`Session.absorbAll_unchanged`). What is left of it is decided by the answer
(`Session.leftBy`): an answer that is taken adds its cookies, a rejection takes the session
away, and everything else leaves it alone. `Adapter.request_leaves_session` puts that beside the
report of the call.
-/

namespace SigningConsole

open Calendar Text

variable {σ τ : Type}

/-! ## Cookies that change nothing -/

theorem Credential.absorb_unchanged {c : Credential} {raw : String} (h : (c.absorb raw).2 = false) :
    (c.absorb raw).1 = c := by
  have hquiet : ¬(c.absorb raw).1 ≠ c := by
    rw [← c.absorb_changed_iff, h]
    exact Bool.false_ne_true
  exact Classical.not_not.1 hquiet

namespace Session

theorem absorb_unchanged {s : Session} {raw : String} (h : (s.absorb raw).2 = false) :
    (s.absorb raw).1 = s := by
  unfold absorb at h ⊢
  cases hk : s.kind with
  | apiKey => rfl
  | csrf =>
    rw [hk] at h
    have hsame : Credential.absorb ⟨s.token, s.cookies⟩ raw = (⟨s.token, s.cookies⟩, false) :=
      Prod.ext (Credential.absorb_unchanged h) h
    dsimp only
    rw [hsame, ← hk]

/-- If no cookie reports a change, the session is the same. -/
theorem absorbAll_unchanged {s : Session} {raws : List String} (h : (s.absorbAll raws).2 = false) :
    (s.absorbAll raws).1 = s := by
  induction raws generalizing s with
  | nil => rfl
  | cons raw raws ih =>
    have hall : ((s.absorb raw).2 || ((s.absorb raw).1.absorbAll raws).2) = false := h
    obtain ⟨hfirst, hrest⟩ := Bool.or_eq_false_iff.1 hall
    show ((s.absorb raw).1.absorbAll raws).1 = s
    rw [absorb_unchanged hfirst] at hrest ⊢
    exact ih hrest

end Session

/-! ## What each step of a call leaves -/

/-- The adapter writes to the session only by its store, which never fails. -/
structure Adapter.Reliable (a : Adapter σ) (content : σ → Option Session) : Prop
    extends a.ClearsOnly content fun _ => none where
  store : a.store.Reliable content

/-- An adapter for a backend, with a reliable store beside the traffic. -/
theorem Adapter.forBackend_reliable {store : SessionStore τ} {content : τ → Option Session}
    (h : store.Reliable content) (base loginUrl : Url) (backend : Backend) :
    (Adapter.forBackend (Part.second : Part (τ × Traffic) Traffic)
      (store.onPart Part.first) base loginUrl
      backend).Reliable fun w => content w.1 where
  store := h.onPart Part.first
  clear := (h.onPart Part.first).empties (h.onPart Part.first).clears
  send _ _ _ := rfl
  redirect _ := rfl
  notify _ _ := rfl
  log _ _ := rfl

/-- A reliable store finds the session that is still usable. -/
theorem SessionStore.Reliable.live?_eq {store : SessionStore σ} {content : σ → Option Session}
    (h : store.Reliable content) (now : Instant) (w : σ) :
    store.live? now w = Session.usable? now (content w) := by
  have hc := h.current now w
  unfold SessionStore.live?
  unfold After at hc
  rw [hc.1]
  rfl

namespace Adapter

variable {a : Adapter σ} {content : σ → Option Session} {deeds : σ → Deeds} {w : σ}

/-- The session with the cookies is saved if they have changed it. -/
theorem absorb_saves (h : a.Reliable content) {s : Session} {answer : Answer}
    (hcan : SessionStore.CanHold content s) (w : σ) :
    After (a.absorb s answer) w fun s' w' =>
      s' = (s.absorbAll answer.setCookies).1 ∧
      content w' = if (s.absorbAll answer.setCookies).2 then some s' else content w := by
  have hcan := hcan.absorbAll answer.setCookies
  unfold absorb
  generalize s.absorbAll answer.setCookies = absorbed at hcan ⊢
  obtain ⟨s', changed⟩ := absorbed
  cases changed with
  | false => exact ⟨rfl, rfl⟩
  | true =>
    refine ((h.store.save s' hcan w).and (h.store.saves s' w)).bind fun r w' hr => ?_
    obtain ⟨hr, _, rfl⟩ := hr
    exact After.pure_iff.2 ⟨rfl, hr⟩

/-- The store holds the session with the cookies, whether that had to be written or not. -/
theorem absorb_leaves (h : a.Reliable content) {s : Session} (hs : content w = some s)
    (answer : Answer) :
    After (a.absorb s answer) w fun s' w' =>
      s' = (s.absorbAll answer.setCookies).1 ∧ content w' = some s' := by
  refine (absorb_saves h (.of_held hs) w).mono fun s' w' hw' => ?_
  obtain ⟨rfl, hw'⟩ := hw'
  refine ⟨rfl, hw'.trans ?_⟩
  cases hchanged : (s.absorbAll answer.setCookies).2 with
  | true => rfl
  | false => exact hs.trans (congrArg some (Session.absorbAll_unchanged hchanged).symm)

theorem prime_leaves (h : a.Reliable content) {s : Session} (hs : content w = some s) :
    After (a.prime s) w fun s' w' => content w' = some s' := by
  unfold prime
  refine (deliver_keeps h.send _ _ w).bind fun outcome w' hk => ?_
  have hs' : content w' = some s := Eq.trans hk hs
  cases outcome with
  | ok answer => exact (absorb_leaves h hs' answer).mono fun s' w'' hw'' => hw''.2
  | error e => exact (h.log _ w').bind fun _ w'' hk' => After.pure_iff.2 (Eq.trans hk' hs')

/-- The session that a call uses is just what the store holds. -/
theorem session?_leaves (h : a.Reliable content) (now : Instant) (w : σ) :
    After (a.session? now) w fun used w' => content w' = used := by
  unfold session?
  refine (h.store.current now w).bind fun r w' hr => ?_
  obtain ⟨rfl, hw'⟩ := hr
  rw [← hw']
  cases hc : content w' with
  | none => exact hc
  | some s =>
    by_cases hn : s.needsToken
    · simp only [hn, if_true]
      exact After.map_iff.2 (prime_leaves h hc)
    · simp only [hn, Bool.false_eq_true, if_false]
      exact hc

theorem conclude_leaves (h : a.Reliable content) {s : Option Session} (hs : content w = s)
    (answer : Answer) :
    After (a.conclude s answer) w fun _ w' =>
      content w' = s.map fun s => (s.absorbAll answer.setCookies).1 := by
  cases s with
  | none => exact hs
  | some s =>
    refine (absorb_leaves h hs answer).bind fun s' w' hs' => ?_
    obtain ⟨rfl, hw'⟩ := hs'
    exact After.pure_iff.2 hw'

end Adapter

/-! ## What a call leaves -/

namespace Session

/-- What is left of the session that was sent with the described request: the cookies of an
answer that is taken go into it, a rejection takes it away, and every other answer, or none,
leaves it as it is. -/
def leftBy (used : Option Session) (described : Option Exchange) : Option Session :=
  match described.bind (·.outcome.toOption) with
  | none => used
  | some answer =>
    if answer.status = 401 then none
    else if 200 ≤ answer.status ∧ answer.status < 400 then
      used.map fun s => (s.absorbAll answer.setCookies).1
    else used

theorem leftBy_none (described : Option Exchange) : leftBy none described = none := by
  unfold leftBy
  split
  · rfl
  · split
    · rfl
    · split <;> rfl

/-- The same by what is made of the answer. -/
def leftAfter (used : Option Session) : Except BackendError Answer → Option Session
  | .ok answer => used.map fun s => (s.absorbAll answer.setCookies).1
  | .error e => unlessRejected (fun _ => none) used (.error e : Except BackendError Answer)

end Session

theorem Answered.leftBy {outcome : Outcome} {d d' : Deeds} {result : Except BackendError Answer}
    (h : Answered .ok outcome d d' result) (used : Option Session) (purpose : Purpose)
    (request : Request) :
    Session.leftBy used (some ⟨purpose, request, outcome⟩) = Session.leftAfter used result := by
  cases h with
  | transport e => rfl
  | @unauthorized answer h₁ => exact if_pos h₁
  | @accepted answer ha =>
    have h₁ : answer.status ≠ 401 := by omega
    exact (if_neg h₁).trans (if_pos ha)
  | @server answer h₅ =>
    have h₁ : answer.status ≠ 401 := by omega
    have ha : ¬ (200 ≤ answer.status ∧ answer.status < 400) := by omega
    exact (if_neg h₁).trans (if_neg ha)
  | refused ha h₁ _ => exact (if_neg h₁).trans (if_neg ha)

theorem Performed.leftBy {base : Url} {s : Option Session} {spec : CallPlan} {d d' : Deeds}
    {result : Except BackendError Answer} (h : Performed base s spec .ok d d' result)
    (used : Option Session) {described : Option Exchange}
    (hsent : d'.exchanges = d.exchanges ++ described.toList) :
    Session.leftBy used described = Session.leftAfter used result := by
  cases h with
  | invalid _ _ =>
    cases Deeds.sent_unique hsent (y := none) (List.append_nil _).symm
    rfl
  | unsendable _ _ _ =>
    cases Deeds.sent_unique hsent (y := none) (List.append_nil _).symm
    rfl
  | @sent r _ _ _ outcome _ _ ha =>
    obtain ⟨rfl, -⟩ := Answered.adds ⟨.described, r, outcome⟩ ha
    cases Deeds.sent_unique hsent rfl
    exact ha.leftBy used .described r

namespace Adapter

/-- After a call a reliable store holds the session that was sent with the described request, with
the cookies of an answer that is taken, also where its body cannot be read. A rejection leaves
nothing, and every other answer, or none, leaves that session. Where no session could be used there
is none afterwards. -/
theorem request_leaves_session {store : SessionStore τ} {content : τ → Option Session}
    (h : store.Reliable content) (base loginUrl : Url) (backend : Backend) (now : Instant)
    (spec : CallPlan) (w : τ) (t : Traffic) :
    let a := Adapter.forBackend Part.second (store.onPart Part.first) base loginUrl backend
    After (a.request now spec).run (w, t) fun result w' =>
      ∃ primed described used,
        CallReport a (Session.usable? now (content w)) used spec primed described t.deeds
            w'.2.deeds result ∧
          content w'.1 = Session.leftBy used described ∧
          (Session.usable? now (content w) = none → content w'.1 = none) := by
  intro a
  have hr : a.Reliable fun w => content w.1 := forBackend_reliable h base loginUrl backend
  have hd : a.Does fun w => w.2.deeds := forBackend_does store base loginUrl backend
  have hlive : a.store.live? now (w, t) = Session.usable? now (content w) :=
    hr.store.live?_eq now (w, t)
  -- what is stored at the end, by what was made of the answer
  suffices hleft : After (a.request now spec).run (w, t) fun result w' => ∃ primed used settled,
      Primed a (Session.usable? now (content w)) primed used ∧
        Performed a.base used spec .ok (t.deeds.plus primed) w'.2.deeds settled ∧
        result = settled >>= Answer.payload spec.response ∧
        content w'.1 = Session.leftAfter used settled by
    refine hleft.mono fun result w' hw' => ?_
    obtain ⟨primed, used, settled, hp, hperf, rfl, hw'⟩ := hw'
    obtain ⟨described, hreport⟩ := (hperf.read (Answer.payload spec.response)).reports hp
    have hby := hperf.leftBy used hreport.exchanges
    refine ⟨primed, described, used, hreport, hw'.trans hby.symm, fun hnone => ?_⟩
    have hused : used = none := by
      rw [hreport.used_eq, hnone]
      rfl
    rw [hw', ← hby, hused]
    exact Session.leftBy_none described
  unfold request
  refine ((session?_leaves hr now (w, t)).and (session?_deeds hd now (w, t))).bindLift
    fun used w₁ hw₁ => ?_
  obtain ⟨hw₁, primed, hd₁, hp⟩ := hw₁
  rw [hlive] at hp
  refine ((perform_view hr.toClearsOnly used spec w₁).and
    (perform_deeds hd used spec w₁)).bindExcept (fun answer w₂ hw₂ => ?_) fun e w₂ hw₂ => ?_
  · obtain ⟨hw₂, hperf⟩ := hw₂
    rw [hd₁] at hperf
    refine ((conclude_leaves hr (hw₂.trans hw₁) answer).and
      (conclude_deeds hd used answer w₂)).bindLift fun _ w₃ hw₃ => ?_
    obtain ⟨hw₃, hd₃⟩ := hw₃
    rw [← hd₃] at hperf
    exact After.pure_iff.2 ⟨primed, used, _, hp, hperf, rfl, hw₃⟩
  · obtain ⟨hw₂, hperf⟩ := hw₂
    rw [hd₁] at hperf
    rw [hw₁] at hw₂
    exact ⟨primed, used, _, hp, hperf, rfl, hw₂⟩

/-- A token that comes with a body that is no JSON is stored, though the call fails. -/
theorem token_stored_with_unreadable_body :
    let base : Url :=
      ⟨"http", "", none, some (.name "example.com"), none, .segments [""], none, none⟩
    let backend : Backend := fun _ _ =>
      .ok { status := 200
            headers := [("Set-Cookie", Utf8.ofString "Xsrf-Token=new")]
            body := .ok (Utf8.ofString "no JSON") }
    let a := forBackend Part.second (SessionStore.memory.onPart Part.first) base base backend
    let old : Session := { token := "old", kind := .csrf }
    let run := (a.request default (.get "x" [])).run.run (some old, {})
    run.1.isOk = false ∧ run.2.1 = some { old with token := "new" } ∧
      ∃ described, run.2.2.exchanges = described.toList ∧
        run.2.1 = Session.leftBy (some old) described := by
  intro base backend a old run
  have hrun : run.1.isOk = false ∧ run.2.1 = some { old with token := "new" } := by decide +kernel
  have h : After (a.request default (.get "x" [])).run (some old, {}) fun result w' =>
      ∃ primed described used, CallReport a (some old) used (.get "x" []) primed described
        (Traffic.deeds {}) w'.2.deeds result ∧ w'.1 = Session.leftBy used described ∧
        (some old = none → w'.1 = none) :=
    request_leaves_session SessionStore.memory_reliable base base backend default
      (.get "x" []) (some old) {}
  obtain ⟨primed, described, used, hreport, hleft, -⟩ := h
  -- a session with its token is not primed
  have hprimed : primed = none := by
    rw [← Option.not_isSome_iff_eq_none, hreport.primed_iff]
    rintro ⟨s, ⟨rfl⟩, -, -, htoken, -⟩
    exact absurd htoken (by decide)
  rw [hprimed] at hreport
  have hused : used = some old := hreport.used_eq
  rw [hused] at hleft
  exact ⟨hrun.1, hrun.2, described, hreport.exchanges, hleft⟩

end Adapter

end SigningConsole
