import SigningConsole.Proofs.LoginRun
/-!
Events that the login flow refuses.

`LoginStage.bars?` is the table of the events that a state does not allow, and
`LoginStage.MissesCode` says that an operation is a redirect which the state allows, but which
carries no code. `Judged` sorts what an operation comes to by this table: a refusal, and the reading
of the store while a code waits, leave the whole state of the world as it was, with the store and
with the calls that the backend has seen; an operation that is tried fails, if it does, for other
reasons. There is one lemma an operation, and nothing is assumed of the store or of the backend.
-/

namespace SigningConsole

open Calendar

variable {σ α : Type}

/-! ## The table -/

/-- The event that an operation is, if the state does not allow it. -/
def LoginStage.bars? : LoginStage → LoginAction → Option LoginEvent
  | codeReceived _, .receive _ => some .redirect
  | codeReceived _, .complete _ => some .redirect
  | codeReceived _, .adopt _ => some .adopt
  | codeReceived _, .adoptApiKey _ => some .adopt
  | codeReceived _, .logout => some .logout
  | unauthenticated, .exchange => some .exchange
  | unauthenticated, .logout => some .logout
  | authenticated _, .exchange => some .exchange
  | _, _ => none

/-- The redirect that an operation takes a code from. -/
def LoginAction.redirect? : LoginAction → Option Url
  | receive url => some url
  | complete url => some url
  | _ => none

/-- No code waits, and the operation is a redirect without one. -/
def LoginStage.MissesCode (st : LoginStage) (action : LoginAction) : Prop :=
  st.pending? = none ∧ ∃ url, action.redirect? = some url ∧ url.redirectCode? = none

/-- The error says that nothing was tried. -/
def LoginError.isRefusal : LoginError → Bool
  | missingCode => true
  | invalidTransition _ _ => true
  | _ => false

/-- A step that fails, if it does, for a reason of its own. -/
def LoginStep.Tried (step : LoginStep α) : Prop := ∀ e, step.1 = .error e → e.isRefusal = false

/-- What an operation comes to: it is refused, it waits for the code, or it is tried. -/
inductive Judged (f : LoginFlow) (action : LoginAction) (w : σ) :
    LoginStep LoginReply → σ → Prop where
  | barred {event : LoginEvent} (h : f.state.bars? action = some event) :
      Judged f action w (.error (f.invalid event), f) w
  | codeless (h : f.state.MissesCode action) : Judged f action w (.error .missingCode, f) w
  | waits (ha : action = .reload) (h : f.state.pending?.isSome) :
      Judged f action w (.ok (.found none), f) w
  | tried {step : LoginStep LoginReply} {w' : σ} (hb : f.state.bars? action = none)
      (hc : ¬ f.state.MissesCode action) (hw : action = .reload → f.state.pending? = none)
      (h : step.Tried) :
      Judged f action w step w'

namespace LoginStep

theorem tried_ok (a : α) (f : LoginFlow) : Tried (.ok a, f) := by
  intro e he
  cases he

theorem tried_error {e : LoginError} (h : e.isRefusal = false) (f : LoginFlow) :
    Tried ((.error e, f) : LoginStep α) := by
  intro e' he
  cases he
  exact h

theorem Tried.as {step : LoginStep α} (h : step.Tried) (tag : α → LoginReply) :
    (step.as tag).Tried := by
  obtain ⟨r, f⟩ := step
  cases r with
  | ok a => exact tried_ok (tag a) f
  | error e => exact tried_error (h e rfl) f

end LoginStep

/-- Where no code waits, only an exchange and a logout can be barred. -/
theorem LoginStage.bars?_eq_none {st : LoginStage} (h : st.pending? = none) {action : LoginAction}
    (hx : action ≠ .exchange) (hl : action ≠ .logout) : st.bars? action = none := by
  cases st with
  | codeReceived code => cases h
  | unauthenticated => cases action <;> simp_all [bars?]
  | authenticated s => cases action <;> simp_all [bars?]

theorem LoginStage.bars?_reload (st : LoginStage) : st.bars? .reload = none := by
  cases st <;> rfl

theorem LoginStage.bars?_invalidate (st : LoginStage) : st.bars? .invalidate = none := by
  cases st <;> rfl

/-- A redirect with a code misses none. -/
theorem LoginStage.not_missesCode_of_code {st : LoginStage} {action : LoginAction} {url : Url}
    {code : RedirectCode} (ha : action.redirect? = some url) (hu : url.redirectCode? = some code) :
    ¬ st.MissesCode action := by
  rintro ⟨-, url', hurl, hnone⟩
  have heq : url = url' := Option.some.inj (ha.symm.trans hurl)
  rw [← heq, hu] at hnone
  cases hnone

/-- A redirect that misses its code is not barred. -/
theorem LoginStage.MissesCode.bars?_eq_none {st : LoginStage} {action : LoginAction}
    (h : st.MissesCode action) :
    st.bars? action = none := by
  obtain ⟨hp, url, hurl, -⟩ := h
  refine LoginStage.bars?_eq_none hp ?_ ?_
  · rintro rfl
    cases hurl
  · rintro rfl
    cases hurl

theorem LoginStage.not_missesCode {st : LoginStage} {action : LoginAction}
    (h : action.redirect? = none) :
    ¬ st.MissesCode action := by
  rintro ⟨-, url, hurl, -⟩
  rw [h] at hurl
  cases hurl

/-- An API key is judged as its session is. -/
theorem Judged.ofApiKey {f : LoginFlow} {token : String} {w w' : σ} {step : LoginStep LoginReply}
    (h : Judged f (.adopt (.ofApiKey token)) w step w') :
    Judged f (.adoptApiKey token) w step w' := by
  have hbars : f.state.bars? (.adoptApiKey token) = f.state.bars? (.adopt (.ofApiKey token)) := by
    cases f.state <;> rfl
  cases h with
  | barred h => exact .barred (hbars.trans h)
  | codeless h => exact absurd h (LoginStage.not_missesCode rfl)
  | waits ha _ => cases ha
  | tried hb _ _ h => exact .tried (hbars.trans hb) (LoginStage.not_missesCode rfl) nofun h

namespace LoginFlow

variable {store : SessionStore σ} {calls : LoginCalls σ}

/-! ## Operations that are tried -/

theorem keep_tried (now : ClockTime) (s : Session) (f : LoginFlow) (w : σ) :
    After (keep store now s f) w fun step _ => step.Tried := by
  unfold keep
  split
  · exact LoginStep.tried_error rfl f
  · rename_i s' _
    have hsave : After (store.save s').run w fun _ _ => True := trivial
    refine hsave.bind fun r w' _ => ?_
    cases r with
    | ok _ => exact LoginStep.tried_ok s' _
    | error e => exact LoginStep.tried_error rfl f

/-- The exchange of a code that waits is tried. -/
theorem exchange_tried {f : LoginFlow} {code : RedirectCode} (hf : f.state = .codeReceived code)
    (now : ClockTime) (w : σ) : After (f.exchange store calls now) w fun step _ => step.Tried := by
  have hredeem : After (calls.redeem code).run w fun _ _ => True := trivial
  unfold exchange
  rw [hf]
  refine hredeem.bind fun answer w' _ => ?_
  cases answer with
  | ok grant => exact keep_tried now _ _ w'
  | error e => exact LoginStep.tried_error rfl _

theorem invalidate_tried (f : LoginFlow) (w : σ) :
    After (f.invalidate store) w fun step _ => step.Tried := by
  have hclear : After store.clear.run w fun _ _ => True := trivial
  unfold invalidate
  refine hclear.bind fun r w' _ => ?_
  cases r with
  | ok _ => exact LoginStep.tried_ok () _
  | error e => exact LoginStep.tried_error rfl f

theorem logoutResult_tried (answer : Except BackendError Unit) (f : LoginFlow) :
    LoginStep.Tried (logoutResult answer, f) := by
  unfold logoutResult
  split
  · exact LoginStep.tried_ok () f
  · exact LoginStep.tried_ok () f
  · exact LoginStep.tried_error rfl f

/-! ## What each operation comes to -/

theorem receive_judged (f : LoginFlow) (url : Url) (w : σ) :
    Judged f (.receive url) w (LoginStep.as .code (f.receive url)) w := by
  obtain ⟨code, hf, hr⟩ | ⟨hp, hu, hr⟩ | ⟨hp, code, hu, hr⟩ := receive_cases f url
  · rw [hr]
    exact .barred (by rw [hf]; rfl)
  · rw [hr]
    exact .codeless ⟨hp, url, rfl, hu⟩
  · rw [hr]
    exact .tried (LoginStage.bars?_eq_none hp nofun nofun)
      (LoginStage.not_missesCode_of_code rfl hu) nofun ((LoginStep.tried_ok code _).as .code)

theorem exchange_judged (now : ClockTime) (f : LoginFlow) (w : σ) :
    After (f.exchange store calls now) w fun step w' => Judged f .exchange w
      (LoginStep.as .session step) w' := by
  have hc : ¬ f.state.MissesCode .exchange := LoginStage.not_missesCode rfl
  cases hf : f.state with
  | codeReceived code =>
    have hb : f.state.bars? .exchange = none := by rw [hf]; rfl
    exact (exchange_tried hf now w).mono fun step w' h => .tried hb hc nofun (h.as .session)
  | unauthenticated =>
    unfold exchange
    rw [hf]
    exact .barred (by rw [hf]; rfl)
  | authenticated s =>
    unfold exchange
    rw [hf]
    exact .barred (by rw [hf]; rfl)

/-- A redirect whose code is taken is followed by an exchange that is tried. -/
theorem complete_judged (now : ClockTime) (f : LoginFlow) (url : Url) (w : σ) :
    After (f.complete store calls now url) w fun step w' =>
      Judged f (.complete url) w (LoginStep.as .session step) w' := by
  unfold complete
  obtain ⟨code, hf, hr⟩ | ⟨hp, hu, hr⟩ | ⟨hp, code, hu, hr⟩ := receive_cases f url
  · rw [hr]
    exact .barred (by rw [hf]; rfl)
  · rw [hr]
    exact .codeless ⟨hp, url, rfl, hu⟩
  · rw [hr]
    refine (exchange_tried rfl now w).mono fun step w' h => ?_
    exact .tried (LoginStage.bars?_eq_none hp nofun nofun)
      (LoginStage.not_missesCode_of_code rfl hu) nofun (h.as .session)

theorem adopt_judged (now : ClockTime) (f : LoginFlow) (s : Session) (w : σ) :
    After (f.adopt store now s) w fun step w' => Judged f (.adopt s) w
      (LoginStep.as .session step) w' := by
  unfold adopt
  split
  · rename_i code hf
    exact .barred (by rw [hf]; rfl)
  · rename_i hf
    have hb : f.state.bars? (.adopt s) = none :=
      LoginStage.bars?_eq_none (LoginStage.pending?_eq_none hf) nofun nofun
    exact (keep_tried now s f w).mono fun step w' h =>
      .tried hb (LoginStage.not_missesCode rfl) nofun (h.as .session)

theorem reload_judged (now : ClockTime) (f : LoginFlow) (w : σ) :
    After (f.reload store now) w fun step w' => Judged f .reload w
      (LoginStep.as .found step) w' := by
  have hc : ¬ f.state.MissesCode .reload := LoginStage.not_missesCode rfl
  have hb : f.state.bars? .reload = none := f.state.bars?_reload
  unfold reload
  split
  · rename_i code hf
    exact .waits rfl (by rw [hf]; rfl)
  · rename_i hf
    have hcurrent : After (store.current now).run w fun _ _ => True := trivial
    refine hcurrent.bind fun r w' _ => ?_
    have hw : LoginAction.reload = .reload → f.state.pending? = none :=
      fun _ => LoginStage.pending?_eq_none hf
    cases r with
    | ok s => exact .tried hb hc hw ((LoginStep.tried_ok s _).as .found)
    | error e => exact .tried hb hc hw ((LoginStep.tried_error rfl f).as .found)

theorem logout_judged (f : LoginFlow) (w : σ) :
    After (f.logout store calls) w fun step w' => Judged f .logout w
      (LoginStep.as (fun _ => .done) step) w' := by
  have hc : ¬ f.state.MissesCode .logout := LoginStage.not_missesCode rfl
  unfold logout isLoggedIn session?
  cases hf : f.state with
  | unauthenticated => exact .barred (by rw [hf]; rfl)
  | codeReceived code => exact .barred (by rw [hf]; rfl)
  | authenticated s =>
    have hb : f.state.bars? .logout = none := by rw [hf]; rfl
    have hanswer : After calls.logout.run w fun _ _ => True := trivial
    refine hanswer.bind fun answer w' _ => ?_
    refine (invalidate_tried f w').bind fun step w'' h => ?_
    obtain ⟨r, g⟩ := step
    cases r with
    | ok _ => exact .tried hb hc nofun ((logoutResult_tried answer g).as _)
    | error e => exact .tried hb hc nofun ((LoginStep.tried_error (h e rfl) g).as _)

/-- Every operation is judged by the table. -/
theorem perform_judged (store : SessionStore σ) (calls : LoginCalls σ) (now : ClockTime)
    (f : LoginFlow) (action : LoginAction) (w : σ) :
    After (f.perform store calls now action) w (Judged f action w) := by
  cases action with
  | receive url => exact receive_judged f url w
  | exchange => exact exchange_judged now f w
  | complete url => exact complete_judged now f url w
  | adopt s => exact adopt_judged now f s w
  | adoptApiKey token =>
    exact (adopt_judged now f (.ofApiKey token) w).mono fun step w' h => h.ofApiKey
  | invalidate =>
    refine After.map_iff.2 ((invalidate_tried f w).mono fun step w' h => ?_)
    exact .tried f.state.bars?_invalidate (LoginStage.not_missesCode rfl) nofun (h.as _)
  | reload => exact reload_judged now f w
  | logout => exact logout_judged f w

/-- The flow refuses just the events of the table, each by its name and the name of the state, and
just the redirects without a code where no code waits. A refusal changes nothing, neither the flow
nor the store nor what the backend has seen, and nor does reading the store while a code waits. -/
theorem refused_events_do_nothing (store : SessionStore σ) (calls : LoginCalls σ) (now : ClockTime)
    (f : LoginFlow) (action : LoginAction) (w : σ) :
    After (f.perform store calls now action) w fun step w' =>
      (∀ name event, step.1 = .error (.invalidTransition name event) ↔
        f.state.bars? action = some event ∧ name = f.state.name) ∧
      (step.1 = .error .missingCode ↔ f.state.MissesCode action) ∧
      ((f.state.bars? action).isSome ∨ f.state.MissesCode action → step.2 = f ∧ w' = w) ∧
      (action = .reload → f.state.pending?.isSome → step = (.ok (.found none), f) ∧ w' = w) := by
  refine (perform_judged store calls now f action w).mono fun step w' h => ?_
  cases h with
  | @barred event hb =>
    have hc : ¬ f.state.MissesCode action := fun hc => nomatch hb.symm.trans hc.bars?_eq_none
    refine ⟨fun name event' => ?_, iff_of_false nofun hc, fun _ => ⟨rfl, rfl⟩, fun ha _ => ?_⟩
    · rw [hb, invalid]
      constructor
      · intro h
        cases h
        exact ⟨rfl, rfl⟩
      · rintro ⟨he, rfl⟩
        cases he
        rfl
    · rw [ha, LoginStage.bars?_reload] at hb
      cases hb
  | codeless h =>
    refine ⟨fun name event => ?_, iff_of_true rfl h, fun _ => ⟨rfl, rfl⟩, fun ha _ => ?_⟩
    · rw [h.bars?_eq_none]
      exact iff_of_false nofun nofun
    · rw [ha] at h
      exact absurd h (LoginStage.not_missesCode rfl)
  | waits ha hp =>
    have hc : ¬ f.state.MissesCode action := LoginStage.not_missesCode (by rw [ha]; rfl)
    have hb : f.state.bars? action = none := by rw [ha, LoginStage.bars?_reload]
    rw [hb]
    exact ⟨fun name event => iff_of_false nofun nofun, iff_of_false nofun hc, fun _ => ⟨rfl, rfl⟩,
      fun _ _ => ⟨rfl, rfl⟩⟩
  | tried hb hc hw h =>
    rw [hb]
    refine ⟨fun name event => iff_of_false (fun he => ?_) nofun, iff_of_false (fun he => ?_) hc,
      fun hr => ?_, fun ha hp => ?_⟩
    · cases h _ he
    · cases h _ he
    · cases hr with
      | inl hr => cases hr
      | inr hr => exact absurd hr hc
    · rw [hw ha] at hp
      cases hp

end LoginFlow

end SigningConsole
