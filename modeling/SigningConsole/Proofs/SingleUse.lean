import SigningConsole.Proofs.LoginRun
/-!
An authorization code is used once at most.

A code enters the flow with a redirect that is accepted (`LoginAction.accepted`) and leaves it
before the backend is asked. So over a run the codes that were exchanged, followed by the code that
still waits, are a subsequence of the codes that were accepted (`LoginFlow.run_codes`). `CodeStep`
is what one operation contributes, and what two in a row contribute is put together by
`CodeStep.append`.

Nothing is assumed of the store and of what the backend answers: the codes are seen in the
state where `codes` finds them, and `LoginCalls.Notes` says that they are noted there as
they are exchanged.
-/

namespace SigningConsole

open Calendar

variable {σ : Type}

/-- The codes that an operation takes from a redirect. -/
def LoginAction.accepted (f : LoginFlow) : LoginAction → List RedirectCode
  | receive url => (f.receive url).1.toOption.toList
  | complete url => (f.receive url).1.toOption.toList
  | _ => []

/-- The codes that a run takes from redirects, in order. -/
def acceptedCodes (moments : List LoginMoment) : List RedirectCode :=
  moments.flatMap fun m => m.action.accepted m.before

/-- The code that waits, as a list. -/
def LoginFlow.pending (f : LoginFlow) : List RedirectCode := f.state.pending?.toList

/-- The calls note each code that is exchanged. -/
structure LoginCalls.Notes (calls : LoginCalls σ) (codes : σ → List RedirectCode) : Prop where
  redeem : ∀ code w, After (calls.redeem code).run w fun _ w' => codes w' = codes w ++ [code]
  logout : Keeps codes calls.logout.run

/-- The calls with a note of each code that is exchanged, beside their own state. -/
def LoginCalls.noted (calls : LoginCalls σ) : LoginCalls (σ × List RedirectCode) where
  redeem code := do
    let _ ← (Part.second.modify (· ++ [code]) : StateM (σ × List RedirectCode) Unit)
    ExceptT.mk (Part.first.run (calls.redeem code).run)
  logout := ExceptT.mk (Part.first.run calls.logout.run)

theorem LoginCalls.noted_notes (calls : LoginCalls σ) : calls.noted.Notes Prod.snd :=
  ⟨fun _ _ => rfl, fun _ => rfl⟩

/-- What becomes of the codes: those that waited or were accepted are used or wait still, in order,
and where one was used none waits. -/
structure CodeStep (waiting accepted used left : List RedirectCode) : Prop where
  order : (used ++ left).Sublist (waiting ++ accepted)
  spent : used ≠ [] → left = []

namespace CodeStep

variable {waiting accepted used left : List RedirectCode}

/-- Nothing is used, and what waits waited before. -/
theorem idle (h : left.Sublist waiting) : CodeStep waiting accepted [] left :=
  ⟨h.trans (List.sublist_append_left _ _), fun h => absurd rfl h⟩

/-- What the steps of a run use and accept, put together. -/
theorem append {accepted' used' left' : List RedirectCode}
    (h : (used ++ left).Sublist (waiting ++ accepted))
    (h' : (used' ++ left').Sublist (left ++ accepted')) :
    ((used ++ used') ++ left').Sublist (waiting ++ (accepted ++ accepted')) := by
  rw [List.append_assoc, ← List.append_assoc waiting]
  have hu : (used ++ (used' ++ left')).Sublist ((used ++ left) ++ accepted') := by
    rw [List.append_assoc]
    exact (List.Sublist.refl used).append h'
  exact hu.trans (h.append (List.Sublist.refl accepted'))

end CodeStep

namespace LoginFlow

variable {store : SessionStore σ} {calls : LoginCalls σ} {codes : σ → List RedirectCode}

theorem pending_codeReceived {f : LoginFlow} {code : RedirectCode}
    (h : f.state = .codeReceived code) :
    f.pending = [code] := by
  unfold pending
  rw [h]
  rfl

theorem pending_eq_nil {f : LoginFlow} (h : ∀ code, f.state ≠ .codeReceived code) :
    f.pending = [] := by
  unfold pending
  rw [LoginStage.pending?_eq_none h]
  rfl

/-! ## What each operation does to the codes -/

/-- No code is used, and none starts to wait. -/
def LeavesCodes (codes : σ → List RedirectCode) (f : LoginFlow) (w : σ) {α : Type}
    (step : LoginStep α) (w' : σ) :
    Prop := codes w' = codes w ∧ step.2.pending.Sublist f.pending

theorem receive_codes (f : LoginFlow) (url : Url) :
    CodeStep f.pending (f.receive url).1.toOption.toList [] (f.receive url).2.pending := by
  obtain ⟨waiting, -, hr⟩ | ⟨-, -, hr⟩ | ⟨hp, code, -, hr⟩ := receive_cases f url
  · rw [hr]
    exact .idle (.refl _)
  · rw [hr]
    exact .idle (.refl _)
  · rw [hr]
    have hnone : f.pending = [] := by
      unfold pending
      rw [hp]
      rfl
    refine ⟨?_, fun h => absurd rfl h⟩
    rw [hnone]
    exact .refl [code]

theorem keep_codes (hs : store.Quiet codes) (now : ClockTime) (s : Session)
    (f : LoginFlow) (w : σ) :
    After (keep store now s f) w (LeavesCodes codes f w) := by
  unfold keep
  cases s.stamp? f.policy now with
  | none => exact ⟨rfl, .refl _⟩
  | some s' =>
    refine (hs.save s' w).bind fun r w' hw' => ?_
    cases r with
    | ok _ => exact ⟨hw', List.nil_sublist _⟩
    | error e => exact ⟨hw', .refl _⟩

/-- The code that waits is taken out before the backend is asked, and nothing puts it back. -/
theorem exchange_codes (hs : store.Quiet codes) (hc : calls.Notes codes) (now : ClockTime)
    (f : LoginFlow) (w : σ) :
    After (f.exchange store calls now) w fun step w' =>
      codes w' = codes w ++ f.pending ∧ step.2.pending = [] := by
  unfold exchange
  split
  · rename_i code hf
    rw [pending_codeReceived hf]
    refine (hc.redeem code w).bind fun answer w' hw' => ?_
    cases answer with
    | error e => exact ⟨hw', rfl⟩
    | ok grant =>
      refine (keep_codes hs now _ _ w').mono fun step w'' hk => ?_
      exact ⟨hk.1.trans hw', List.eq_nil_of_sublist_nil hk.2⟩
  · rename_i hf
    rw [pending_eq_nil hf, List.append_nil]
    exact ⟨rfl, pending_eq_nil hf⟩

theorem adopt_codes (hs : store.Quiet codes) (now : ClockTime) (s : Session)
    (f : LoginFlow) (w : σ) :
    After (f.adopt store now s) w (LeavesCodes codes f w) := by
  unfold adopt
  split
  · exact ⟨rfl, .refl _⟩
  · exact keep_codes hs now s f w

theorem invalidate_codes (hs : store.Quiet codes) (f : LoginFlow) (w : σ) :
    After (f.invalidate store) w (LeavesCodes codes f w) := by
  unfold invalidate
  refine (hs.clear w).bind fun r w' hw' => ?_
  cases r with
  | ok _ => exact ⟨hw', List.nil_sublist _⟩
  | error e => exact ⟨hw', .refl _⟩

theorem reload_codes (hs : store.Quiet codes) (now : ClockTime) (f : LoginFlow) (w : σ) :
    After (f.reload store now) w (LeavesCodes codes f w) := by
  unfold reload
  split
  · exact ⟨rfl, .refl _⟩
  · refine (hs.current now w).bind fun r w' hw' => ?_
    cases r with
    | ok s =>
      refine ⟨hw', ?_⟩
      cases s <;> exact List.nil_sublist _
    | error e => exact ⟨hw', .refl _⟩

theorem logout_codes (hs : store.Quiet codes) (hc : calls.Notes codes) (f : LoginFlow) (w : σ) :
    After (f.logout store calls) w (LeavesCodes codes f w) := by
  unfold logout
  split
  · refine (hc.logout w).bind fun answer w' hw' => ?_
    refine (invalidate_codes hs f w').bind fun r w'' hr => ?_
    obtain ⟨r, g⟩ := r
    have hk : LeavesCodes codes f w (r, g) w'' := ⟨hr.1.trans hw', hr.2⟩
    cases r with
    | ok _ => exact hk
    | error e => exact hk
  · exact ⟨rfl, .refl _⟩

/-- What one operation does to the codes. -/
theorem perform_codes (hs : store.Quiet codes) (hc : calls.Notes codes) (now : ClockTime)
    (f : LoginFlow) (action : LoginAction) (w : σ) :
    After (f.perform store calls now action) w fun step w' =>
      ∃ used, codes w' = codes w ++ used ∧ CodeStep f.pending (action.accepted f) used
        step.2.pending := by
  have idle : ∀ {α : Type} {tag : α → LoginReply} {m : StateM σ (LoginStep α)},
      After m w (LeavesCodes codes f w) → After (LoginStep.as tag <$> m) w fun step w' =>
        ∃ used, codes w' = codes w ++ used ∧ CodeStep f.pending (action.accepted f) used
          step.2.pending := by
    intro α tag m hm
    refine After.map_iff.2 (hm.mono fun step w' h => ?_)
    exact ⟨[], by rw [h.1, List.append_nil], .idle h.2⟩
  cases action with
  | receive url => exact ⟨[], (List.append_nil _).symm, receive_codes f url⟩
  | exchange =>
    refine After.map_iff.2 ((exchange_codes hs hc now f w).mono fun step w' h => ?_)
    refine ⟨f.pending, h.1, ?_, fun _ => h.2⟩
    rw [LoginStep.as, h.2, List.append_nil]
    exact List.sublist_append_left _ _
  | complete url =>
    have hr := receive_codes f url
    unfold perform complete
    rw [After.map_iff]
    simp only [LoginAction.accepted]
    generalize f.receive url = received at hr ⊢
    obtain ⟨r, g⟩ := received
    cases r with
    | ok code =>
      -- the code that was accepted waits, so it is the one that the exchange uses
      refine (exchange_codes hs hc now g w).mono fun step w' h => ?_
      refine ⟨g.pending, h.1, ?_, fun _ => h.2⟩
      rw [LoginStep.as, h.2, List.append_nil]
      exact hr.order
    | error e => exact ⟨[], (List.append_nil _).symm, hr⟩
  | adopt s => exact idle (adopt_codes hs now s f w)
  | adoptApiKey token => exact idle (adopt_codes hs now (.ofApiKey token) f w)
  | invalidate => exact idle (invalidate_codes hs f w)
  | reload => exact idle (reload_codes hs now f w)
  | logout => exact idle (logout_codes hs hc f w)

/-! ## Runs -/

/-- Over a run, the codes that were used and the one that waits at the end are among those that
waited at the start or were accepted on the way, in order. -/
theorem run_codes (hs : store.Quiet codes) (hc : calls.Notes codes)
    (actions : List (ClockTime × LoginAction)) (f : LoginFlow) (w : σ) :
    After (f.run store calls actions) w fun r w' => ∃ used,
      codes w' = codes w ++ used ∧
      (used ++ r.2.pending).Sublist (f.pending ++ acceptedCodes r.1) := by
  induction actions generalizing f w with
  | nil => exact ⟨[], (List.append_nil _).symm, List.sublist_append_left _ _⟩
  | cons act rest ih =>
    obtain ⟨now, action⟩ := act
    unfold run
    refine (perform_codes hs hc now f action w).bind fun step w' h => ?_
    refine (ih step.2 w').bind fun r w'' h' => ?_
    obtain ⟨used, hw', hu⟩ := h
    obtain ⟨used', hw'', hu'⟩ := h'
    refine ⟨used ++ used', ?_, CodeStep.append hu.order hu'⟩
    rw [← List.append_assoc, ← hw']
    exact hw''

/-- Where no code waits and none is accepted, none is used. -/
theorem run_leaves_codes (hs : store.Quiet codes) (hc : calls.Notes codes)
    (actions : List (ClockTime × LoginAction)) {f : LoginFlow} (hf : f.pending = []) (w : σ) :
    After (f.run store calls actions) w fun r w' => acceptedCodes r.1 = [] →
      codes w' = codes w := by
  refine (run_codes hs hc actions f w).mono fun r w' h hacc => ?_
  obtain ⟨used, hw', hu⟩ := h
  rw [hf, hacc, List.nil_append] at hu
  have hnil : used = [] := (List.append_eq_nil_iff.1 (List.eq_nil_of_sublist_nil hu)).1
  rw [hw', hnil, List.append_nil]

/-- A flow that starts from the store waits for no code, and none is used in starting it. -/
theorem resume_codes (hs : store.Quiet codes) (policy : SessionLifetime)
    (start : ClockTime) (w : σ) :
    After (resume store policy start) w fun r w' => codes w' = codes w ∧ ∀ f, r = .ok f →
      f.pending = [] := by
  unfold resume
  refine (hs.current start w).bind fun r w' hw' => ?_
  cases r with
  | ok s =>
    refine ⟨hw', fun f hf => ?_⟩
    cases hf
    cases s <;> rfl
  | error e =>
    refine ⟨hw', fun f hf => ?_⟩
    cases hf

/-- Whatever the backend answers and the store does, the codes that are exchanged are a subsequence
of the codes that were accepted. After an operation in which a code was exchanged none waits, and
until another is accepted none is exchanged. -/
theorem codes_used_once (store : SessionStore σ) (calls : LoginCalls σ) (policy : SessionLifetime)
    (start : ClockTime) (actions : List (ClockTime × LoginAction)) (w : σ) :
    let store := store.onPart (Part.first : Part (σ × List RedirectCode) σ)
    After (resumeAndRun store calls.noted policy start actions) (w, []) fun r w' =>
      ∀ moments f, r = .ok (moments, f) →
        w'.2.Sublist (acceptedCodes moments) ∧
        ∀ now action, After (f.perform store calls.noted now action) w' fun step u =>
          u.2 ≠ w'.2 → step.2.state.pending? = none ∧
            ∀ later, After (step.2.run store calls.noted later) u fun r u' =>
              acceptedCodes r.1 = [] → u'.2 = u.2 := by
  intro store'
  have hs : store'.Quiet Prod.snd := store.onPart_quiet fun _ _ => rfl
  have hc := calls.noted_notes
  unfold resumeAndRun
  refine (resume_codes hs policy start (w, [])).bind fun r w₀ hr => ?_
  cases r with
  | error e =>
    refine After.pure_iff.2 fun moments f hf => ?_
    cases hf
  | ok f₀ =>
    obtain ⟨hw₀, hf₀⟩ := hr
    refine After.map_iff.2 ((run_codes hs hc actions f₀ w₀).mono fun r w' h => ?_)
    rintro moments f ⟨rfl⟩
    obtain ⟨used, hw', hu⟩ := h
    rw [hf₀ f₀ rfl, List.nil_append] at hu
    rw [hw₀, List.nil_append] at hw'
    refine ⟨?_, fun now action => ?_⟩
    · rw [hw']
      exact (List.sublist_append_left _ _).trans hu
    · refine (perform_codes hs hc now f action w').mono fun step u h hne => ?_
      obtain ⟨more, hmore, hm⟩ := h
      have hp : step.2.pending = [] := by
        refine hm.spent fun hnil => hne ?_
        rw [hmore, hnil, List.append_nil]
      exact ⟨Option.toList_eq_nil_iff.1 hp, fun later => run_leaves_codes hs hc later hp u⟩

/-- A code that the backend refuses is not offered again. -/
theorem refused_code_used_once :
    let url : Url :=
      ⟨"http", "", none, some (.name "localhost"), none, .segments [""], some "code=first", none⟩
    let store :=
      SessionStore.memory.onPart (Part.first : Part (Option Session × List RedirectCode) _)
    let calls : LoginCalls (Option Session) := ⟨fun _ => throw .unauthorized, pure ()⟩
    let fresh : LoginFlow := ⟨.unauthenticated, .untilCleared⟩
    let waiting : LoginFlow := ⟨.codeReceived ⟨"first", none⟩, .untilCleared⟩
    let received : LoginMoment := ⟨default, .receive url, fresh, .ok (.code ⟨"first", none⟩)⟩
    let refused := (waiting.perform store calls.noted default .exchange).run (none, [])
    (resumeAndRun store calls.noted .untilCleared default [(default, .receive url)]).run
          (none, []) =
        (.ok ([received], waiting), (none, [])) ∧
      refused.2.2 = [⟨"first", none⟩] ∧ refused.1.2.state.pending? = none ∧
      ((refused.1.2.run store calls.noted [(default, .exchange)]).run refused.2).2.2 =
        [⟨"first", none⟩] := by
  intro url store calls fresh waiting received refused
  have hu : url.redirectCode? = some ⟨"first", none⟩ := by decide +kernel
  have hr : LoginStep.as .code (receive fresh url) = (received.reply, waiting) := by
    simp only [receive, hu, fresh]
    rfl
  have hrun :
      (resumeAndRun store calls.noted .untilCleared default [(default, .receive url)]).run
        (none, []) = (.ok ([received], waiting), (none, [])) := by
    have hstep : ∀ step, step = LoginStep.as .code (receive fresh url) →
        (resumeAndRun store calls.noted .untilCleared default
          [(default, .receive url)]).run (none, []) =
          (.ok ([⟨default, .receive url, fresh, step.1⟩], step.2), (none, [])) := by
      rintro _ rfl
      rfl
    exact hstep _ hr.symm
  obtain ⟨-, hnext⟩ :=
    (codes_used_once .memory calls .untilCleared default [(default, .receive url)] none).of_run_eq
      hrun _ _ rfl
  obtain ⟨hp, hlater⟩ := (hnext default .exchange).of_run_eq rfl (by decide)
  exact ⟨hrun, rfl, hp, (hlater [(default, .exchange)]).of_run_eq rfl rfl⟩

end LoginFlow

end SigningConsole
