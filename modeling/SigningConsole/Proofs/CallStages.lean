import SigningConsole.Proofs.SessionLeft
/-!
A request in steps.

A request waits for the backend, for the answer to what was described and before that, if its
session lacks a token, for the answer to the request for one. It reads the store once and goes on
with its own copy of the session; the store is written to when an answer is taken in. What else goes
on in the console goes on between these steps. `CallStage` says how far a request has come and
`Adapter.advance` is its next step; seven steps in a row are the request
(`Adapter.advanceTimes_fresh`). A step writes to the store at most once, and its stage says what
(`CallStage.write?`).

Main statements: `Adapter.advanceTimes_fresh`, `Adapter.advance_leaves`.
-/

namespace SigningConsole

open Calendar

variable {σ : Type}

/-- How far a request has come. -/
inductive CallStage where
  | fresh
  /-- The session that was read lacks its token. -/
  | lacking (s : Session)
  /-- The request for a token is on its way. -/
  | asking (s : Session)
  | asked (s : Session) (outcome : Outcome)
  /-- The described request can go out, with the session if there is one. -/
  | ready (used : Option Session)
  /-- The described request is on its way. -/
  | sent (used : Option Session) (url : Url) (request : Request)
  | answered (used : Option Session) (url : Url) (outcome : Outcome)
  | finished (result : Except BackendError Payload)

/-! ## Steps -/

namespace Adapter

variable (a : Adapter σ) (now : Instant) (spec : CallPlan)

/-- The next step of a request: it reads the store, sends, receives, or makes what it
must of an answer. -/
def advance : CallStage → StateM σ CallStage
  | .fresh => do
    match ← (a.store.current now).run with
    | .ok none => return .ready none
    | .ok (some s) => return if s.needsToken then .lacking s else .ready (some s)
    | .error e =>
      a.warnAbout "Could not read session, sending without token" e.message
      return .ready none
  | .lacking s => return .asking s
  | .asking s => return .asked s (← a.deliver .priming (a.primingRequest s))
  | .asked s (.ok answer) => return .ready (some (← a.absorb s answer))
  | .asked s (.error e) => do
    a.warnAbout "Could not fetch a CSRF token" e.message
    return .ready (some s)
  | .ready used =>
    return match CallPlan.resolve a.base spec.path with
      | .error e => .finished (.error (.request e))
      | .ok url =>
        match spec.request url ((used.map Session.headers).getD []) with
        | .error e => .finished (.error (.request e))
        | .ok request => .sent used url request
  | .sent used url request => return .answered used url (← a.deliver .described request)
  | .answered used url outcome => do
    match ← (a.settle url outcome).run with
    | .error e => return .finished (.error e)
    | .ok answer =>
      a.conclude used answer
      return .finished (answer.payload spec.response)
  | .finished result => return .finished result

/-- So many steps in a row. -/
def advanceTimes : Nat → CallStage → StateM σ CallStage
  | 0, stage => pure stage
  | n + 1, stage => do advanceTimes n (← a.advance now spec stage)

/-- What is left of a request that has its session. -/
def performWith (used : Option Session) : Call σ Payload := do
  let answer ← a.perform used spec
  a.conclude used answer
  ExceptT.mk (pure (answer.payload spec.response))

/-- What is left of a request whose answer has come. -/
def settleWith (used : Option Session) (url : Url) (outcome : Outcome) : Call σ Payload := do
  let answer ← a.settle url outcome
  a.conclude used answer
  ExceptT.mk (pure (answer.payload spec.response))

variable {a now spec}

theorem advanceTimes_succ (n : Nat) (stage : CallStage) :
    a.advanceTimes now spec (n + 1) stage = a.advance now spec stage >>=
    a.advanceTimes now spec n := rfl

/-- A request that has finished takes no more steps. -/
theorem advanceTimes_finished (n : Nat) (result : Except BackendError Payload) :
    a.advanceTimes now spec n (.finished result) = pure (.finished result) := by
  induction n with
  | zero => rfl
  | succ n ih => exact ih

theorem advanceTimes_answered (n : Nat) (used : Option Session) (url : Url) (outcome : Outcome) :
    a.advanceTimes now spec (n + 1) (.answered used url outcome) =
      CallStage.finished <$> (a.settleWith spec used url outcome).run := by
  rw [advanceTimes_succ]
  unfold advance settleWith
  rw [ExceptT.run_bind, map_eq_pure_bind, bind_assoc, bind_assoc]
  refine bind_congr fun r => ?_
  cases r with
  | error e => exact advanceTimes_finished n _
  | ok answer =>
    show (a.conclude used answer >>= fun _ => a.advanceTimes now spec n (.finished _)) = _
    rw [advanceTimes_finished]
    rfl

/-- What is left of a request is what it is after its next step. -/
theorem advanceTimes_ready (n : Nat) (used : Option Session) :
    a.advanceTimes now spec (n + 3) (.ready used) = CallStage.finished <$>
    (a.performWith spec used).run := by
  rw [advanceTimes_succ (n + 2)]
  unfold advance performWith perform
  rw [pure_bind]
  cases CallPlan.resolve a.base spec.path with
  | error e => exact advanceTimes_finished (n + 2) _
  | ok url =>
    dsimp only
    cases spec.request url ((used.map Session.headers).getD []) with
    | error e => exact advanceTimes_finished (n + 2) _
    | ok request =>
      dsimp only
      rw [advanceTimes_succ (n + 1)]
      unfold advance
      rw [bind_assoc]
      simp only [pure_bind, advanceTimes_answered]
      rfl

/-- The session of a request that lacks its token is what the request for one makes of it. -/
theorem advanceTimes_lacking (n : Nat) (s : Session) :
    a.advanceTimes now spec (n + 6) (.lacking s) =
      a.prime s >>= fun s' => CallStage.finished <$> (a.performWith spec (some s')).run := by
  have hasking : a.advanceTimes now spec (n + 6) (.lacking s) = a.advanceTimes now spec (n + 5)
      (.asking s) := rfl
  rw [hasking, advanceTimes_succ (n + 4)]
  unfold advance prime
  rw [bind_assoc, bind_assoc]
  refine bind_congr fun outcome => ?_
  rw [pure_bind, advanceTimes_succ (n + 3)]
  unfold advance
  cases outcome with
  | ok answer => simp only [bind_assoc, pure_bind, advanceTimes_ready]
  | error e => simp only [bind_assoc, pure_bind, advanceTimes_ready]

/-- Seven steps in a row are the request. -/
theorem advanceTimes_fresh (n : Nat) :
    a.advanceTimes now spec (n + 7) .fresh = CallStage.finished <$> (a.request now spec).run := by
  have hrequest : CallStage.finished <$> (a.request now spec).run =
      a.session? now >>= fun used => CallStage.finished <$> (a.performWith spec used).run := rfl
  rw [hrequest]
  rw [advanceTimes_succ (n + 6)]
  unfold advance session?
  rw [bind_assoc, bind_assoc]
  refine bind_congr fun r => ?_
  cases r with
  | error e => simp only [bind_assoc, pure_bind, advanceTimes_ready (n + 3)]
  | ok found =>
    cases found with
    | none => simp only [pure_bind, advanceTimes_ready (n + 3)]
    | some s =>
      dsimp only
      rw [pure_bind]
      by_cases hn : s.needsToken
      · rw [if_pos hn, if_pos hn, advanceTimes_lacking, bind_map_left]
      · rw [if_neg hn, if_neg hn, advanceTimes_ready (n + 3), pure_bind]

end Adapter

/-! ## Writes -/

/-- What a step writes to the store. -/
inductive StoreWrite where
  | saved (s : Session)
  | cleared
deriving DecidableEq

/-- What the store holds after a write. -/
def StoreWrite.content : StoreWrite → Option Session
  | saved s => some s
  | cleared => none

/-- A session is saved when the cookies of an answer have changed it. -/
def Session.writeAfter? (s : Session) (answer : Answer) : Option StoreWrite :=
  if (s.absorbAll answer.setCookies).2 then some (.saved (s.absorbAll answer.setCookies).1)
  else none

namespace CallStage

/-- What the next step writes, if it writes: the copy of the session that an answer to the
request for a token or an accepted answer changes is saved, and a `401` to the described
request clears the store. -/
def write? : CallStage → Option StoreWrite
  | asked s (.ok answer) => s.writeAfter? answer
  | answered used _ (.ok answer) =>
    if answer.status = 401 then some .cleared
    else if Status.isAccepted answer.status then used.bind (·.writeAfter? answer)
    else none
  | _ => none

/-- What a store holds after the next step: a session whose time is over is taken away when
the store is read. -/
def leaves (now : Instant) : CallStage → Option Session → Option Session
  | fresh, c => Session.usable? now c
  | stage, c => stage.write?.elim c StoreWrite.content

theorem leaves_of_write {stage : CallStage} {x : StoreWrite} (h : stage.write? = some x)
    (now : Instant) (c : Option Session) : stage.leaves now c = x.content := by
  cases stage with
  | fresh => cases h
  | _ =>
    unfold leaves
    dsimp only
    rw [h]
    rfl

/-- Without a write, at most a session whose time is over goes, and only when the store is read. -/
theorem leaves_of_no_write {stage : CallStage} (h : stage.write? = none) (now : Instant)
    (c : Option Session) :
    stage.leaves now c = c ∨ stage = fresh ∧ stage.leaves now c = Session.usable? now c := by
  cases stage with
  | fresh => exact .inr ⟨rfl, rfl⟩
  | _ =>
    left
    unfold leaves
    dsimp only
    rw [h]
    rfl

/-- The request has failed because its answer was a `401`. -/
def Rejected (stage : CallStage) : Prop := stage = finished (.error .unauthorized)

instance (stage : CallStage) : Decidable stage.Rejected :=
  match stage with
  | finished (.error .unauthorized) => .isTrue rfl
  | finished (.error (.server _)) => .isFalse nofun
  | finished (.error (.status _ _)) => .isFalse nofun
  | finished (.error (.transport _)) => .isFalse nofun
  | finished (.error (.body _)) => .isFalse nofun
  | finished (.error (.request _)) => .isFalse nofun
  | finished (.ok _) => .isFalse nofun
  | fresh | lacking _ | asking _ | asked _ _ | ready _ | sent _ _ _ | answered _ _ _ =>
    .isFalse nofun

/-- How many steps a request still takes at most. -/
def stepsLeft : CallStage → Nat
  | fresh => 7
  | lacking _ => 6
  | asking _ => 5
  | asked _ _ => 4
  | ready _ => 3
  | sent _ _ _ => 2
  | answered _ _ _ => 1
  | finished _ => 0

theorem stepsLeft_eq_zero {stage : CallStage} :
    stage.stepsLeft = 0 ↔ ∃ result, stage = finished result := by
  cases stage with
  | finished result => exact iff_of_true rfl ⟨result, rfl⟩
  | _ => exact iff_of_false (Nat.succ_ne_zero _) (by rintro ⟨_, ⟨⟩⟩)

/-- The request's copy of the session. -/
def copy? : CallStage → Option Session
  | lacking s | asking s | asked s _ => some s
  | ready used | sent used _ _ | answered used _ _ => used
  | fresh | finished _ => none

/-- The copy is of a session that the store can hold. -/
def Copied (content : σ → Option Session) (stage : CallStage) : Prop :=
  ∀ s, stage.copy? = some s → SessionStore.CanHold content s

end CallStage

theorem Session.writeAfter?_ne_cleared (s : Session) (answer : Answer) :
    s.writeAfter? answer ≠ some .cleared := by
  unfold Session.writeAfter?
  split
  · exact nofun
  · exact nofun

/-- What is known of a request after its next step. -/
structure CallStage.Advanced (now : Instant) (stage stage' : CallStage)
    (c c' : Option Session) : Prop where
  read : stage' ≠ fresh
  content : c' = stage.leaves now c
  rejected : stage'.Rejected ↔ stage.write? = some .cleared ∨ stage.Rejected

/-- Most steps reject nothing. -/
theorem CallStage.Advanced.of_not_rejected {now : Instant} {stage stage' : CallStage}
    {c c' : Option Session} (hread : stage' ≠ fresh) (hc : c' = stage.leaves now c)
    (hafter : ¬ stage'.Rejected) (hbefore : ¬ stage.Rejected)
    (hwrite : stage.write? ≠ some .cleared) : Advanced now stage stage' c c' :=
  ⟨hread, hc, iff_of_false hafter (not_or.2 ⟨hwrite, hbefore⟩)⟩

theorem Answer.payload_ne_unauthorized (answer : Answer) (kind : AnswerKind) :
    answer.payload kind ≠ .error .unauthorized := by
  unfold payload
  split
  · exact nofun
  · exact nofun
  · exact nofun
  · split
    · exact nofun
    · split
      · exact nofun
      · exact nofun

namespace Adapter

variable {a : Adapter σ} {content : σ → Option Session} {now : Instant} {spec : CallPlan} {w : σ}

theorem absorb_writes (h : a.Reliable content) {s : Session} (hs : SessionStore.CanHold content s)
    (answer : Answer) (w : σ) :
    After (a.absorb s answer) w fun _ w' =>
      content w' = (s.writeAfter? answer).elim (content w) StoreWrite.content := by
  refine (absorb_saves h hs w).mono fun s' w' hw' => ?_
  obtain ⟨rfl, hw'⟩ := hw'
  rw [hw']
  unfold Session.writeAfter?
  split
  · rfl
  · rfl

theorem conclude_writes (h : a.Reliable content) {used : Option Session}
    (hs : ∀ s, used = some s → SessionStore.CanHold content s) (answer : Answer) (w : σ) :
    After (a.conclude used answer) w fun _ w' =>
      content w' = (used.bind (·.writeAfter? answer)).elim (content w) StoreWrite.content := by
  cases used with
  | none => exact rfl
  | some s => exact (absorb_writes h (hs s rfl) answer w).bind fun _ w' hw' => After.pure_iff.2 hw'

theorem advance_fresh (h : a.Reliable content) (w : σ) :
    After (a.advance now spec .fresh) w fun stage' w' =>
      CallStage.Advanced now .fresh stage' (content w) (content w') := by
  refine (h.store.current now w).bind fun r w' hr => ?_
  obtain ⟨rfl, hw'⟩ := hr
  cases Session.usable? now (content w) with
  | none => exact .of_not_rejected nofun hw' nofun nofun nofun
  | some s =>
    refine After.pure_iff.2 ?_
    split
    · exact .of_not_rejected nofun hw' nofun nofun nofun
    · exact .of_not_rejected nofun hw' nofun nofun nofun

theorem advance_asked (h : a.Reliable content) {s : Session} {outcome : Outcome}
    (hs : (CallStage.asked s outcome).Copied content) (w : σ) :
    After (a.advance now spec (.asked s outcome)) w fun stage' w' =>
      CallStage.Advanced now (.asked s outcome) stage' (content w) (content w') := by
  cases outcome with
  | error e => exact (h.log _ w).bind fun _ w' hw' => .of_not_rejected nofun hw' nofun nofun nofun
  | ok answer =>
    exact (absorb_writes h (hs s rfl) answer w).bind fun s' w' hw' =>
      .of_not_rejected nofun hw' nofun nofun (Session.writeAfter?_ne_cleared s answer)

theorem advance_ready (used : Option Session) (w : σ) :
    After (a.advance now spec (.ready used)) w fun stage' w' =>
      CallStage.Advanced now (.ready used) stage' (content w) (content w') := by
  refine After.pure_iff.2 ?_
  split
  · exact .of_not_rejected nofun rfl nofun nofun nofun
  · split
    · exact .of_not_rejected nofun rfl nofun nofun nofun
    · exact .of_not_rejected nofun rfl nofun nofun nofun

/-- What is made of an answer to the described request depends on its status. -/
theorem settle_result (url : Url) (answer : Answer) (w : σ) :
    After (a.settle url (.ok answer)).run w fun r _ =>
      if answer.status = 401 then r = .error .unauthorized
      else if Status.isAccepted answer.status then r = .ok answer
      else ∃ e, r = .error e ∧ e ≠ .unauthorized := by
  unfold settle
  dsimp only
  split
  · rfl
  · split
    · rfl
    · split
      · exact ⟨_, rfl, nofun⟩
      · exact ⟨_, rfl, nofun⟩

theorem advance_answered (h : a.Reliable content) {used : Option Session} {url : Url}
    {outcome : Outcome} (hs : (CallStage.answered used url outcome).Copied content) (w : σ) :
    After (a.advance now spec (.answered used url outcome)) w fun stage' w' =>
      CallStage.Advanced now (.answered used url outcome) stage' (content w) (content w') := by
  cases outcome with
  | error e => exact .of_not_rejected nofun rfl nofun nofun nofun
  | ok answer =>
    let stage : CallStage := .answered used url (.ok answer)
    have hleaves :
        stage.leaves now (content w) = stage.write?.elim (content w) StoreWrite.content := rfl
    refine ((settle_result url answer w).and (settle_view h.toClearsOnly url (.ok answer) w)).bind
      fun r w' hr => ?_
    obtain ⟨hr, hw'⟩ := hr
    split at hr
    · rename_i h₁
      subst hr
      have hwrite : stage.write? = some .cleared := if_pos h₁
      rw [hwrite] at hleaves
      exact ⟨nofun, hw'.trans hleaves.symm, iff_of_true rfl (.inl hwrite)⟩
    · rename_i h₁
      split at hr
      · rename_i ha
        subst hr
        have hw' : content w' = content w := hw'
        have hwrite : stage.write? = used.bind (·.writeAfter? answer) :=
          (if_neg h₁).trans (if_pos ha)
        have hsaves : stage.write? ≠ some .cleared := by
          rw [hwrite]
          cases used with
          | none => exact nofun
          | some s => exact Session.writeAfter?_ne_cleared s answer
        rw [hwrite] at hleaves
        refine (conclude_writes h hs answer w').bind fun _ w'' hw'' => ?_
        rw [hw'] at hw''
        refine .of_not_rejected nofun (hw''.trans hleaves.symm) (fun hf => ?_) nofun hsaves
        exact answer.payload_ne_unauthorized spec.response (CallStage.finished.inj hf)
      · rename_i ha
        obtain ⟨e, rfl, he⟩ := hr
        have hwrite : stage.write? = none := (if_neg h₁).trans (if_neg ha)
        rw [hwrite] at hleaves
        have hsame : content w' = content w := hw'.trans (unlessRejected_eq (p := False)
          (iff_of_false id fun hf => he (Except.error.inj hf)))
        exact .of_not_rejected nofun (hsame.trans hleaves.symm)
          (fun hf => he (Except.error.inj (CallStage.finished.inj hf))) nofun (hwrite ▸ nofun)

/-- After its next step a request has read the store, the store holds what the stage says, and the
request is rejected if this step has cleared the store. -/
theorem advance_leaves (h : a.Reliable content) {stage : CallStage}
    (hs : stage.Copied content) (w : σ) :
    After (a.advance now spec stage) w fun stage' w' =>
      CallStage.Advanced now stage stage' (content w) (content w') := by
  cases stage with
  | fresh => exact advance_fresh h w
  | lacking s => exact .of_not_rejected nofun rfl nofun nofun nofun
  | asking s =>
    exact (deliver_keeps h.send _ _ w).bind fun outcome w' hw' => .of_not_rejected nofun hw'
      nofun nofun nofun
  | asked s outcome => exact advance_asked h hs w
  | ready used => exact advance_ready used w
  | sent used url request =>
    exact (deliver_keeps h.send _ _ w).bind fun outcome w' hw' => .of_not_rejected nofun hw'
      nofun nofun nofun
  | answered used url outcome => exact advance_answered h hs w
  | finished result => exact ⟨nofun, rfl, ⟨.inr, fun hc => hc.resolve_left nofun⟩⟩

/-- The copy of a request is at first what the store holds, and then that with more cookies. -/
theorem advance_copied (h : a.Reliable content) {stage : CallStage}
    (hs : stage.Copied content) (w : σ) :
    After (a.advance now spec stage) w fun stage' _ => stage'.Copied content := by
  have hany : ∀ {α : Type} (m : StateM σ α), After m w fun _ _ => True := fun _ => trivial
  cases stage with
  | fresh =>
    refine (h.store.current now w).bind fun r w' hr => ?_
    obtain ⟨rfl, -⟩ := hr
    cases hfound : Session.usable? now (content w) with
    | none => exact After.pure_iff.2 fun s hs => nomatch hs
    | some s =>
      have hcan : SessionStore.CanHold content s :=
        .of_held (Session.usable?_eq_some_iff.1 hfound).1
      refine After.pure_iff.2 fun s' hs' => ?_
      split at hs' <;> cases hs' <;> exact hcan
  | lacking s => exact hs
  | asking s => exact (hany _).bind fun _ _ _ => hs
  | asked s outcome =>
    cases outcome with
    | error e => exact (hany _).bind fun _ _ _ => hs
    | ok answer =>
      refine (absorb_saves h (hs s rfl) w).bind fun s' w' hs' => After.pure_iff.2 fun _ heq => ?_
      cases heq
      rw [hs'.1]
      exact (hs s rfl).absorbAll _
  | ready used =>
    refine After.pure_iff.2 fun s hcopy => ?_
    split at hcopy
    · cases hcopy
    · split at hcopy
      · cases hcopy
      · exact hs s hcopy
  | sent used url request => exact (hany _).bind fun _ _ _ => hs
  | answered used url outcome =>
    refine (hany _).bind fun r w' _ => ?_
    cases r with
    | error e => exact After.pure_iff.2 fun s hs => nomatch hs
    | ok answer => exact fun s hs => nomatch hs
  | finished result => exact fun s hs => nomatch hs

/-- With each step fewer are left, whatever the store and the backend do. -/
theorem advance_stepsLeft (stage : CallStage) (w : σ) :
    After (a.advance now spec stage) w fun stage' _ => stage'.stepsLeft ≤ stage.stepsLeft - 1 := by
  have hany : ∀ {α : Type} (m : StateM σ α), After m w fun _ _ => True := fun _ => trivial
  cases stage with
  | fresh =>
    refine (hany _).bind fun r w' _ => ?_
    cases r with
    | error e => exact show 3 ≤ 6 by decide
    | ok found =>
      cases found with
      | none => exact show 3 ≤ 6 by decide
      | some s =>
        refine After.pure_iff.2 ?_
        split
        · exact Nat.le_refl 6
        · exact show 3 ≤ 6 by decide
  | lacking s => exact Nat.le_refl 5
  | asking s => exact Nat.le_refl 4
  | asked s outcome => cases outcome <;> exact Nat.le_refl 3
  | ready used =>
    refine After.pure_iff.2 ?_
    split
    · exact Nat.zero_le 2
    · split
      · exact Nat.zero_le 2
      · exact Nat.le_refl 2
  | sent used url request => exact Nat.le_refl 1
  | answered used url outcome =>
    refine (hany _).bind fun r w' _ => ?_
    cases r <;> exact Nat.le_refl 0
  | finished result => exact Nat.le_refl 0

end Adapter

end SigningConsole
