import SigningConsole.Proofs.TakenCookies
/-!
Rejections, what they do to the store, and that nothing else of a described request
does anything to it.

`Adapter.ClearsOnly a view cleared` says of what `view` shows of the state that clearing the store
changes it by `cleared`, and that the rest of the adapter leaves it alone. Then a described request
changes it when the answer is a rejection, and only then. The view may be the session that a
reliable store holds, the whole state of a store, or just whether there is a file.
-/

namespace SigningConsole

variable {σ α β : Type}

/-! ## Rejections -/

/-- The answer is a rejection. -/
def Exchange.Rejects (x : Exchange) : Prop := x.purpose = .described ∧ x.status? = some 401

/-- Between two states something was sent, and no answer was a rejection. -/
def Accepted (deeds : σ → Deeds) (w w' : σ) : Prop :=
  ∃ sent, (deeds w').exchanges = (deeds w).exchanges ++ sent ∧ ∀ x ∈ sent, ¬ x.Rejects

theorem Accepted.of_eq {deeds : σ → Deeds} {w w' : σ} (h : deeds w' = deeds w) :
    Accepted deeds w w' := by
  refine ⟨[], ?_, fun x hx => absurd hx List.not_mem_nil⟩
  rw [h, List.append_nil]

theorem Accepted.trans {deeds : σ → Deeds} {w w' w'' : σ} (h : Accepted deeds w w')
    (h' : Accepted deeds w' w'') :
    Accepted deeds w w'' := by
  obtain ⟨sent, hsent, ha⟩ := h
  obtain ⟨sent', hsent', ha'⟩ := h'
  refine ⟨sent ++ sent', ?_, fun x hx => ?_⟩
  · rw [hsent', hsent, List.append_assoc]
  · exact (List.mem_append.1 hx).elim (ha x) (ha' x)

/-! ## What a rejection does -/

/-- Clearing the store changes what `view` shows of the state; what else the adapter
does leaves it alone. -/
structure Adapter.ClearsOnly (a : Adapter σ) (view : σ → β) (cleared : β → β) : Prop where
  clear : ∀ w, After a.store.clear.run w fun _ w' => view w' = cleared (view w)
  send : ∀ purpose request, Keeps view (a.send purpose request)
  redirect : Keeps view a.redirect
  notify : ∀ message, Keeps view (a.notify message)
  log : ∀ entry, Keeps view (a.log entry)

/-- What is shown after a request, by what came of it. -/
def unlessRejected (cleared : β → β) (v : β) : Except BackendError α → β
  | .error .unauthorized => cleared v
  | _ => v

theorem unlessRejected_id (v : β) (r : Except BackendError α) : unlessRejected id v r = v := by
  unfold unlessRejected
  split <;> rfl

theorem unlessRejected_eq {cleared : β → β} {v : β} {result : Except BackendError α}
    {p : Prop} [Decidable p] (h : p ↔ result = .error .unauthorized) :
    unlessRejected cleared v result = if p then cleared v else v := by
  by_cases hp : p
  · rw [if_pos hp, h.1 hp]
    rfl
  · rw [if_neg hp]
    unfold unlessRejected
    split
    · exact absurd (h.2 rfl) hp
    · rfl

/-- Two accounts of what was sent after the same requests agree. -/
theorem Deeds.sent_unique {before after : List Exchange} {x y : Option Exchange}
    (hx : after = before ++ x.toList) (hy : after = before ++ y.toList) : x = y := by
  have h : x.toList = y.toList := List.append_cancel_left (hx.symm.trans hy)
  simpa using congrArg List.head? h

/-- A described request is rejected just when its answer has the status 401. -/
theorem Performed.unauthorized_iff {base : Url} {s : Option Session} {spec : CallPlan}
    {d d' : Deeds} {result : Except BackendError Answer} (h : Performed base s spec .ok d d' result)
    {described : Option Exchange} (hsent : d'.exchanges = d.exchanges ++ described.toList) :
    described.bind (·.status?) = some 401 ↔ result = .error .unauthorized := by
  obtain ⟨x, hx, -, hiff, -⟩ := h.described
  cases Deeds.sent_unique hsent hx
  rw [← hiff]
  simp [Option.bind_eq_some_iff]

namespace Adapter

variable {a : Adapter σ} {view : σ → β} {cleared : β → β}

theorem reject_view (h : a.ClearsOnly view cleared) (url : Url) (w : σ) :
    After (a.reject url) w fun _ w' => view w' = cleared (view w) := by
  unfold reject
  refine (h.log _ w).bind fun _ w₁ h₁ => (h.clear w₁).bind fun r w₂ h₂ => ?_
  have h₂ : view w₂ = cleared (view w) := h₂.trans (congrArg cleared h₁)
  cases r with
  | ok _ => exact (h.redirect w₂).mono fun _ w₃ h₃ => Eq.trans h₃ h₂
  | error e =>
    exact (h.log _ w₂).bind fun _ w₃ h₃ => (h.redirect w₃).mono
      fun _ w₄ h₄ => Eq.trans h₄ (Eq.trans h₃ h₂)

theorem settle_view (h : a.ClearsOnly view cleared) (url : Url) (outcome : Outcome) (w : σ) :
    After (a.settle url outcome).run w fun r w' => view w' = unlessRejected cleared (view w) r := by
  unfold settle
  cases outcome with
  | error e => exact rfl
  | ok answer =>
    dsimp only
    split
    · exact (reject_view h url w).bindLift fun _ w' hw' => After.pure_iff.2 hw'
    · split
      · exact rfl
      · split
        · exact (h.notify _ w).bindLift fun _ w' hk => After.pure_iff.2 hk
        · exact rfl

/-- Only a rejection of the described request changes what is shown. -/
theorem perform_view (h : a.ClearsOnly view cleared) (s : Option Session)
    (spec : CallPlan) (w : σ) :
    After (a.perform s spec).run w fun r w' => view w' = unlessRejected cleared (view w) r := by
  unfold perform
  cases CallPlan.resolve a.base spec.path with
  | error e => exact rfl
  | ok url =>
    dsimp only
    cases spec.request url ((s.map Session.headers).getD []) with
    | error e => exact rfl
    | ok request =>
      refine (deliver_keeps h.send _ _ w).bindLift fun outcome w' hk => ?_
      have hk : view w' = view w := hk
      rw [← hk]
      exact settle_view h url outcome w'

end Adapter

end SigningConsole
