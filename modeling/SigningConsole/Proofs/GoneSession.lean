import SigningConsole.Proofs.CodeExchange
import SigningConsole.Proofs.FileStore
/-!
A session that was rejected stays away over later calls.

`gone` says that nothing is stored. A store buries what is gone (`SessionStore.Buries`) if loading
gives no session then and clearing always comes to it. A call that finds nothing sends its request
without a session, so it has none into which it could take the cookies of the answer: that is why it
saves nothing. `Final` says of two states that the session is gone in the second one if anything was
rejected in between, and `Lasting` that it also stays gone if it was before.
-/

namespace SigningConsole

open Calendar

variable {σ τ α : Type}

/-! ## Stores without a session -/

namespace SessionStore

/-- Loading gives nothing of what is gone, and clearing leaves nothing, even where it fails. -/
structure Buries (store : SessionStore σ) (gone : σ → Prop) : Prop where
  load : ∀ {w}, gone w → After store.load.run w fun r w' => gone w' ∧ ∀ s, r ≠ .ok (some s)
  clear : ∀ w, After store.clear.run w fun _ w' => gone w'

theorem Buries.current {store : SessionStore σ} {gone : σ → Prop} (h : store.Buries gone)
    (now : Instant) {w : σ} (hw : gone w) :
    After (store.current now).run w fun r w' => gone w' ∧ ∀ s, r ≠ .ok (some s) := by
  unfold SessionStore.current
  refine (h.load hw).bindExcept (fun c w' hc => ?_) fun e w' he => ⟨he.1, fun s hs => ?_⟩
  · obtain ⟨hw', hnone⟩ := hc
    cases c with
    | none =>
      refine ⟨hw', fun s hs => ?_⟩
      cases hs
    | some s => exact absurd rfl (hnone s)
  · cases hs

/-- What is gone from a part is gone from the whole. -/
theorem Buries.onPart {store : SessionStore τ} {gone : τ → Prop} (h : store.Buries gone)
    (p : Part σ τ) :
    (store.onPart p).Buries fun w => gone (p.get w) where
  load := by
    intro w hw
    refine p.after_run.2 ((h.load hw).mono fun r u hr => ?_)
    rw [p.get_set]
    exact hr
  clear := by
    intro w
    refine p.after_run.2 ((h.clear (p.get w)).mono fun r u hu => ?_)
    rw [p.get_set]
    exact hu

/-- The store in a file buries what it holds: what cannot be taken away is no file. -/
theorem file_buries (path : String) : (file path).Buries (NoFile path) where
  load := by
    intro files hgone
    have hheld := held_of_noFile hgone
    have hstate := load_state path files
    unfold After
    rw [hstate]
    refine ⟨hgone, fun s hs => ?_⟩
    unfold held at hheld
    rw [hs] at hheld
    cases hheld
  clear := by
    intro files
    unfold After
    cases hr : files.remove path with
    | ok files' =>
      rw [clear_run hr]
      exact noFile_of_removed hr
    | error e =>
      rw [clear_run_of_error hr]
      exact noFile_of_not_removed hr

end SessionStore

/-! ## Rejections that are final -/

/-- The session is gone if anything was rejected between the two states. -/
def Final (gone : σ → Prop) (deeds : σ → Deeds) (w w' : σ) : Prop :=
  ∃ sent, (deeds w').exchanges = (deeds w).exchanges ++ sent ∧ ((∃ x ∈ sent, x.Rejects) → gone w')

/-- Beside that, a session that was gone before is gone now. -/
def Lasting (gone : σ → Prop) (deeds : σ → Deeds) (w w' : σ) : Prop :=
  Final gone deeds w w' ∧ (gone w → gone w')

section Relations

variable {gone : σ → Prop} {deeds : σ → Deeds} {w w' w'' : σ}

/-- Without a rejection nothing need be gone. -/
theorem Accepted.final (h : Accepted deeds w w') : Final gone deeds w w' := by
  obtain ⟨sent, hsent, hno⟩ := h
  refine ⟨sent, hsent, ?_⟩
  rintro ⟨x, hx, hrejects⟩
  exact absurd hrejects (hno x hx)

/-- Something may go before without a rejection, whatever it stores. -/
theorem Accepted.trans_final (h : Accepted deeds w w') (h' : Final gone deeds w' w'') :
    Final gone deeds w w'' := by
  obtain ⟨sent, hsent, hno⟩ := h
  obtain ⟨sent', hsent', hgone⟩ := h'
  refine ⟨sent ++ sent', ?_, ?_⟩
  · rw [hsent', hsent, List.append_assoc]
  · rintro ⟨x, hx, hrejects⟩
    obtain hx | hx := List.mem_append.1 hx
    · exact absurd hrejects (hno x hx)
    · exact hgone ⟨x, hx, hrejects⟩

theorem Final.trans_lasting (h : Final gone deeds w w') (h' : Lasting gone deeds w' w'') :
    Final gone deeds w w'' := by
  obtain ⟨sent, hsent, hgone⟩ := h
  obtain ⟨⟨sent', hsent', hgone'⟩, hstays⟩ := h'
  refine ⟨sent ++ sent', ?_, ?_⟩
  · rw [hsent', hsent, List.append_assoc]
  · rintro ⟨x, hx, hrejects⟩
    obtain hx | hx := List.mem_append.1 hx
    · exact hstays (hgone ⟨x, hx, hrejects⟩)
    · exact hgone' ⟨x, hx, hrejects⟩

theorem Lasting.of_eq (hd : deeds w' = deeds w) (hgone : gone w → gone w') :
    Lasting gone deeds w w' :=
  ⟨(Accepted.of_eq hd).final, hgone⟩

theorem Lasting.refl (w : σ) : Lasting gone deeds w w := .of_eq rfl id

theorem Lasting.trans (h : Lasting gone deeds w w') (h' : Lasting gone deeds w' w'') :
    Lasting gone deeds w w'' :=
  ⟨h.1.trans_lasting h', fun hw => h'.2 (h.2 hw)⟩

end Relations

/-! ## Calls -/

/-- The adapter stores sessions by its store alone, which buries what is gone. -/
structure Adapter.Buries (a : Adapter σ) (gone : σ → Prop) :
    Prop extends a.ClearsOnly gone fun _ => True where
  store : a.store.Buries gone

namespace Adapter

variable {a : Adapter σ} {gone : σ → Prop} {deeds : σ → Deeds} {w : σ}

/-- A call finds no session once it is gone. -/
theorem session?_gone (h : a.Buries gone) (now : Instant) (hw : gone w) :
    After (a.session? now) w fun used w' => used = none ∧ gone w' := by
  unfold session?
  refine (h.store.current now hw).bind fun r w' hr => ?_
  obtain ⟨hw', hnone⟩ := hr
  cases r with
  | error e =>
    refine (h.log _ w').bind fun _ w'' hk => After.pure_iff.2 ⟨rfl, ?_⟩
    exact (congrArg id hk).mpr hw'
  | ok c =>
    cases c with
    | none => exact ⟨rfl, hw'⟩
    | some s => exact absurd rfl (hnone s)

/-- A rejection by the described request is final, and one that is taken was no rejection. -/
theorem perform_lasting (h : a.Buries gone) (hd : a.Does deeds) (s : Option Session)
    (spec : CallPlan) (w : σ) :
    After (a.perform s spec).run w fun r w' =>
      Lasting gone deeds w w' ∧ ∀ answer, r = .ok answer → Accepted deeds w w' ∧
        gone w' = gone w := by
  refine ((perform_view h.toClearsOnly s spec w).and (perform_deeds hd s spec w)).mono
    fun r w' hw' => ?_
  obtain ⟨hgone, hperf⟩ := hw'
  obtain ⟨described, hsent, -, hiff, -⟩ := hperf.described
  refine ⟨⟨⟨described.toList, hsent, ?_⟩, ?_⟩, fun answer hok =>
    ⟨⟨described.toList, hsent, ?_⟩, ?_⟩⟩
  · rintro ⟨x, hx, hrejects⟩
    have hr : r = .error .unauthorized := hiff.1 ⟨x, hx, hrejects.2⟩
    rw [hr] at hgone
    exact of_eq_true hgone
  · intro hw
    rw [hgone]
    unfold unlessRejected
    split
    · trivial
    · exact hw
  · intro x hx hrejects
    have hr : r = .error .unauthorized := hiff.1 ⟨x, hx, hrejects.2⟩
    cases hok.symm.trans hr
  · rw [hok] at hgone
    exact hgone

/-- A call that finds nothing has no session into which it could take the cookies of the answer. -/
theorem request_lasting (h : a.Buries gone) (hd : a.Does deeds) (now : Instant)
    (spec : CallPlan) (w : σ) :
    After (a.request now spec).run w fun r w' =>
      Lasting gone deeds w w' ∧ ∀ payload, r = .ok payload → Accepted deeds w w' := by
  have hfind : After (a.session? now) w fun used w' =>
      (gone w → used = none ∧ gone w') ∧ Accepted deeds w w' := by
    have hgone : After (a.session? now) w fun used w' => gone w → used = none ∧ gone w' :=
      session?_gone h now
    refine (hgone.and (session?_deeds hd now w)).mono fun used w' hw' => ?_
    obtain ⟨hnone, primed, hd', hp⟩ := hw'
    refine ⟨hnone, primed.toList, congrArg Deeds.exchanges hd', fun x hx hrejects => ?_⟩
    cases (hp.purpose x hx).symm.trans hrejects.1
  unfold request
  refine hfind.bindLift fun used w₁ hw₁ => ?_
  obtain ⟨hnone, hprimed⟩ := hw₁
  refine (perform_lasting h hd used spec w₁).bindExcept (fun answer w₂ hw₂ => ?_) fun e w₂ hw₂ => ?_
  · obtain ⟨-, hok⟩ := hw₂
    obtain ⟨haccepted, hsame⟩ := hok answer rfl
    have hconclude : After (a.conclude used answer) w₂ fun _ w₃ => deeds w₃ = deeds w₂ ∧
        (gone w → gone w₃) := by
      have hstays : After (a.conclude used answer) w₂ fun _ w₃ => gone w → gone w₃ := by
        intro hw
        obtain ⟨rfl, hw₁⟩ := hnone hw
        exact hsame.mpr hw₁
      exact (conclude_deeds hd used answer w₂).and hstays
    refine hconclude.bindLift fun _ w₃ hw₃ => After.pure_iff.2 ?_
    obtain ⟨hd₃, hstays⟩ := hw₃
    have hall : Accepted deeds w w₃ := (hprimed.trans haccepted).trans (.of_eq hd₃)
    exact ⟨⟨hall.final, hstays⟩, fun _ _ => hall⟩
  · obtain ⟨⟨hfinal, hstays⟩, -⟩ := hw₂
    refine ⟨⟨hprimed.trans_final hfinal, fun hw => hstays (hnone hw).2⟩, fun payload hok => ?_⟩
    cases hok

/-- What is read of the answer changes nothing. -/
theorem json_lasting (h : a.Buries gone) (hd : a.Does deeds) (now : Instant) (d : Json.Decoder α)
    (spec : CallPlan) (w : σ) : After (a.json now d spec).run w fun r w' =>
      Lasting gone deeds w w' ∧ ∀ v, r = .ok v → Accepted deeds w w' := by
  unfold json
  refine (request_lasting h hd now spec w).bindExcept (fun payload w' hw' => ?_) fun e w' hw' => ?_
  · exact After.pure_iff.2 ⟨hw'.1, fun _ _ => hw'.2 payload rfl⟩
  · refine ⟨hw'.1, fun v hv => ?_⟩
    cases hv

theorem exchange_lasting (h : a.Buries gone) (hd : a.Does deeds) (spec : CallPlan) (w : σ) :
    After (a.exchange spec).run w fun r w' =>
      Lasting gone deeds w w' ∧ ∀ grant, r = .ok grant → Accepted deeds w w' := by
  refine (exchange_spec h.toClearsOnly hd spec w).mono fun r w' hw' => ?_
  obtain ⟨described, hreport, hgone, hgrant⟩ := hw'
  have hrejects : (∃ x ∈ described.toList, x.Rejects) → described.bind (·.status?) = some 401 := by
    rintro ⟨x, hx, -, h₁⟩
    rw [Option.mem_toList.1 hx]
    exact h₁
  refine ⟨⟨⟨described.toList, hreport.exchanges, fun hx => ?_⟩, fun hw => ?_⟩, fun grant hg => ?_⟩
  · rw [if_pos (hrejects hx)] at hgone
    exact of_eq_true hgone
  · rw [hgone]
    split
    · trivial
    · exact hw
  · refine ⟨described.toList, hreport.exchanges, fun x hx hr => ?_⟩
    exact (hgrant grant hg).1 (hrejects ⟨x, hx, hr⟩)

end Adapter

end SigningConsole
