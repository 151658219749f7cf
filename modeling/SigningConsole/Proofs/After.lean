import SigningConsole.Part
/-!
What holds after a computation on a state.

`After m w Q` says that `Q` holds of the value and of the state with which `m` ends when it starts
from `w`. The rules below take a computation apart step by step, so that what is known of each
operation is used by name. `Keeps view m` says that `m` leaves what `view` shows of the state as it
is. `Alike R m m'` compares the runs of two computations, each on a state of its own, and
`Part.first` and `Part.second` put two states side by side. First come rules for results, which are
values or failures.
-/

namespace SigningConsole

variable {σ τ α β γ ε : Type} {R : σ → τ → Prop}

/-- A result is known by its value. -/
theorem eq_ok_of_toOption {r : Except ε α} {a : α} (h : r.toOption = some a) : r = .ok a := by
  cases r with
  | ok b => exact congrArg Except.ok (Option.some.inj h)
  | error e => cases h

theorem ne_ok_of_toOption {r : Except ε α} (h : r.toOption = none) (a : α) : r ≠ .ok a := by
  rintro rfl
  cases h

theorem exists_of_map_eq_ok {r : Except ε α} {f : α → β} {b : β} (h : r.map f = .ok b) :
    ∃ a, r = .ok a ∧ f a = b := by
  cases r with
  | ok a => exact ⟨a, rfl, Except.ok.inj h⟩
  | error e => cases h

theorem exists_of_bind_eq_ok {r : Except ε α} {k : α → Except ε β} {b : β} (h : r >>= k = .ok b) :
    ∃ a, r = .ok a ∧ k a = .ok b := by
  cases r with
  | ok a => exact ⟨a, rfl, h⟩
  | error e => cases h

theorem exists_of_isOk {r : Except ε α} (h : r.isOk) : ∃ a, r = .ok a := by
  cases r with
  | ok a => exact ⟨a, rfl⟩
  | error e => cases h

theorem error_of_map {r : Except ε α} {f : α → β} {e : ε} (h : r.map f = .error e) :
    r = .error e := by
  cases r with
  | ok a => cases h
  | error e' => exact congrArg Except.error (Except.error.inj h)

/-- `Q` holds of the value and the state with which `m` ends when it starts from `w`. -/
def After (m : StateM σ α) (w : σ) (Q : α → σ → Prop) : Prop := Q (m.run w).1 (m.run w).2

/-- A computation whose first step is known goes on with the next one. -/
theorem run_bind_of_run {m : StateM σ α} {k : α → StateM σ β} {w w' : σ} {a : α}
    (h : m.run w = (a, w')) :
    (m >>= k).run w = (k a).run w' := by
  rw [StateT.run_bind, h]
  rfl

namespace After

variable {m : StateM σ α} {w : σ} {Q R : α → σ → Prop}

theorem of_run_eq {a : α} {w' : σ} (h : After m w Q) (hr : m.run w = (a, w')) : Q a w' := by
  unfold After at h
  rw [hr] at h
  exact h

theorem mono (h : After m w Q) (hqr : ∀ a w', Q a w' → R a w') : After m w R := hqr _ _ h

theorem and (hq : After m w Q) (hr : After m w R) :
    After m w fun a w' => Q a w' ∧ R a w' := ⟨hq, hr⟩

theorem pure_iff {a : α} : After (pure a) w Q ↔ Q a w := Iff.rfl

theorem map_iff {f : α → β} {Q : β → σ → Prop} :
    After (f <$> m) w Q ↔ After m w fun a w' => Q (f a) w' := Iff.rfl

/-- What is known of the first computation is used for the second. -/
theorem bind {k : α → StateM σ β} {S : β → σ → Prop} (hm : After m w Q)
    (hk : ∀ a w', Q a w' → After (k a) w' S) :
    After (m >>= k) w S := hk _ _ hm

/-- The same for a computation that may fail: a failure ends it. -/
theorem bindExcept {m : ExceptT ε (StateM σ) α} {k : α → ExceptT ε (StateM σ) β}
    {Q : Except ε α → σ → Prop} {S : Except ε β → σ → Prop} (hm : After m.run w Q)
    (hok : ∀ a w', Q (.ok a) w' → After (k a).run w' S)
    (herr : ∀ e w', Q (.error e) w' → S (.error e) w') : After (m >>= k).run w S := by
  rw [ExceptT.run_bind]
  refine hm.bind fun r w' hr => ?_
  cases r with
  | ok a => exact hok a w' hr
  | error e => exact herr e w' hr

/-- The same where the first computation cannot fail. -/
theorem bindLift {k : α → ExceptT ε (StateM σ) β} {S : Except ε β → σ → Prop} (hm : After m w Q)
    (hk : ∀ a w', Q a w' → After (k a).run w' S) :
    After ((liftM m : ExceptT ε (StateM σ) α) >>= k).run w S :=
  hk _ _ hm

end After

/-! ## What is left alone -/

/-- The computation leaves what `view` shows of the state as it is. -/
def Keeps (view : σ → β) (m : StateM σ α) : Prop := ∀ w, After m w fun _ w' => view w' = view w

namespace Keeps

variable {view : σ → β} {m : StateM σ α}

theorem pure (a : α) : Keeps view (pure a : StateM σ α) := fun _ => rfl

theorem bindExcept {m : ExceptT ε (StateM σ) α} {k : α → ExceptT ε (StateM σ) γ}
    (hm : Keeps view m.run) (hk : ∀ a, Keeps view (k a).run) : Keeps view (m >>= k).run :=
  fun w => (hm w).bindExcept (fun a w' h => (hk a w').mono fun _ _ h' => h'.trans h) fun _ _ h => h

theorem bindLift {k : α → ExceptT ε (StateM σ) γ} (hm : Keeps view m)
    (hk : ∀ a, Keeps view (k a).run) :
    Keeps view ((liftM m : ExceptT ε (StateM σ) α) >>= k).run :=
  fun w => (hm w).bindLift fun a w' h => (hk a w').mono fun _ _ h' => h'.trans h

end Keeps

/-! ## Two runs -/

/-- From related states, the two computations give the same result and end in related states. -/
def Alike (R : σ → τ → Prop) (m : StateM σ α) (m' : StateM τ α) : Prop :=
  ∀ w u, R w u → (m.run w).1 = (m'.run u).1 ∧ R (m.run w).2 (m'.run u).2

namespace Alike

theorem pure (a : α) : Alike R (pure a) (pure a) := fun _ _ h => ⟨rfl, h⟩

theorem bind {m : StateM σ α} {m' : StateM τ α} {k : α → StateM σ β} {k' : α → StateM τ β}
    (hm : Alike R m m') (hk : ∀ a, Alike R (k a) (k' a)) : Alike R (m >>= k) (m' >>= k') := by
  intro w u h
  obtain ⟨hr, h'⟩ := hm w u h
  have hnext := hk (m.run w).1 _ _ h'
  show ((k (m.run w).1).run (m.run w).2).1 = ((k' (m'.run u).1).run (m'.run u).2).1 ∧
    R ((k (m.run w).1).run (m.run w).2).2 ((k' (m'.run u).1).run (m'.run u).2).2
  rw [← hr]
  exact hnext

/-- The same for computations that may fail. -/
theorem bindExcept {m : ExceptT ε (StateM σ) α} {m' : ExceptT ε (StateM τ) α}
    {k : α → ExceptT ε (StateM σ) β} {k' : α → ExceptT ε (StateM τ) β} (hm : Alike R m.run m'.run)
    (hk : ∀ a, Alike R (k a).run (k' a).run) :
    Alike R (m >>= k).run (m' >>= k').run := by
  rw [ExceptT.run_bind, ExceptT.run_bind]
  refine hm.bind fun r => ?_
  cases r with
  | ok a => exact hk a
  | error e => exact pure _

end Alike

/-! ## States side by side -/

namespace Part

/-- The first of two states. -/
def first : Part (σ × τ) σ :=
  ⟨Prod.fst, fun u w => (u, w.2), fun _ _ => rfl, fun _ => rfl, fun _ _ _ => rfl⟩

/-- The second of two states. -/
def second : Part (σ × τ) τ :=
  ⟨Prod.snd, fun u w => (w.1, u), fun _ _ => rfl, fun _ => rfl, fun _ _ _ => rfl⟩

theorem after_run (p : Part σ τ) {m : StateM τ α} {w : σ} {Q : α → σ → Prop} :
    After (p.run m) w Q ↔ After m (p.get w) fun a u => Q a (p.set u w) := Iff.rfl

/-- What is done to a part is not seen from elsewhere. -/
theorem keeps_run {view : σ → β} {p : Part σ τ} (hp : ∀ t w, view (p.set t w) = view w)
    (m : StateM τ α) :
    Keeps view (p.run m) := fun _ => hp _ _

end Part

end SigningConsole
