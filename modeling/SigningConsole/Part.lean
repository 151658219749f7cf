/-!
Parts of a state: reading a part, replacing it, and running on the whole what is
written for the part.
-/

namespace SigningConsole

/-- A part `τ` of a state `σ`. -/
structure Part (σ τ : Type) where
  get : σ → τ
  set : τ → σ → σ
  get_set : ∀ t s, get (set t s) = t
  set_get : ∀ s, set (get s) s = s
  set_set : ∀ t u s, set t (set u s) = set t s

namespace Part

variable {σ τ υ α : Type}

/-- The whole as a part of itself. -/
def whole : Part σ σ := ⟨id, fun t _ => t, fun _ _ => rfl, fun _ => rfl, fun _ _ _ => rfl⟩

/-- A part of a part. -/
def within (inner : Part τ υ) (outer : Part σ τ) : Part σ υ where
  get s := inner.get (outer.get s)
  set u s := outer.set (inner.set u (outer.get s)) s
  get_set u s := by rw [outer.get_set, inner.get_set]
  set_get s := by rw [inner.set_get, outer.set_get]
  set_set u v s := by rw [outer.get_set, inner.set_set, outer.set_set]

/-- Runs on the whole what is written for the part. -/
def run (p : Part σ τ) (m : StateM τ α) : StateM σ α := fun s =>
  let (a, t) := m (p.get s)
  (a, p.set t s)

/-- Changes the part. -/
def modify (p : Part σ τ) (f : τ → τ) : StateM σ Unit := fun s => ((), p.set (f (p.get s)) s)

end Part

end SigningConsole
