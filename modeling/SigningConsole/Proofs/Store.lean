import SigningConsole.Proofs.After
import SigningConsole.Proofs.InstantSums
import SigningConsole.Session.Store
/-!
Stores that do what they say.

`SessionStore.Lawful store content` says what the operations of a store do to the session that
`content` finds in the state: they give it, replace it or take it away, and an operation that fails
leaves it as it was. Nothing is said of when an operation fails, nor of a session that the store
cannot keep because the text of its expiry is that of another instant (`SessionStore.CanHold`);
whatever is stamped by a clock can be kept. The store in memory is lawful, and so is a lawful store
on a larger state (`Lawful.onPart`), and one whose operations fail at will (`Lawful.unreliable`).

`SessionStore.Lawful.current` is what reading the usable session comes to, with the session taken
away when its time is over. A store is reliable if it is lawful and never fails.
-/

namespace SigningConsole

open Calendar

variable {σ τ α β : Type}

/-- The session that is still usable at a time. -/
def Session.usable? (now : Instant) (c : Option Session) : Option Session :=
  c.filter fun s => !s.isExpired now

theorem Session.usable?_expired {now : Instant} {s : Session} (h : s.isExpired now) :
    usable? now (some s) = none := by
  unfold usable?
  simp [h]

theorem Session.usable?_live {now : Instant} {s : Session} (h : ¬ s.isExpired now) :
    usable? now (some s) = some s := by
  unfold usable?
  simp [h]

theorem Session.usable?_eq_some_iff {now : Instant} {c : Option Session} {s : Session} :
    usable? now c = some s ↔ c = some s ∧ ¬ s.isExpired now := by
  unfold usable?
  rw [Option.filter_eq_some_iff, Bool.not_eq_true', Bool.not_eq_true]

theorem Session.usable?_isSome_iff {now : Instant} {s : Session} :
    (usable? now (some s)).isSome ↔ ¬ s.isExpired now := by
  by_cases h : s.isExpired now
  · rw [usable?_expired h]
    exact iff_of_false (fun hn => by cases hn) fun hn => hn h
  · rw [usable?_live h]
    exact iff_of_true rfl h

/-- The session's expiry, if it has one, is an instant that a text names. -/
def Session.Writable (s : Session) : Prop := ∀ stop, s.expiresAt = some stop → stop.Regular

/-- What a clock stamps can be written. -/
theorem Session.writable_of_stamp {given s : Session} {policy : SessionLifetime} {now : ClockTime}
    (h : given.stamp? policy now.toInstant = some s) : s.Writable := by
  intro stop hstop
  cases policy with
  | untilCleared =>
    cases h
    cases hstop
  | maxAge nanos =>
    obtain ⟨sum, hsum, rfl⟩ := Option.map_eq_some_iff.1 h
    cases hstop
    exact now.regular.addNanos? hsum

/-- Cookies leave the expiry as it is. -/
theorem Session.expiresAt_absorbAll (s : Session) (raws : List String) :
    (s.absorbAll raws).1.expiresAt = s.expiresAt := by
  have habsorb : ∀ (s : Session) (raw : String), (s.absorb raw).1.expiresAt = s.expiresAt := by
    intro s raw
    unfold absorb
    cases s.kind <;> rfl
  induction raws generalizing s with
  | nil => rfl
  | cons raw raws ih => exact (ih _).trans (habsorb s raw)

/-- An operation of a store comes to `done` of the content before it, its result and the content
after it, or it fails and leaves the content as it was. -/
def Settles (content : σ → Option Session) (m : StoreM σ α)
    (done : Option Session → α → Option Session → Prop) : Prop :=
  ∀ w, After m.run w fun r w' =>
    match r with
    | .ok a => done (content w) a (content w')
    | .error _ => content w' = content w

namespace Settles

variable {content : σ → Option Session} {m : StoreM σ α}
  {done : Option Session → α → Option Session → Prop}

/-- Anything may be done first that leaves the content as it is. -/
theorem after {k : α → StoreM σ β} {done' : Option Session → β → Option Session → Prop}
    (hm : Settles content m fun c _ c' => c' = c) (hk : ∀ a, Settles content (k a) done') :
    Settles content (m >>= k) done' := by
  intro w
  refine (hm w).bindExcept (fun a w' h => ?_) fun e w' h => h
  have hk' := hk a w'
  rw [show content w' = content w from h] at hk'
  exact hk'

/-- What is done to a part is done to the whole. -/
theorem onPart {content : τ → Option Session} {m : StoreM τ α} (hm : Settles content m done)
    (p : Part σ τ) :
    Settles (fun w => content (p.get w)) (ExceptT.mk (p.run m.run)) done := by
  intro w
  refine p.after_run.2 ((hm (p.get w)).mono fun r u hr => ?_)
  simp only [p.get_set]
  exact hr

theorem of_keeps (h : Keeps content m.run) : Settles content m fun c _ c' => c' = c := by
  refine fun w => (h w).mono fun r w' hw' => ?_
  cases r with
  | ok a => exact hw'
  | error e => exact hw'

end Settles

/-- The operation never fails. -/
def Succeeds (m : StoreM σ α) : Prop := ∀ w, After m.run w fun r _ => ∃ a, r = .ok a

namespace Succeeds

theorem pure (a : α) : Succeeds (pure a : StoreM σ α) := fun _ => ⟨a, rfl⟩

theorem bind {m : StoreM σ α} {k : α → StoreM σ β} (hm : Succeeds m) (hk : ∀ a, Succeeds (k a)) :
    Succeeds (m >>= k) := by
  intro w
  refine (hm w).bindExcept (fun a w' _ => hk a w') fun e w' h => ?_
  obtain ⟨a, ha⟩ := h
  cases ha

/-- What never fails on a part does not fail on the whole. -/
theorem onPart {m : StoreM τ α} (hm : Succeeds m) (p : Part σ τ) :
    Succeeds (ExceptT.mk (p.run m.run)) :=
  fun w => p.after_run.2 (hm (p.get w))

end Succeeds

namespace SessionStore

/-- The session can be held: it ends when one ends that is held in some state, or its
expiry can be written. -/
def CanHold (content : σ → Option Session) (s : Session) : Prop :=
  s.Writable ∨ ∃ w held, content w = some held ∧ s.expiresAt = held.expiresAt

/-- The store keeps the session that `content` finds in the state. -/
structure Lawful (store : SessionStore σ) (content : σ → Option Session) : Prop where
  load : Settles content store.load fun c s c' => s = c ∧ c' = c
  save : ∀ s, CanHold content s → Settles content (store.save s) fun _ _ c' => c' = some s
  clear : Settles content store.clear fun _ _ c' => c' = none

/-- Reading the usable session gives what is still usable of the content, and leaves no more than
that. -/
theorem Lawful.current {store : SessionStore σ} {content : σ → Option Session}
    (h : store.Lawful content) (now : Instant) :
    Settles content (store.current now) fun c s c' => s = Session.usable? now c ∧ c' = s := by
  intro w
  unfold SessionStore.current
  refine (h.load w).bindExcept (fun s w' hs => ?_) fun e w' he => he
  obtain ⟨rfl, hw'⟩ := hs
  rw [← hw']
  cases hc : content w' with
  | none => exact ⟨rfl, hc⟩
  | some s =>
    by_cases hx : s.isExpired now
    · simp only [hx, if_true]
      refine (h.clear w').bindExcept (fun _ w'' hw'' => ?_) fun e w'' he => he.trans hc
      exact ⟨(Session.usable?_expired hx).symm, hw''⟩
    · simp only [hx, Bool.false_eq_true, if_false]
      exact ⟨(Session.usable?_live hx).symm, hc⟩

/-- A session that is held can be read. -/
def Readable (store : SessionStore σ) (content : σ → Option Session) : Prop :=
  ∀ w s, content w = some s → After store.load.run w fun r _ => r = .ok (some s)

theorem Readable.current {store : SessionStore σ} {content : σ → Option Session}
    (h : store.Readable content) {now : Instant} {w : σ} {s : Session} (hs : content w = some s)
    (hx : ¬ s.isExpired now) :
    After (store.current now).run w fun r _ => r = .ok (some s) := by
  unfold SessionStore.current
  refine (h w s hs).bindExcept (fun c w' hc => ?_) fun e w' he => ?_
  · cases hc
    simp only [hx, Bool.false_eq_true, if_false]
    exact rfl
  · cases he

/-- Clearing leaves nothing, even where it fails. -/
def Empties (store : SessionStore σ) (content : σ → Option Session) : Prop :=
  ∀ w, After store.clear.run w fun _ w' => content w' = none

theorem Lawful.empties {store : SessionStore σ} {content : σ → Option Session}
    (h : store.Lawful content) (hc : Succeeds store.clear) : store.Empties content := by
  intro w
  refine ((h.clear w).and (hc w)).mono fun r w' hr => ?_
  obtain ⟨hnone, _, rfl⟩ := hr
  exact hnone

/-! ## Stores that never fail -/

/-- The store keeps the session, and none of its operations fails. -/
structure Reliable (store : SessionStore σ) (content : σ → Option Session) :
    Prop extends Lawful store content where
  loads : Succeeds store.load
  saves : ∀ s, Succeeds (store.save s)
  clears : Succeeds store.clear

/-- Reading the usable session gives what is still usable, and leaves just that. -/
theorem Reliable.current {store : SessionStore σ} {content : σ → Option Session}
    (h : store.Reliable content) (now : Instant) (w : σ) :
    After (store.current now).run w fun r w' =>
      r = .ok (Session.usable? now (content w)) ∧ content w' = Session.usable? now (content w) := by
  have hok : Succeeds (store.current now) := by
    unfold SessionStore.current
    refine h.loads.bind fun c => ?_
    cases c with
    | none => exact .pure none
    | some s =>
      by_cases hx : s.isExpired now
      · simp only [hx, if_true]
        exact h.clears.bind fun _ => .pure none
      · simp only [hx, Bool.false_eq_true, if_false]
        exact .pure (some s)
  refine ((h.toLawful.current now w).and (hok w)).mono fun r w' hr => ?_
  obtain ⟨hr, s, rfl⟩ := hr
  obtain ⟨rfl, hw'⟩ := hr
  exact ⟨rfl, hw'⟩

/-! ## What the store leaves alone -/

/-- The operations of the store leave what `view` shows of the state as it is. -/
structure Quiet (store : SessionStore σ) (view : σ → β) : Prop where
  load : Keeps view store.load.run
  save : ∀ s, Keeps view (store.save s).run
  clear : Keeps view store.clear.run

theorem Quiet.current {store : SessionStore σ} {view : σ → β} (h : store.Quiet view)
    (now : Instant) :
    Keeps view (store.current now).run := by
  unfold SessionStore.current
  refine h.load.bindExcept fun c => ?_
  cases c with
  | none => exact fun _ => rfl
  | some s =>
    by_cases hx : s.isExpired now
    · simp only [hx, if_true]
      exact h.clear.bindExcept fun _ _ => rfl
    · simp only [hx, Bool.false_eq_true, if_false]
      exact fun _ => rfl

/-- A store on a part is not seen from elsewhere. -/
theorem onPart_quiet (store : SessionStore τ) {view : σ → β} {p : Part σ τ}
    (hp : ∀ t w, view (p.set t w) = view w) : (store.onPart p).Quiet view :=
  ⟨Part.keeps_run hp _, fun _ => Part.keeps_run hp _, Part.keeps_run hp _⟩

/-! ## Lawful stores -/

theorem memory_lawful : memory.Lawful id := ⟨fun _ => ⟨rfl, rfl⟩, fun _ _ _ => rfl, fun _ => rfl⟩

theorem memory_reliable : memory.Reliable id :=
  ⟨memory_lawful, fun w => ⟨w, rfl⟩, fun _ _ => ⟨(), rfl⟩, fun _ => ⟨(), rfl⟩⟩

/-- What a part of the state can hold, found through the whole. -/
theorem CanHold.of_comp {content : τ → Option Session} {part : σ → τ} {s : Session}
    (h : CanHold (fun w => content (part w)) s) : CanHold content s := by
  obtain hs | ⟨w, held, hw, hs⟩ := h
  · exact .inl hs
  · exact .inr ⟨part w, held, hw, hs⟩

/-- What is held can be held. -/
theorem CanHold.of_held {content : σ → Option Session} {w : σ} {s : Session}
    (hs : content w = some s) :
    CanHold content s :=
  .inr ⟨w, s, hs, rfl⟩

/-- Cookies make no session one that cannot be held. -/
theorem CanHold.absorbAll {content : σ → Option Session} {s : Session} (hs : CanHold content s)
    (raws : List String) :
    CanHold content (s.absorbAll raws).1 := by
  unfold CanHold Session.Writable
  rw [s.expiresAt_absorbAll raws]
  exact hs

/-- A lawful store is lawful on a larger state. -/
theorem Lawful.onPart {store : SessionStore τ} {content : τ → Option Session}
    (h : store.Lawful content) (p : Part σ τ) :
    (store.onPart p).Lawful fun w => content (p.get w) :=
  ⟨h.load.onPart p, fun s hs => (h.save s hs.of_comp).onPart p, h.clear.onPart p⟩

/-- A reliable store is reliable on a larger state. -/
theorem Reliable.onPart {store : SessionStore τ} {content : τ → Option Session}
    (h : store.Reliable content) (p : Part σ τ) :
    (store.onPart p).Reliable fun w => content (p.get w) :=
  { h.toLawful.onPart p with
    loads := h.loads.onPart p
    saves := fun s => (h.saves s).onPart p
    clears := h.clears.onPart p }

/-- Takes the next entry of a list of failures, and fails with it if there is one. -/
def strike : StoreM (List (Option StoreError)) Unit := ExceptT.mk fun
  | some e :: rest => (.error e, rest)
  | none :: rest => (.ok (), rest)
  | [] => (.ok (), [])

/-- The store with failures before its operations, as a list gives them. -/
def unreliable (store : SessionStore τ) : SessionStore (List (Option StoreError) × τ) :=
  let strike : StoreM (List (Option StoreError) × τ) Unit := ExceptT.mk (Part.first.run strike.run)
  let store := store.onPart Part.second
  { load := do strike; store.load
    save := fun s => do strike; store.save s
    clear := do strike; store.clear }

/-- Failures leave a lawful store lawful, wherever they fall. -/
theorem Lawful.unreliable {store : SessionStore τ} {content : τ → Option Session}
    (h : store.Lawful content) :
    store.unreliable.Lawful fun w => content w.2 := by
  have hs : Settles (fun w => content w.2)
      (ExceptT.mk (Part.first.run strike.run) : StoreM (List (Option StoreError) × τ) Unit)
        fun c _ c' => c' = c :=
    .of_keeps (Part.keeps_run (fun _ _ => rfl) strike.run)
  have hp : (store.onPart Part.second).Lawful fun w : List (Option StoreError) × τ =>
      content w.2 := h.onPart _
  exact ⟨hs.after fun _ => hp.load, fun s h => hs.after fun _ => hp.save s h, hs.after
    fun _ => hp.clear⟩

end SessionStore

end SigningConsole
