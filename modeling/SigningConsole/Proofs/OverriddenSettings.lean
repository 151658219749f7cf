import SigningConsole.Proofs.TypedOptions
/-!
Settings that a command line overrides.

The settings of the environment with what the options override are compared with the settings of
the environment into which the options were put. The environment is read as a chain of steps,
and the two runs are compared step by step: `Follows` says that the second goes as the first
does, but for the faults of variables that an option stands in for, and `Spares` that it never
has one of these faults.

`override_eq_ofEnvironment_iff`: the two are the same just when no variable at fault has an option
typed for it, and when the login page that is set is not lost. It is lost with the address of
another backend if it was the default page of the old one.
-/

namespace SigningConsole

open Text

/-! ## Readings that follow each other -/

section Following

variable {ε α β γ δ : Type} {blamed : ε → Prop} {R : α → β → Prop} {x : Except ε α} {y : Except ε β}

/-- The reading never has a blamed fault. -/
def Spares (blamed : ε → Prop) (y : Except ε β) : Prop := ∀ e, y = .error e → ¬ blamed e

theorem Spares.ok {b : β} : Spares blamed (.ok b : Except ε β) := fun _ h => nomatch h

theorem Spares.bind {g : β → Except ε δ} (hy : Spares blamed y) (hg : ∀ b, Spares blamed (g b)) :
    Spares blamed (y >>= g) := by
  cases y with
  | ok b => exact hg b
  | error e =>
    intro e' he
    cases he
    exact hy e rfl

/-- `y` goes as `x` does: where `x` has a value, `y` has one that is related to it, and a fault of
`x` that is not blamed is one of `y`. -/
structure Follows (blamed : ε → Prop) (R : α → β → Prop) (x : Except ε α)
    (y : Except ε β) : Prop where
  ok : ∀ a, x = .ok a → ∃ b, y = .ok b ∧ R a b
  error : ∀ e, x = .error e → ¬ blamed e → y = .error e

theorem Follows.of_ok {a : α} {b : β} (h : R a b) : Follows blamed R (.ok a) (.ok b) where
  ok _ ha := ⟨b, rfl, by cases ha; exact h⟩
  error _ he := nomatch he

theorem Follows.of_error {e : ε} (h : ¬ blamed e → y = .error e) :
    Follows blamed R (.error e) y where
  ok _ ha := nomatch ha
  error _ he := by cases he; exact h

theorem Follows.bind {S : γ → δ → Prop} {f : α → Except ε γ} {g : β → Except ε δ}
    (hxy : Follows blamed R x y) (hfg : ∀ a b, R a b → Follows blamed S (f a) (g b)) :
    Follows blamed S (x >>= f) (y >>= g) := by
  cases x with
  | ok a =>
    obtain ⟨b, rfl, hab⟩ := hxy.ok a rfl
    exact hfg a b hab
  | error e =>
    refine .of_error fun hblamed => ?_
    rw [hxy.error e rfl hblamed]
    rfl

end Following

/-! ## Settings -/

/-- The variable that cannot be read. -/
def SettingsError.variable : SettingsError → Variable
  | invalidUrl v _ => v
  | invalidValue v _ => v
  | maxAgeOutOfRange => .maxAge

namespace Settings

/-- The faults of a reading are those of one variable. -/
def Names {α : Type} (v : Variable) (read : String → Except SettingsError α) : Prop :=
  ∀ s e, read s = .error e → e.variable = v

theorem names_readUrl (v : Variable) : Names v (readUrl v) := by
  intro s e h
  unfold readUrl at h
  cases hs : Url.parse s with
  | ok u => rw [hs] at h; cases h
  | error fault => rw [hs] at h; cases h; rfl

theorem names_readNumber (v : Variable) : Names v (readNumber v) := by
  intro s e h
  unfold readNumber at h
  split at h
  · cases h
  · cases h; rfl

theorem names_readVariant : Names .variant readVariant := by
  intro s e h
  unfold readVariant at h
  cases hs : Variant.ofText? s with
  | ok u => rw [hs] at h; cases h
  | error fault => rw [hs] at h; cases h; rfl

theorem names_readMaxAge : Names .maxAge readMaxAge := by
  intro s e h
  unfold readMaxAge at h
  cases hs : readNumber .maxAge s with
  | error fault => rw [hs] at h; cases h; exact names_readNumber .maxAge s _ hs
  | ok n =>
    simp only [bind, Except.bind, hs] at h
    split at h
    · cases h
    · cases h; rfl

theorem Names.readWith {α : Type} {env : Environment} {v : Variable}
    {read : String → Except SettingsError α} (h : Names v read) {e : SettingsError}
    (he : readWith env v read = .error e) : e.variable = v := by
  unfold Settings.readWith at he
  split at he
  · next s _ => exact h s e (error_of_map he)
  · cases he

theorem isSome_of_readWith {α : Type} {env : Environment} {v : Variable}
    {read : String → Except SettingsError α} {a : Option α} (h : readWith env v read = .ok a) :
    a.isSome = (value? env v).isSome := by
  unfold readWith at h
  split at h
  · next s hs =>
    obtain ⟨b, -, rfl⟩ := exists_of_map_eq_ok h
    rw [hs]
    rfl
  · next hs => cases h; rw [hs]; rfl

end Settings

/-! ## The environment with what was typed -/

namespace TypedOptions

variable {t : TypedOptions} {o : Overrides} {env : Environment}

/-- The faults of variables that an option is typed for. -/
def Replaces (t : TypedOptions) (e : SettingsError) : Prop := (t.text? e.variable).isSome

variable {α : Type} {v : Variable} {read : String → Except SettingsError α} {typed : Option α}

/-- A variable is read as before, unless something is typed for it. -/
theorem readWith_into (hvisible : ∀ s, t.text? v = some s → allBlank s = false)
    (hread : (t.text? v).map read = typed.map .ok) :
    Settings.readWith (t.into env) v read = typed.elim (Settings.readWith env v read)
      fun a => .ok (some a) := by
  rw [Settings.readWith, value?_into hvisible]
  cases hs : t.text? v with
  | none =>
    rw [hs] at hread
    cases typed with
    | none => rfl
    | some a => cases hread
  | some s =>
    rw [hs] at hread
    obtain ⟨a, rfl, ha⟩ := Option.map_eq_some_iff.1 hread.symm
    show (read s).map some = .ok (some a)
    rw [← ha]
    rfl

variable (env typed) in
theorem follows_readWith (hnames : Settings.Names v read)
    (hvisible : ∀ s, t.text? v = some s → allBlank s = false)
    (hread : (t.text? v).map read = typed.map .ok) :
    Follows t.Replaces
      (fun old new => new = typed.or old ∧ old.isSome = (Settings.value? env v).isSome)
      (Settings.readWith env v read) (Settings.readWith (t.into env) v read) := by
  rw [readWith_into hvisible hread]
  cases typed with
  | none =>
    exact ⟨fun old hold => ⟨old, hold, rfl, Settings.isSome_of_readWith hold⟩, fun _ he _ => he⟩
  | some a =>
    obtain ⟨s, hs, -⟩ := Option.map_eq_some_iff.1 hread
    refine ⟨fun old hold => ⟨some a, rfl, rfl, Settings.isSome_of_readWith hold⟩, fun e he hkept =>
      absurd ?_ hkept⟩
    show (t.text? e.variable).isSome
    rw [hnames.readWith he, hs]
    rfl

variable (env typed) in
theorem spares_readWith (hnames : Settings.Names v read)
    (hvisible : ∀ s, t.text? v = some s → allBlank s = false)
    (hread : (t.text? v).map read = typed.map .ok) :
    Spares t.Replaces (Settings.readWith (t.into env) v read) := by
  rw [readWith_into hvisible hread]
  cases typed with
  | none =>
    intro e he hreplaced
    have hs : t.text? v = none := Option.map_eq_none_iff.1 hread
    rw [Replaces, hnames.readWith he, hs] at hreplaced
    cases hreplaced
  | some a => exact .ok

end TypedOptions

namespace Settings

/-- The backend that stands in for a missing one can be read. -/
theorem readUrl_defaultBase : ∃ base, readUrl .url defaultBase = .ok base :=
  exists_of_isOk (by decide +kernel)

/-- The backend, or the one that stands in for a missing one. -/
theorem readUrl_getD (env : Environment) : readUrl .url ((value? env .url).getD defaultBase) =
    readWith env .url (readUrl .url) >>= fun base => base.elim (readUrl .url defaultBase) .ok := by
  unfold readWith
  cases value? env .url with
  | none => rfl
  | some s =>
    show readUrl .url s = (readUrl .url s).map some >>= _
    cases readUrl .url s <;> rfl

/-- The settings with what is typed, where the variables say whether a login page is set. -/
def withTyped (s : Settings) (o : Overrides) (loginSet : Bool) : Settings where
  base := o.base.getD s.base
  loginUrl := if loginSet then s.loginUrl else defaultLogin (o.base.getD s.base)
  providerLogout := s.providerLogout
  cookieDomain := s.cookieDomain
  timeout := o.timeout.getD s.timeout
  variant := o.variant.getD s.variant
  sessionFile := o.sessionFile.or s.sessionFile
  maxAge := s.maxAge

end Settings

namespace TypedOptions

open Settings

variable {t : TypedOptions} {o : Overrides} {env : Environment}

theorem follows_base (h : t.Means o) : Follows t.Replaces (fun old new => new = o.base.getD old)
    (readUrl .url ((value? env .url).getD defaultBase))
    (readUrl .url ((value? (t.into env) .url).getD defaultBase)) := by
  obtain ⟨fallback, hfallback⟩ := readUrl_defaultBase
  rw [readUrl_getD, readUrl_getD, hfallback]
  refine (follows_readWith env o.base (names_readUrl _) (h.visible _) h.base).bind
    fun old new hnew => ?_
  rw [hnew.1]
  cases o.base with
  | none => cases old <;> exact .of_ok rfl
  | some base => cases old <;> exact .of_ok rfl

theorem spares_base (h : t.Means o) :
    Spares t.Replaces (readUrl .url ((value? (t.into env) .url).getD defaultBase)) := by
  obtain ⟨fallback, hfallback⟩ := readUrl_defaultBase
  rw [readUrl_getD, hfallback]
  refine (spares_readWith env o.base (names_readUrl _) (h.visible _) h.base).bind fun new => ?_
  cases new <;> exact .ok

variable (env) in
/-- The environment with what was typed is read as the environment is, with what was typed in
place of its values. -/
theorem follows_ofEnvironment (h : t.Means o) :
    Follows t.Replaces
      (fun s s' => s' = s.withTyped o (value? env .loginUrl).isSome ∧
        ((value? env .loginUrl).isSome = false → s.loginUrl = defaultLogin s.base))
      (ofEnvironment env) (ofEnvironment (t.into env)) := by
  have untyped {v : Variable} (hv : t.text? v = none) {α : Type}
      {read : String → Except SettingsError α} (hread : Names v read) :=
    follows_readWith env none hread (h.visible v) (by rw [hv]; rfl)
  refine (follows_base h).bind fun base base' hbase => ?_
  refine (untyped rfl (names_readUrl .loginUrl)).bind fun login login' hlogin => ?_
  refine (untyped rfl (names_readUrl .logoutUrl)).bind fun logout logout' hlogout => ?_
  refine (follows_readWith env o.timeout (names_readNumber _) (h.visible _) h.timeout).bind
    fun timeout timeout' htimeout => ?_
  refine (follows_readWith env o.variant names_readVariant (h.visible _) h.variant).bind
    fun variant variant' hvariant => ?_
  refine (untyped rfl names_readMaxAge).bind fun maxAge maxAge' hmaxAge => ?_
  -- both runs are at their end: what is left is to compare the two records field by field
  refine .of_ok ⟨?_, fun hunset => ?_⟩
  · rw [value?_into (h.visible .cookieDomain), value?_into (h.visible .sessionFile), hlogin.1,
      hlogout.1, htimeout.1, hvariant.1, hmaxAge.1, ← hlogin.2, hbase]
    simp only [withTyped, text?, h.sessionFile, Option.none_or, Option.getD_or]
    cases login <;> rfl
  · have hnone : login = none :=
      Option.not_isSome_iff_eq_none.1 (by rw [hlogin.2, hunset]; exact Bool.false_ne_true)
    rw [hnone]
    rfl

variable (env) in
theorem spares_ofEnvironment (h : t.Means o) : Spares t.Replaces (ofEnvironment (t.into env)) := by
  have untyped {v : Variable} (hv : t.text? v = none) {α : Type}
      {read : String → Except SettingsError α} (hread : Names v read) :=
    spares_readWith env none hread (h.visible v) (by rw [hv]; rfl)
  refine (spares_base h).bind fun _ => ?_
  refine (untyped rfl (names_readUrl .loginUrl)).bind fun _ => ?_
  refine (untyped rfl (names_readUrl .logoutUrl)).bind fun _ => ?_
  refine (spares_readWith env o.timeout (names_readNumber _) (h.visible _) h.timeout).bind
    fun _ => ?_
  refine (spares_readWith env o.variant names_readVariant (h.visible _) h.variant).bind fun _ => ?_
  exact (untyped rfl names_readMaxAge).bind fun _ => .ok

end TypedOptions

namespace Settings

variable {s : Settings} {o : Overrides} {loginSet : Bool}

theorem override_withTyped (loginSet : Bool) :
    s.override o = { s.withTyped o loginSet with loginUrl := (s.override o).loginUrl } := by
  unfold override withTyped
  cases o.base <;> rfl

/-- Overriding keeps a login page that is set, unless it is the default one of the old backend
and not of the new. -/
theorem override_eq_withTyped_iff (hunset : loginSet = false → s.loginUrl = defaultLogin s.base) :
    s.override o = s.withTyped o loginSet ↔
      ∀ base, o.base = some base → loginSet → s.loginUrl = defaultLogin s.base →
        s.loginUrl = defaultLogin base := by
  have hfields : s.override o = s.withTyped o loginSet ↔
      (s.override o).loginUrl = (s.withTyped o loginSet).loginUrl := by
    refine ⟨congrArg loginUrl, fun h => ?_⟩
    rw [override_withTyped loginSet, h]
  rw [hfields]
  unfold override withTyped
  cases o.base with
  | none => cases loginSet <;> simp [hunset]
  | some base =>
    cases loginSet with
    | false => simp [hunset]
    | true =>
      by_cases hdefault : s.loginUrl = defaultLogin s.base
      · simp [hdefault, eq_comm]
      · simp [hdefault]

end Settings

/-- Typing an option is setting its variable, but for two things: a variable at fault is reported
even if an option is typed for it, and a login page that is set is lost with the address of another
backend if it was the default page of the old one. -/
theorem TypedOptions.override_eq_ofEnvironment_iff {t : TypedOptions} {m : Matches}
    (env : Environment) (hread : t.read = .ok m) (hfile : ∀ s ∈ t.sessionFile, allBlank s = false) :
    (∀ s, Settings.ofEnvironment env = .ok s → ∃ s', Settings.ofEnvironment (t.into env) = .ok s' ∧
      s.override m.overrides = { s' with loginUrl := (s.override m.overrides).loginUrl }) ∧
    ((Settings.ofEnvironment env).map (·.override m.overrides) =
        Settings.ofEnvironment (t.into env) ↔
      (∀ e, Settings.ofEnvironment env = .error e → t.text? e.variable = none) ∧
      ∀ s base, Settings.ofEnvironment env = .ok s → m.overrides.base = some base →
        (Settings.value? env .loginUrl).isSome → s.loginUrl = Settings.defaultLogin s.base →
          s.loginUrl = Settings.defaultLogin base) := by
  have hmeans := means_of_read hread hfile
  have hfollows := follows_ofEnvironment env hmeans
  have hspares := spares_ofEnvironment env hmeans
  cases henv : Settings.ofEnvironment env with
  | ok s =>
    obtain ⟨s', hs', rfl, hunset⟩ := hfollows.ok s henv
    refine ⟨fun s₁ hs₁ => ?_, ?_⟩
    · cases hs₁
      exact ⟨_, hs', Settings.override_withTyped _⟩
    · rw [hs']
      have hiff := Settings.override_eq_withTyped_iff (s := s) (o := m.overrides) hunset
      constructor
      · intro heq
        refine ⟨fun e he => (nomatch he), fun s₁ base hs₁ hbase hset hdefault => ?_⟩
        cases hs₁
        exact hiff.1 (Except.ok.inj heq) base hbase hset hdefault
      · intro hcond
        exact congrArg Except.ok (hiff.2 fun base hbase => hcond.2 s base rfl hbase)
  | error e =>
    refine ⟨fun s hs => (nomatch hs), ?_⟩
    constructor
    · intro heq
      refine ⟨fun e' he' => ?_, fun s base hs => (nomatch hs)⟩
      cases he'
      have hkept := hspares e heq.symm
      exact Option.not_isSome_iff_eq_none.1 hkept
    · intro hcond
      have hkept : ¬ t.Replaces e := Option.not_isSome_iff_eq_none.2 (hcond.1 e rfl)
      rw [hfollows.error e henv hkept]
      rfl

namespace TypedOptions

/-- A login page of its own stays with the address of another backend, whatever else is typed. -/
theorem own_login_page_kept :
    let t : TypedOptions :=
      { url := some "http://b.example.com", sessionFile := some "s.json", timeout := some "5" }
    let env : Environment :=
      .ofList [(Variable.url.name, "http://a.example.com"),
        (Variable.loginUrl.name, "http://login.example.com"), (Variable.timeout.name, " 7 ")]
    ∃ m, t.read = .ok m ∧ (∀ s ∈ t.sessionFile, allBlank s = false) ∧
      (Settings.ofEnvironment env).map (·.override m.overrides) =
        Settings.ofEnvironment (t.into env) := by
  intro t env
  have hread : t.read.isOk := by decide +kernel
  have hfile : ∀ s ∈ t.sessionFile, allBlank s = false := by decide +kernel
  cases hm : t.read with
  | error fault => rw [hm] at hread; cases hread
  | ok m =>
    obtain ⟨-, hiff⟩ := override_eq_ofEnvironment_iff env hm hfile
    refine ⟨m, rfl, hfile, hiff.2 ⟨fun e he => ?_, fun s base hs _ _ hd => ?_⟩⟩
    · have henv : (Settings.ofEnvironment env).isOk := by decide +kernel
      rw [he] at henv
      cases henv
    · have hown : (Settings.ofEnvironment env).toOption.all
          fun s => s.loginUrl ≠ Settings.defaultLogin s.base := by
        decide +kernel
      rw [hs] at hown
      exact absurd hd (of_decide_eq_true hown)

/-- A variable at fault is reported although an option is typed for it, and a login page that is set
is lost if it is the default one of the backend that the environment names. -/
theorem typing_differs_from_setting :
    let same (t : TypedOptions) (env : Environment) : Prop :=
      ∀ m, t.read = .ok m →
        (Settings.ofEnvironment env).map (·.override m.overrides) =
          Settings.ofEnvironment (t.into env)
    ¬ same { timeout := some "5" } (.ofList [(Variable.timeout.name, "soon")]) ∧
    ¬ same { url := some "http://b.example.com" }
        (.ofList [(Variable.url.name, "http://a.example.com"),
          (Variable.loginUrl.name, "http://a.example.com/api/v1/users/login")]) := by
  intro same
  have differ {t : TypedOptions} {env : Environment}
      (h : t.read.toOption.any fun m =>
        ((Settings.ofEnvironment env).map (·.override m.overrides)).toOption ≠
          (Settings.ofEnvironment (t.into env)).toOption) : ¬ same t env := by
    intro hsame
    cases hm : t.read with
    | error fault => rw [hm] at h; cases h
    | ok m =>
      rw [hm] at h
      exact absurd (congrArg Except.toOption (hsame m hm)) (of_decide_eq_true h)
  exact ⟨differ (by decide +kernel), differ (by decide +kernel)⟩

end TypedOptions

end SigningConsole
