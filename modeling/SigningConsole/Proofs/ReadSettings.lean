import SigningConsole.Proofs.OverriddenSettings
/-!
The settings, variable by variable.

Each variable is read on its own. `Variable.fault?` says what is wrong with a value for a variable,
and `Settings.firstFault?` is the first such fault in the order in which the variables are read.
`Settings.Reads` says of settings that were read, field by field, which variable each field comes
from: a blank variable has no value, and the login page unless another is set is the one field that
comes from another variable than its own.

`read_variable_by_variable`: an environment whose lifetime, if it is a number, is not past 10¹⁵
seconds can be read just when each of its values can, and otherwise the first fault is
reported; what is blank counts as unset; and one variable changes no field but its own, and the
login page with the backend.
-/

namespace SigningConsole

open Calendar Text

/-! ## Faults in order -/

section Faults

variable {ε α β : Type}

/-- The fault of a reading, if it has one. -/
def faultOf : Except ε α → Option ε
  | .ok _ => none
  | .error e => some e

theorem faultOf_eq_some {x : Except ε α} {e : ε} : faultOf x = some e ↔ x = .error e := by
  cases x <;> simp [faultOf]

theorem faultOf_eq_none {x : Except ε α} : faultOf x = none ↔ ∃ a, x = .ok a := by
  cases x <;> simp [faultOf]

theorem faultOf_map (f : α → β) (x : Except ε α) : faultOf (x.map f) = faultOf x := by
  cases x <;> rfl

/-- Of two readings the first fault counts, where the second one has its fault whatever
the first one gives. -/
theorem faultOf_bind {x : Except ε α} {k : α → Except ε β} {later : Option ε}
    (h : ∀ a, faultOf (k a) = later) :
    faultOf (x >>= k) = (faultOf x).or later := by
  cases x with
  | ok a => exact h a
  | error e => rfl

theorem findSome?_cons_eq_or (f : α → Option β) (a : α) (as : List α) :
    (a :: as).findSome? f = (f a).or (as.findSome? f) := by
  rw [List.findSome?_cons]
  cases f a <;> rfl

end Faults

/-! ## Numbers of 64 bits -/

/-- The upper half of the unsigned numbers is the lower half of the signed ones. -/
theorem toInt_toInt64 (n : UInt64) :
    n.toInt64.toInt = if 2 * n.toNat < UInt64.size then (n.toNat : Int)
    else n.toNat - UInt64.size := by
  have htoInt : n.toInt64.toInt = n.toBitVec.toInt := rfl
  rw [htoInt, BitVec.toInt_eq_toNat_cond, UInt64.toNat_toBitVec]

theorem Calendar.spanOfSeconds?_of_le {n : Int} (h : n.natAbs ≤ maxSpan.natAbs) :
    spanOfSeconds? n = some n := if_pos h

theorem Calendar.spanOfSeconds?_of_lt {n : Int} (h : maxSpan.natAbs < n.natAbs) :
    spanOfSeconds? n = none :=
  if_neg (Nat.not_le.2 h)

/-! ## Values -/

/-- What is wrong with a value for the variable, if something is. -/
def Variable.fault? (v : Variable) (s : String) : Option SettingsError :=
  match v with
  | url | loginUrl | logoutUrl => (faultOf (Url.parse s)).map (.invalidUrl v)
  | timeout | maxAge =>
    if (readUInt64? (trim s.toList)).isSome then none else some (.invalidValue v s)
  | variant =>
    if s = Variant.signatrust.text ∨
      s = Variant.certification.text then none else some (.invalidValue v s)
  | cookieDomain | sessionFile => none

/-- The variables that can be at fault, in the order in which they are read. -/
def Variable.checked : List Variable := [url, loginUrl, logoutUrl, timeout, variant, maxAge]

namespace Settings

variable {env env' : Environment} {v : Variable} {s : String}

/-- The first fault of the values in an environment. -/
def firstFault? (env : Environment) : Option SettingsError :=
  Variable.checked.findSome? fun v => (value? env v).bind v.fault?

theorem faultOf_readUrl (hv : v = .url ∨ v = .loginUrl ∨ v = .logoutUrl) (s : String) :
    faultOf (readUrl v s) = v.fault? s := by
  have hread : faultOf (readUrl v s) = (faultOf (Url.parse s)).map (.invalidUrl v) := by
    unfold readUrl
    cases Url.parse s <;> rfl
  rw [hread]
  rcases hv with rfl | rfl | rfl <;> rfl

theorem faultOf_readNumber (v : Variable) (s : String) : faultOf (readNumber v s) =
    if (readUInt64? (trim s.toList)).isSome then none else some (.invalidValue v s) := by
  unfold readNumber
  cases readUInt64? (trim s.toList) <;> rfl

theorem faultOf_readVariant (s : String) : faultOf (readVariant s) = Variable.variant.fault? s := by
  show _ = if s = Variant.signatrust.text ∨ s = Variant.certification.text then none else _
  split
  · next h => rcases h with rfl | rfl <;> rfl
  · next h =>
    have hsignatrust : (s == "signatrust") = false := beq_eq_false_iff_ne.2 fun hs => h (.inl hs)
    have hcertification : (s == "certification") = false :=
      beq_eq_false_iff_ne.2 fun hs => h (.inr hs)
    have hword : Variant.ofText? s = .error ⟨.variant, s⟩ := by
      unfold Variant.ofText? readWord
      simp only [List.lookup_cons, List.lookup_nil, hsignatrust, hcertification]
    unfold readVariant
    rw [hword]
    rfl

theorem readMaxAge_of_number {n : UInt64} (h : readUInt64? (trim s.toList) = some n) :
    readMaxAge s = (spanOfSeconds? n.toInt64.toInt).elim (.error .maxAgeOutOfRange) .ok := by
  have hnumber : readNumber .maxAge s = .ok n := by
    unfold readNumber
    rw [h]
  unfold readMaxAge
  rw [hnumber]
  dsimp only [bind, Except.bind]
  cases spanOfSeconds? n.toInt64.toInt <;> rfl

theorem readMaxAge_of_no_number (h : readUInt64? (trim s.toList) = none) :
    readMaxAge s = .error (.invalidValue .maxAge s) := by
  have hnumber : readNumber .maxAge s = .error (.invalidValue .maxAge s) := by
    unfold readNumber
    rw [h]
  unfold readMaxAge
  rw [hnumber]
  rfl

/-- A lifetime that is not longer than any span is kept as it is. -/
theorem readMaxAge_of_le {n : UInt64} (h : readUInt64? (trim s.toList) = some n)
    (hle : (n.toNat : Int) ≤ maxSpan) :
    readMaxAge s = .ok n.toNat := by
  have hspan : maxSpan = 9223372036854775 := rfl
  have hsize : UInt64.size = 18446744073709551616 := rfl
  have hsigned : n.toInt64.toInt = n.toNat := by
    rw [toInt_toInt64, if_pos (by omega)]
  rw [readMaxAge_of_number h, hsigned, spanOfSeconds?_of_le (by omega)]
  rfl

/-- The lifetime of the environment, if it is a number, is not past 10¹⁵ seconds. -/
def AgeInReach (env : Environment) : Prop :=
  ∀ s n, value? env .maxAge = some s → readUInt64? (trim s.toList) = some n →
    n.toNat ≤ 1000000000000000

theorem AgeInReach.faultOf_readMaxAge (h : AgeInReach env) (hs : value? env .maxAge = some s) :
    faultOf (readMaxAge s) = Variable.maxAge.fault? s := by
  show _ = if (readUInt64? (trim s.toList)).isSome then none else _
  cases hn : readUInt64? (trim s.toList) with
  | none =>
    rw [readMaxAge_of_no_number hn]
    rfl
  | some n =>
    have hspan : maxSpan = 9223372036854775 := rfl
    have hle := h s n hs hn
    rw [readMaxAge_of_le hn (by omega)]
    rfl

theorem faultOf_readWith {α : Type} {read : String → Except SettingsError α}
    (h : ∀ s, value? env v = some s → faultOf (read s) = v.fault? s) :
    faultOf (readWith env v read) = (value? env v).bind v.fault? := by
  unfold readWith
  cases hs : value? env v with
  | none => rfl
  | some s => rw [faultOf_map, h s hs, Option.bind_some]

/-- The backend that stands in for a missing one has no fault. -/
theorem faultOf_base (env : Environment) :
    faultOf (readUrl .url ((value? env .url).getD defaultBase)) = (value? env .url).bind
      Variable.url.fault? := by
  cases value? env .url with
  | none =>
    obtain ⟨base, hbase⟩ := readUrl_defaultBase
    exact faultOf_eq_none.2 ⟨base, hbase⟩
  | some s => exact faultOf_readUrl (.inl rfl) s

/-- The settings are read variable by variable, and the first fault ends it. -/
theorem faultOf_ofEnvironment (h : AgeInReach env) :
    faultOf (ofEnvironment env) = firstFault? env := by
  have hchain : faultOf (ofEnvironment env) =
      (faultOf (readUrl .url ((value? env .url).getD defaultBase))).or
      ((faultOf (readWith env .loginUrl (readUrl .loginUrl))).or
      ((faultOf (readWith env .logoutUrl (readUrl .logoutUrl))).or
      ((faultOf (readWith env .timeout (readNumber .timeout))).or
      ((faultOf (readWith env .variant readVariant)).or
      ((faultOf (readWith env .maxAge readMaxAge)).or none))))) :=
    faultOf_bind fun _ => faultOf_bind fun _ => faultOf_bind fun _ => faultOf_bind
      fun _ => faultOf_bind fun _ =>
      faultOf_bind fun _ => rfl
  rw [hchain, faultOf_base, faultOf_readWith fun s _ => faultOf_readUrl (.inr (.inl rfl)) s,
    faultOf_readWith fun s _ => faultOf_readUrl (.inr (.inr rfl)) s,
    faultOf_readWith fun s _ => faultOf_readNumber .timeout s, faultOf_readWith
      fun s _ => faultOf_readVariant s,
    faultOf_readWith fun _ hs => h.faultOf_readMaxAge hs]
  unfold firstFault? Variable.checked
  simp only [findSome?_cons_eq_or, List.findSome?_nil]

/-- No value is at fault just when the settings can be read. -/
theorem ofEnvironment_ok_iff (h : AgeInReach env) :
    (∃ settings, ofEnvironment env = .ok settings) ↔ ∀ v s, value? env v = some s →
      v.fault? s = none := by
  have hnone : (∀ v ∈ Variable.checked, (value? env v).bind v.fault? = none) ↔
      ∀ v s, value? env v = some s → v.fault? s = none := by
    constructor
    · intro hall v s hs
      by_cases hv : v ∈ Variable.checked
      · have hfault := hall v hv
        rwa [hs, Option.bind_some] at hfault
      · cases v <;> first | rfl | exact absurd (by decide) hv
    · intro hall v _
      exact Option.bind_eq_none_iff.2 fun s hs => hall v s hs
  rw [← faultOf_eq_none, faultOf_ofEnvironment h, firstFault?, List.findSome?_eq_none_iff, hnone]

/-! ## Fields -/

/-- The settings that are read from an environment, each field from its variable. -/
structure Reads (env : Environment) (s : Settings) : Prop where
  base : readUrl .url ((value? env .url).getD defaultBase) = .ok s.base
  loginUrl :
    (readWith env .loginUrl (readUrl .loginUrl)).map (·.getD (defaultLogin s.base)) = .ok s.loginUrl
  providerLogout : readWith env .logoutUrl (readUrl .logoutUrl) = .ok s.providerLogout
  cookieDomain : value? env .cookieDomain = s.cookieDomain
  timeout : (readWith env .timeout (readNumber .timeout)).map (·.getD 60) = .ok s.timeout
  variant : (readWith env .variant readVariant).map (·.getD .signatrust) = .ok s.variant
  sessionFile : value? env .sessionFile = s.sessionFile
  maxAge : readWith env .maxAge readMaxAge = .ok s.maxAge

theorem Reads.of_ok {s : Settings} (h : ofEnvironment env = .ok s) : Reads env s := by
  obtain ⟨base, hbase, h⟩ := exists_of_bind_eq_ok h
  obtain ⟨loginUrl, hlogin, h⟩ := exists_of_bind_eq_ok h
  obtain ⟨providerLogout, hlogout, h⟩ := exists_of_bind_eq_ok h
  obtain ⟨timeout, htimeout, h⟩ := exists_of_bind_eq_ok h
  obtain ⟨variant, hvariant, h⟩ := exists_of_bind_eq_ok h
  obtain ⟨maxAge, hmaxAge, h⟩ := exists_of_bind_eq_ok h
  cases h
  exact {
    base := hbase
    loginUrl := by rw [hlogin]; rfl
    providerLogout := hlogout
    cookieDomain := rfl
    timeout := by rw [htimeout]; rfl
    variant := by rw [hvariant]; rfl
    sessionFile := rfl
    maxAge := hmaxAge }

/-- The environments say the same of a variable; nothing is said by a blank value. -/
def SaysSame (env env' : Environment) (v : Variable) : Prop :=
  env.get? v.name = env'.get? v.name ∨
    (∀ s, env.get? v.name = some s → allBlank s) ∧ ∀ s, env'.get? v.name = some s → allBlank s

theorem value?_eq_none_of_blank (h : ∀ s, env.get? v.name = some s → allBlank s) :
    value? env v = none := by
  refine Option.filter_eq_none_iff.2 fun s hs => ?_
  rw [h s hs]
  decide

theorem SaysSame.value?_eq (h : SaysSame env env' v) : value? env v = value? env' v := by
  rcases h with h | ⟨hblank, hblank'⟩
  · unfold value?
    rw [h]
  · rw [value?_eq_none_of_blank hblank, value?_eq_none_of_blank hblank']

theorem readWith_congr {α : Type} {read : String → Except SettingsError α}
    (h : value? env v = value? env' v) :
    readWith env v read = readWith env' v read := by
  unfold readWith
  rw [h]

/-- The settings are made of nothing but the values of their variables. -/
theorem ofEnvironment_congr (h : ∀ v, value? env v = value? env' v) :
    ofEnvironment env = ofEnvironment env' := by
  unfold ofEnvironment
  simp only [h, readWith_congr (h _)]

/-! ## Two environments -/

/-- The settings with the field of one variable from others. -/
def withField (s other : Settings) : Variable → Settings
  | .url => { s with base := other.base }
  | .loginUrl => { s with loginUrl := other.loginUrl }
  | .logoutUrl => { s with providerLogout := other.providerLogout }
  | .cookieDomain => { s with cookieDomain := other.cookieDomain }
  | .timeout => { s with timeout := other.timeout }
  | .variant => { s with variant := other.variant }
  | .sessionFile => { s with sessionFile := other.sessionFile }
  | .maxAge => { s with maxAge := other.maxAge }

/-- A field is the same in both settings if its variable has the same value in both environments.
The login page must be set for that, or the backend be the same as well. -/
structure FieldsFollow (env env' : Environment) (s s' : Settings) : Prop where
  base : value? env .url = value? env' .url → s'.base = s.base
  loginUrl : value? env .loginUrl = value? env' .loginUrl → (value? env .loginUrl).isSome ∨
    s'.base = s.base → s'.loginUrl = s.loginUrl
  providerLogout : value? env .logoutUrl = value? env' .logoutUrl →
    s'.providerLogout = s.providerLogout
  cookieDomain : value? env .cookieDomain = value? env' .cookieDomain →
    s'.cookieDomain = s.cookieDomain
  timeout : value? env .timeout = value? env' .timeout → s'.timeout = s.timeout
  variant : value? env .variant = value? env' .variant → s'.variant = s.variant
  sessionFile : value? env .sessionFile = value? env' .sessionFile → s'.sessionFile = s.sessionFile
  maxAge : value? env .maxAge = value? env' .maxAge → s'.maxAge = s.maxAge

theorem eq_of_ok {ε α : Type} {x y : Except ε α} {a b : α} (hx : x = .ok a) (hy : y = .ok b)
    (h : x = y) : b = a := by
  rw [hx, hy] at h
  exact (Except.ok.inj h).symm

theorem Reads.follow {s s' : Settings} (h : Reads env s) (h' : Reads env' s') :
    FieldsFollow env env' s s' where
  base hv := eq_of_ok h.base h'.base (by rw [hv])
  loginUrl hv hset := by
    refine eq_of_ok h.loginUrl h'.loginUrl ?_
    rw [readWith_congr hv]
    rcases hset with hset | hbase
    · -- what was read is a login page, so that the default one is not asked for
      cases hread : readWith env' .loginUrl (readUrl .loginUrl) with
      | error e => rfl
      | ok page =>
        have hsome : page.isSome := by rw [isSome_of_readWith hread, ← hv, hset]
        obtain ⟨page, rfl⟩ := Option.isSome_iff_exists.1 hsome
        rfl
    · rw [hbase]
  providerLogout hv := eq_of_ok h.providerLogout h'.providerLogout (readWith_congr hv)
  cookieDomain hv := h'.cookieDomain.symm.trans (hv.symm.trans h.cookieDomain)
  timeout hv := eq_of_ok h.timeout h'.timeout (by rw [readWith_congr hv])
  variant hv := eq_of_ok h.variant h'.variant (by rw [readWith_congr hv])
  sessionFile hv := h'.sessionFile.symm.trans (hv.symm.trans h.sessionFile)
  maxAge hv := eq_of_ok h.maxAge h'.maxAge (readWith_congr hv)

/-- One variable changes no field but its own, and the login page with the backend
unless one is set. -/
theorem FieldsFollow.eq_withField {s s' : Settings} (h : FieldsFollow env env' s s')
    (hsame : ∀ u, u ≠ v → value? env u = value? env' u) :
    s' = if v = .url ∧ value? env .loginUrl = none then (s.withField s' .url).withField s' .loginUrl
      else s.withField s' v := by
  have hbase : v ≠ .url → s'.base = s.base := fun hv => h.base (hsame _ hv.symm)
  have hpage : v ≠ .loginUrl → value? env .loginUrl ≠ none ∨ v ≠ .url → s'.loginUrl = s.loginUrl :=
    fun hv hset =>
    h.loginUrl (hsame _ hv.symm) (hset.imp Option.isSome_iff_ne_none.2 hbase)
  have hlogout : v ≠ .logoutUrl → s'.providerLogout = s.providerLogout :=
    fun hv => h.providerLogout (hsame _ hv.symm)
  have hdomain : v ≠ .cookieDomain → s'.cookieDomain = s.cookieDomain :=
    fun hv => h.cookieDomain (hsame _ hv.symm)
  have htimeout : v ≠ .timeout → s'.timeout = s.timeout := fun hv => h.timeout (hsame _ hv.symm)
  have hvariant : v ≠ .variant → s'.variant = s.variant := fun hv => h.variant (hsame _ hv.symm)
  have hfile : v ≠ .sessionFile → s'.sessionFile = s.sessionFile :=
    fun hv => h.sessionFile (hsame _ hv.symm)
  have hage : v ≠ .maxAge → s'.maxAge = s.maxAge := fun hv => h.maxAge (hsame _ hv.symm)
  clear h hsame
  cases s
  cases s'
  by_cases hset : value? env .loginUrl = none <;> cases v <;> simp_all [withField]

/-- An environment can be read just when each of its values can, and otherwise the first fault is
reported, in the order in which the variables are read. Settings that are read depend on the values
of their variables alone, where a blank one counts as unset; and of two environments that differ in
one variable, the settings differ in its field alone, or, if it is that of the backend and no login
page is set, in the login page too. -/
theorem read_variable_by_variable (env : Environment) (hage : AgeInReach env) :
    ((∃ s, ofEnvironment env = .ok s) ↔
      ∀ v value, value? env v = some value → v.fault? value = none) ∧
    (∀ e, ofEnvironment env = .error e ↔ firstFault? env = some e) ∧
    (∀ env', (∀ v, SaysSame env env' v) → ofEnvironment env' = ofEnvironment env) ∧
    ∀ env' v s s', (∀ u, u ≠ v → SaysSame env env' u) → ofEnvironment env = .ok s →
      ofEnvironment env' = .ok s' →
        s' =
          if v = .url ∧ value? env .loginUrl = none then
            (s.withField s' .url).withField s' .loginUrl
          else s.withField s' v := by
  refine ⟨ofEnvironment_ok_iff hage, fun e => ?_, fun env' hsame => ?_,
    fun env' v s s' hsame hs hs' => ?_⟩
  · rw [← faultOf_eq_some, faultOf_ofEnvironment hage]
  · exact (ofEnvironment_congr fun v => (hsame v).value?_eq).symm
  · exact ((Reads.of_ok hs).follow (.of_ok hs')).eq_withField fun u hu => (hsame u hu).value?_eq

/-- Of three values two are at fault; the greatest lifetime in reach is not, and the timeout is read
before the variant. -/
theorem first_of_two_faults :
    let env : Environment :=
      .ofList [(Variable.variant.name, "desktop"), (Variable.timeout.name, "soon"),
        (Variable.url.name, " "), (Variable.maxAge.name, " +1000000000000000 ")]
    AgeInReach env ∧ ofEnvironment env = .error (.invalidValue .timeout "soon") := by
  intro env
  have hvalue : value? env .maxAge = some " +1000000000000000 " := by decide +kernel
  have hnumber : readUInt64? (trim " +1000000000000000 ".toList) = some 1000000000000000 := by
    decide +kernel
  have hage : AgeInReach env := by
    intro s n hs hn
    cases hvalue.symm.trans hs
    cases hnumber.symm.trans hn
    decide
  exact ⟨hage, ((read_variable_by_variable env hage).2.1 _).2 (by decide +kernel)⟩

end Settings

end SigningConsole
