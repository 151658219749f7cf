import SigningConsole.Proofs.LoginOutcome
import SigningConsole.Proofs.ReadSettings
import SigningConsole.Proofs.SessionAge
/-!
The lifetime of sessions that the environment asks for.

A lifetime is read as an unsigned number of 64 bits, its bits are taken for a signed number of
seconds, and that must be a span of time. `AgeTaken` lists what comes of it: a lifetime within the
longest span is kept, one in the middle of the range is no span at all, and one near the end of the
range is negative.

`Settings.max_age_kept_iff`: a lifetime is kept just when it is within the longest span, and then no
session ends before one that is stored for fewer seconds; beyond that, whatever session is stored
has expired from the start.
-/

namespace SigningConsole

open Calendar Text

/-! ## Sessions that last longer -/

namespace SessionLifetime

/-- No session that is stored under the policy ends before one that is stored for no
more than `n` seconds. -/
def Outlasts (policy : SessionLifetime) (n : Nat) : Prop :=
  ∀ (k : Int) (given early late : Session) (now t : Instant), k ≤ n * nanosPerSecond →
    given.stamp? (.maxAge k) now = some early → given.stamp? policy now = some late →
      late.isExpired t → early.isExpired t

theorem outlasts_maxAge (n : Nat) : (maxAge (n * nanosPerSecond)).Outlasts n := by
  intro k given early late now t hk hearly hlate hexpired
  obtain ⟨stop, hstop, hends⟩ := Session.expiresAt_of_maxAge hearly
  obtain ⟨stop', hstop', hends'⟩ := Session.expiresAt_of_maxAge hlate
  unfold Session.isExpired at hexpired ⊢
  rw [hends'] at hexpired
  rw [hends]
  have hle : stop ≤ stop' := Instant.addNanos?_mono hstop hstop' hk
  exact decide_eq_true (Instant.le_trans hle (of_decide_eq_true hexpired))

end SessionLifetime

/-! ## Lifetimes that are read -/

/-- What comes of a lifetime of `n` seconds, where the settings without it are `rest`. -/
inductive AgeTaken (n : UInt64) (rest : Settings) : Except SettingsError Settings → Prop where
  | kept (h : (n.toNat : Int) ≤ maxSpan) :
      AgeTaken n rest (.ok { rest with maxAge := some n.toNat })
  | outOfRange (h : maxSpan < n.toNat) (h' : (n.toNat : Int) < UInt64.size - maxSpan) :
      AgeTaken n rest (.error .maxAgeOutOfRange)
  | negative (h : UInt64.size - maxSpan ≤ (n.toNat : Int)) :
      AgeTaken n rest (.ok { rest with maxAge := some (n.toNat - UInt64.size) })

namespace AgeTaken

variable {n : UInt64} {rest : Settings} {result : Except SettingsError Settings}

theorem eq_of_le (htaken : AgeTaken n rest result) (h : (n.toNat : Int) ≤ maxSpan) :
    result = .ok { rest with maxAge := some n.toNat } := by
  have hspan : maxSpan = 9223372036854775 := rfl
  have hsize : UInt64.size = 18446744073709551616 := rfl
  cases htaken with
  | kept _ => rfl
  | outOfRange h' _ => omega
  | negative h' => omega

/-- A lifetime beyond the longest span is neither called invalid nor kept. -/
theorem lost_of_lt (htaken : AgeTaken n rest result) (h : maxSpan < n.toNat) :
    ¬ ((∃ text, result = .error (.invalidValue .maxAge text)) ∨
      result = .ok { rest with maxAge := some n.toNat }) := by
  have hsize : UInt64.size = 18446744073709551616 := rfl
  cases htaken with
  | kept h' => omega
  | outOfRange _ _ =>
    rintro (⟨text, htext⟩ | hkept)
    · cases htext
    · cases hkept
  | negative _ =>
    rintro (⟨text, htext⟩ | hkept)
    · cases htext
    · have hage : some (n.toNat - UInt64.size : Int) = some (n.toNat : Int) :=
        congrArg Settings.maxAge (Except.ok.inj hkept)
      have hage : (n.toNat - UInt64.size : Int) = n.toNat := Option.some.inj hage
      omega

end AgeTaken

namespace Settings

variable {env : Environment} {s : String} {n : UInt64} {rest : Settings}

theorem value?_erase_of_ne {u v : Variable} (h : u ≠ v) :
    value? (env.erase v.name) u = value? env u := by
  unfold value?
  rw [StringMap.get?_erase, if_neg fun hname => h (Variable.name_injective hname)]

theorem readWith_erase {α : Type} (v : Variable) (read : String → Except SettingsError α) :
    readWith (env.erase v.name) v read = .ok none := by
  unfold readWith value?
  rw [StringMap.get?_erase, if_pos rfl]
  rfl

/-- The lifetime is read last, onto the settings that are read without it. -/
theorem ofEnvironment_eq_bind (env : Environment) : ofEnvironment env =
    ofEnvironment (env.erase Variable.maxAge.name) >>= fun rest =>
      (fun age => { rest with maxAge := age }) <$> readWith env .maxAge readMaxAge := by
  have hvalue {u : Variable} (hu : u ≠ .maxAge) :
      value? (env.erase Variable.maxAge.name) u = value? env u :=
    value?_erase_of_ne hu
  have hread {α : Type} {u : Variable} (hu : u ≠ .maxAge) (read : String → Except SettingsError α) :
      readWith (env.erase Variable.maxAge.name) u read = readWith env u read :=
    readWith_congr (hvalue hu)
  conv =>
    rhs
    unfold ofEnvironment
    rw [hvalue (by decide), hread (by decide), hread (by decide), hread (by decide),
      hread (by decide), readWith_erase, hvalue (by decide), hvalue (by decide)]
  unfold ofEnvironment
  simp only [bind_assoc, map_eq_pure_bind]
  rfl

/-- A lifetime that is a number is kept, out of range or negative. -/
theorem ofEnvironment_taken (hs : value? env .maxAge = some s)
    (hn : readUInt64? (trim s.toList) = some n)
    (hrest : ofEnvironment (env.erase Variable.maxAge.name) = .ok rest) :
    AgeTaken n rest (ofEnvironment env) := by
  have hspan : maxSpan = 9223372036854775 := rfl
  have hsize : UInt64.size = 18446744073709551616 := rfl
  have hlt : n.toNat < UInt64.size := n.toNat_lt
  have hsigned := toInt_toInt64 n
  have hread : readWith env .maxAge readMaxAge = (readMaxAge s).map some := by
    unfold readWith
    rw [hs]
  rw [ofEnvironment_eq_bind, hrest, hread]
  by_cases hkept : (n.toNat : Int) ≤ maxSpan
  · rw [readMaxAge_of_le hn hkept]
    exact .kept hkept
  · rw [readMaxAge_of_number hn]
    by_cases hnegative : UInt64.size - maxSpan ≤ (n.toNat : Int)
    · rw [if_neg (by omega)] at hsigned
      rw [hsigned, spanOfSeconds?_of_le (by omega)]
      exact .negative hnegative
    · have hfar : maxSpan.natAbs < n.toInt64.toInt.natAbs := by
        split at hsigned <;> omega
      rw [spanOfSeconds?_of_lt hfar]
      exact .outOfRange (by omega) (by omega)

/-- A lifetime that is a number is kept just when it is within the longest span, and is never called
invalid. Within it, no session ends before one that is stored for fewer seconds; beyond it, there
are no settings, or every session that is stored has expired from the start. -/
theorem max_age_kept_iff (hs : value? env .maxAge = some s)
    (hn : readUInt64? (trim s.toList) = some n)
    (hrest : ofEnvironment (env.erase Variable.maxAge.name) = .ok rest) :
    AgeTaken n rest (ofEnvironment env) ∧
    ((∃ text, ofEnvironment env = .error (.invalidValue .maxAge text)) ∨
        ofEnvironment env = .ok { rest with maxAge := some n.toNat } ↔
      (n.toNat : Int) ≤ maxSpan) ∧
    ∀ settings, ofEnvironment env = .ok settings →
      ((n.toNat : Int) ≤ maxSpan → settings.policy.Outlasts n.toNat) ∧
      (maxSpan < n.toNat →
        ∀ (given s' : Session) (now : Instant), given.stamp? settings.policy now = some s' →
          s'.isExpired now) := by
  have htaken := ofEnvironment_taken hs hn hrest
  refine ⟨htaken, ⟨fun hkept => ?_, fun h => .inr (htaken.eq_of_le h)⟩, fun settings hsettings =>
    ⟨fun h => ?_, ?_⟩⟩
  · exact Int.not_lt.1 fun hlong => htaken.lost_of_lt hlong hkept
  · cases hsettings.symm.trans (htaken.eq_of_le h)
    exact SessionLifetime.outlasts_maxAge n.toNat
  · intro hlong given s' now hstamp
    have hlt : n.toNat < UInt64.size := n.toNat_lt
    generalize ofEnvironment env = result at htaken hsettings
    cases htaken with
    | kept h => omega
    | outOfRange _ _ => cases hsettings
    | negative _ =>
      cases hsettings
      have hnegative : ((n.toNat : Int) - UInt64.size) * nanosPerSecond ≤ 0 :=
        Int.mul_nonpos_of_nonpos_of_nonneg (by omega) (Int.natCast_nonneg _)
      exact (Session.isExpired_of_stamp hstamp now).2
        (SessionLifetime.not_lasts_of_le hnegative now)

/-- The longest lifetime is kept, with blanks around it. -/
theorem longest_age_kept :
    let env : Environment :=
      .ofList [(Variable.variant.name, "certification"),
        (Variable.maxAge.name, " 9223372036854775 ")]
    ∃ rest settings, value? env .maxAge = some " 9223372036854775 " ∧
      readUInt64? (trim " 9223372036854775 ".toList) = some 9223372036854775 ∧
      ofEnvironment (env.erase Variable.maxAge.name) = .ok rest ∧ ofEnvironment env = .ok settings ∧
      settings.policy.Outlasts 9223372036854775 := by
  intro env
  have hs : value? env .maxAge = some " 9223372036854775 " := by decide +kernel
  have hn : readUInt64? (trim " 9223372036854775 ".toList) = some 9223372036854775 := by
    decide +kernel
  obtain ⟨rest, hrest⟩ : ∃ rest, ofEnvironment (env.erase Variable.maxAge.name) = .ok rest :=
    exists_of_isOk (by decide +kernel)
  obtain ⟨settings, hsettings⟩ : ∃ settings, ofEnvironment env = .ok settings :=
    exists_of_isOk (by decide +kernel)
  obtain ⟨-, -, hpolicy⟩ := max_age_kept_iff hs hn hrest
  exact ⟨rest, settings, hs, hn, hrest, hsettings, (hpolicy settings hsettings).1 (by decide)⟩

/-- The greatest number of 64 bits becomes a negative lifetime, and the greatest signed one is no
span of time: neither is called invalid, and neither is kept. -/
theorem greatest_ages_not_kept :
    let keeps (env : Environment) : Prop := ∀ s n rest, value? env .maxAge = some s →
      readUInt64? (trim s.toList) = some n →
      ofEnvironment (env.erase Variable.maxAge.name) = .ok rest →
        (∃ text, ofEnvironment env = .error (.invalidValue .maxAge text)) ∨
          ofEnvironment env = .ok { rest with maxAge := some n.toNat }
    ¬ keeps (.ofList [(Variable.maxAge.name, "18446744073709551615")]) ∧
    ¬ keeps (.ofList [(Variable.maxAge.name, "9223372036854775807")]) := by
  have loses {env : Environment} {s : String} {n : UInt64} (hs : value? env .maxAge = some s)
      (hn : readUInt64? (trim s.toList) = some n) (hlong : maxSpan < n.toNat)
      (hrest : (ofEnvironment (env.erase Variable.maxAge.name)).isOk) :
      ¬ ∀ s n rest, value? env .maxAge = some s → readUInt64? (trim s.toList) = some n →
        ofEnvironment (env.erase Variable.maxAge.name) = .ok rest →
        (∃ text, ofEnvironment env = .error (.invalidValue .maxAge text)) ∨
          ofEnvironment env = .ok { rest with maxAge := some n.toNat } := by
    intro hkeeps
    obtain ⟨rest, hrest⟩ := exists_of_isOk hrest
    exact (ofEnvironment_taken hs hn hrest).lost_of_lt hlong (hkeeps s n rest hs hn hrest)
  exact ⟨loses (s := "18446744073709551615") (n := 18446744073709551615) (by decide +kernel)
      (by decide +kernel) (by decide) (by decide +kernel),
    loses (s := "9223372036854775807") (n := 9223372036854775807) (by decide +kernel)
      (by decide +kernel) (by decide) (by decide +kernel)⟩

end Settings

end SigningConsole
