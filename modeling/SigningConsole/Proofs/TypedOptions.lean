import SigningConsole.Command.Grammar
import SigningConsole.Proofs.After
/-!
Options that are typed in place of variables.

Four options of the command line stand in for variables. `TypedOptions` holds the texts that are
typed for them: `TypedOptions.read` reads these as a command line does, and `TypedOptions.into` sets
them as variables instead. `means_of_read`: what a command line reads without a fault, the settings
read in the same way, and none of it is blank, so that no variable set to it counts as unset.
-/

namespace SigningConsole

open Text

/-! ## Texts that are read are not blank -/

namespace Text

theorem isAlpha_of_isBlank {c : Char} (h : isBlank c = true) : c.isAlpha = false := by
  have hA : ('A').val.toNat = 65 := rfl
  have hZ : ('Z').val.toNat = 90 := rfl
  have ha : ('a').val.toNat = 97 := rfl
  have hz : ('z').val.toNat = 122 := rfl
  rw [← Bool.not_eq_true]
  intro halpha
  delta Char.isAlpha Char.isUpper Char.isLower at halpha
  simp only [isBlank, Char.toNat, Bool.or_eq_true, Bool.and_eq_true, decide_eq_true_eq,
    beq_iff_eq, ge_iff_le, UInt32.le_iff_toNat_le] at h halpha
  omega

/-- A character of a numeral is no blank. -/
theorem isBlank_of_numeral {c : Char} (h : c = '+' ∨ ('0' ≤ c ∧ c ≤ '9')) : isBlank c = false := by
  rcases h with rfl | ⟨hlow, hhigh⟩
  · decide
  · have h0 : ('0').val.toNat = 48 := rfl
    have h9 : ('9').val.toNat = 57 := rfl
    rw [← Bool.not_eq_true]
    intro hblank
    simp only [Char.le_def, UInt32.le_iff_toNat_le] at hlow hhigh
    simp only [isBlank, Char.toNat, Bool.or_eq_true, Bool.and_eq_true, decide_eq_true_eq,
      beq_iff_eq] at hblank
    omega

theorem digit_of_digitsValue? {cs : List Char} {n : Nat} (h : digitsValue? cs = some n) :
    ∀ c ∈ cs, '0' ≤ c ∧ c ≤ '9' := by
  unfold digitsValue? at h
  generalize (0 : Nat) = m at h
  induction cs generalizing m with
  | nil => intro c hc; cases hc
  | cons d cs ih =>
    rw [List.foldlM_cons] at h
    obtain ⟨k, hk, hrest⟩ := Option.bind_eq_some_iff.1 h
    obtain ⟨v, hv, -⟩ := Option.map_eq_some_iff.1 hk
    intro c hc
    rcases List.mem_cons.1 hc with rfl | hc
    · unfold digitValue? at hv
      split at hv
      · assumption
      · cases hv
    · exact ih k hrest c hc

theorem numeral_of_readUInt64? {cs : List Char} {n : UInt64} (h : readUInt64? cs = some n) :
    cs ≠ [] ∧ ∀ c ∈ cs, isBlank c = false := by
  obtain ⟨m, hm, -⟩ := Option.map_eq_some_iff.1 h
  obtain ⟨hread, -⟩ := Option.filter_eq_some_iff.1 hm
  have hdigits : ∀ {ds : List Char} {k : Nat}, readDigits? ds = some k → ds ≠ [] ∧
      ∀ c ∈ ds, '0' ≤ c ∧ c ≤ '9' := by
    intro ds k hk
    cases ds with
    | nil => cases hk
    | cons d ds => exact ⟨List.cons_ne_nil d ds, digit_of_digitsValue? hk⟩
  split at hread
  · obtain ⟨-, hds⟩ := hdigits hread
    refine ⟨List.cons_ne_nil _ _, fun c hc => isBlank_of_numeral ?_⟩
    exact (List.mem_cons.1 hc).imp_right (hds c)
  · obtain ⟨hne, hds⟩ := hdigits hread
    exact ⟨hne, fun c hc => isBlank_of_numeral (.inr (hds c hc))⟩

theorem trim_eq_self {cs : List Char} (h : ∀ c ∈ cs, isBlank c = false) : trim cs = cs :=
  Trimmed.trim_eq
    ⟨fun c hc => h c (List.mem_of_mem_head? hc), fun c hc => h c (List.mem_of_mem_getLast? hc)⟩

end Text

theorem Url.not_blank_of_parse {s : String} {u : Url} (h : Url.parse s = .ok u) :
    allBlank s = false := by
  rw [← Bool.not_eq_true]
  intro hblank
  have hclean : ∀ c ∈ Parser.clean s.toList, isBlank c = true := by
    intro c hc
    obtain ⟨hc, -⟩ := List.mem_filter.1 hc
    have hdrop := List.mem_reverse.1 ((List.dropWhile_sublist _).subset (List.mem_reverse.1 hc))
    exact List.all_eq_true.1 hblank c ((List.dropWhile_sublist _).subset hdrop)
  have hscheme : Parser.scheme? (Parser.clean s.toList) = none := by
    cases hcs : Parser.clean s.toList with
    | nil => rfl
    | cons c cs =>
      rw [hcs] at hclean
      rw [Parser.scheme?, isAlpha_of_isBlank (hclean c List.mem_cons_self)]
      rfl
  unfold Url.parse Parser.document at h
  simp only [hscheme] at h
  cases h

theorem Variant.not_blank_of_ofText? {s : String} {v : Variant} (h : Variant.ofText? s = .ok v) :
    allBlank s = false := by
  unfold Variant.ofText? readWord at h
  split at h
  · next a ha =>
    simp only [List.lookup_cons, List.lookup_nil] at ha
    split at ha
    · next hs => rw [eq_of_beq hs]; decide
    · split at ha
      · next hs => rw [eq_of_beq hs]; decide
      · cases ha
  · cases h

/-! ## Options -/

/-- The texts that are typed for the options that stand in for variables. -/
structure TypedOptions where
  url : Option String := none
  variant : Option String := none
  sessionFile : Option String := none
  timeout : Option String := none

namespace TypedOptions

/-- The text that is typed for a variable. -/
def text? (t : TypedOptions) : Variable → Option String
  | .url => t.url
  | .variant => t.variant
  | .sessionFile => t.sessionFile
  | .timeout => t.timeout
  | _ => none

/-- Takes the text that is typed for an argument, if there is one. -/
def take (t : TypedOptions) (r : Reading) (a : Argument) : Except UsageFault Reading :=
  match a.fallback.bind t.text? with
  | some text => r.add .commandLine a [text]
  | none => .ok r

/-- Reads what is typed, argument by argument. -/
def read (t : TypedOptions) : Except UsageFault Matches :=
  (globalArguments.foldlM t.take {}).map (·.given)

/-- The environment with the text that is typed for a variable. -/
def put (t : TypedOptions) (env : Environment) (v : Variable) : Environment :=
  match t.text? v with
  | some text => env.insert v.name text
  | none => env

/-- The environment with what is typed for the variables that arguments stand in for. -/
def into (t : TypedOptions) (env : Environment) : Environment :=
  (globalArguments.filterMap (·.fallback)).foldl t.put env

end TypedOptions

/-! ### What is read -/

/-- A value of the command line counts before all others. -/
theorem Matches.value?_cons (m : Matches) (name other : String) (v : ArgValue) :
    value? (⟨name, .commandLine, [v]⟩ :: m) other = if name = other then some v
    else value? m other := by
  unfold value? values named
  by_cases h : name = other <;> simp [h]

/-- The part of a command line that gives an argument a value. -/
def Matches.part (name : String) (v : Option ArgValue) : Matches :=
  v.toList.map fun v => ⟨name, .commandLine, [v]⟩

theorem Matches.value?_part (m : Matches) (name other : String) (v : Option ArgValue) :
    value? (part name v ++ m) other = if name = other then v.or (value? m other)
    else value? m other := by
  cases v with
  | none => simp [part]
  | some v => simpa [part] using value?_cons m name other v

theorem Reading.given_of_add {r r' : Reading} {source : ArgSource} {a : Argument} {text : String}
    (h : r.add source a [text] = .ok r') :
    ∃ v, a.kind.read text = .ok v ∧ r'.given = r.given ++ [⟨a.name, source, [v]⟩] := by
  unfold Reading.add at h
  cases hv : a.kind.read text with
  | ok v =>
    simp only [List.mapM_cons, List.mapM_nil, hv] at h
    refine ⟨v, rfl, ?_⟩
    split at h
    · cases h; rfl
    · split at h
      · cases h
      · cases h; rfl
  | error e =>
    simp only [List.mapM_cons, hv] at h
    split at h
    · cases h
    · split at h <;> cases h

namespace TypedOptions

variable {t : TypedOptions}

theorem given_of_take {r r' : Reading} {a : Argument} (h : t.take r a = .ok r') :
    ∃ v, v.map .ok = (a.fallback.bind t.text?).map a.kind.read ∧
      r'.given = r.given ++ Matches.part a.name v := by
  unfold take at h
  split at h
  · next text htext =>
    obtain ⟨v, hv, hgiven⟩ := Reading.given_of_add h
    exact ⟨some v, by rw [htext, Option.map_some, Option.map_some, hv], hgiven⟩
  · next htext =>
    cases h
    exact ⟨none, by rw [htext]; rfl, (List.append_nil _).symm⟩

/-- Arguments of different names are read each from its own text. -/
theorem given_of_foldlM {args : List Argument} (hnames : (args.map (·.name)).Nodup) {r r' : Reading}
    (h : args.foldlM t.take r = .ok r') :
    ∃ m : Matches, r'.given = r.given ++ m ∧ ∀ name, (m.value? name).map .ok =
      (args.find? (·.name = name)).bind fun a => (a.fallback.bind t.text?).map a.kind.read := by
  induction args generalizing r with
  | nil => exact ⟨[], by cases h; exact (List.append_nil _).symm, fun _ => rfl⟩
  | cons a args ih =>
    obtain ⟨hfresh, hnames⟩ := List.nodup_cons.1 hnames
    rw [List.foldlM_cons] at h
    cases htake : t.take r a with
    | error e => rw [htake] at h; cases h
    | ok r₁ =>
      rw [htake] at h
      obtain ⟨v, hv, hgiven⟩ := given_of_take htake
      obtain ⟨m, hrest, hvalues⟩ := ih hnames h
      refine ⟨Matches.part a.name v ++ m, by rw [hrest, hgiven, List.append_assoc], fun name => ?_⟩
      rw [Matches.value?_part, List.find?_cons]
      by_cases hname : a.name = name
      · -- no later argument has this name, so what is read for it comes from here
        have hnone : m.value? name = none := by
          have hfind : args.find? (·.name = name) = none :=
            List.find?_eq_none.2 fun b hb hbn =>
              hfresh (List.mem_map.2 ⟨b, hb, (of_decide_eq_true hbn).trans hname.symm⟩)
          have hvalue := hvalues name
          rw [hfind] at hvalue
          exact Option.map_eq_none_iff.1 hvalue
        simp [hname, hnone, hv]
      · simp [hname, hvalues name]

theorem value?_of_read {m : Matches} (h : t.read = .ok m) (name : String) :
    (m.value? name).map .ok =
      (globalArguments.find? (·.name = name)).bind fun a => (a.fallback.bind t.text?).map
        a.kind.read := by
  obtain ⟨r, hfold, rfl⟩ := exists_of_map_eq_ok h
  obtain ⟨m, hgiven, hvalues⟩ := given_of_foldlM (by decide) hfold
  rw [hgiven]
  exact hvalues name

end TypedOptions

/-! ### What is set -/

theorem Variable.name_injective {v w : Variable} (h : v.name = w.name) : v = w := by
  cases v <;> cases w <;> first | rfl | exact absurd h (by decide)

namespace TypedOptions

variable {t : TypedOptions} {env : Environment} {v : Variable}

theorem get?_put (w : Variable) : (t.put env w).get? v.name =
    if v = w then (t.text? w).or (env.get? v.name) else env.get? v.name := by
  unfold put
  cases t.text? w with
  | none => simp
  | some text =>
    by_cases h : v = w
    · simp [h]
    · have hname : v.name ≠ w.name := fun hname => h (Variable.name_injective hname)
      simp [h, hname]

/-- What is typed for a variable counts before its value. -/
theorem get?_into : (t.into env).get? v.name = (t.text? v).or (env.get? v.name) := by
  show (t.put (t.put (t.put (t.put env .url) .variant) .sessionFile) .timeout).get? v.name = _
  simp only [get?_put]
  cases v <;> simp [text?]

end TypedOptions

/-! ### What it means -/

namespace ArgValue

/-- The URL that a value is. -/
def url? : ArgValue → Option Url
  | url u => some u
  | _ => none

/-- The console that a value names. -/
def variant? : ArgValue → Option Variant
  | variant v => some v
  | _ => none

/-- The text that a value is. -/
def text? : ArgValue → Option String
  | text s => some s
  | _ => none

/-- The unsigned number that a value is. -/
def word? : ArgValue → Option UInt64
  | word n => some n
  | _ => none

end ArgValue

theorem Matches.overrides_eq (m : Matches) : m.overrides =
    { base := (m.value? "url").bind ArgValue.url?
      variant := (m.value? "variant").bind ArgValue.variant?
      sessionFile := (m.value? "session-file").bind ArgValue.text?
      timeout := (m.value? "timeout").bind ArgValue.word? } := by
  unfold overrides url? text? word?
  congr 1
  · cases m.value? "url" with
    | none => rfl
    | some v => cases v <;> rfl
  · cases m.value? "variant" with
    | none => rfl
    | some v => cases v <;> rfl
  · cases m.value? "session-file" with
    | none => rfl
    | some v => cases v <;> rfl
  · cases m.value? "timeout" with
    | none => rfl
    | some v => cases v <;> rfl

namespace TypedOptions

variable {t : TypedOptions} {o : Overrides} {env : Environment}

/-- What is typed for the options is what the settings would read if it were set, and
nothing of it is blank. -/
structure Means (t : TypedOptions) (o : Overrides) : Prop where
  base : t.url.map (Settings.readUrl .url) = o.base.map .ok
  variant : t.variant.map Settings.readVariant = o.variant.map .ok
  sessionFile : t.sessionFile = o.sessionFile
  timeout : t.timeout.map (Settings.readNumber .timeout) = o.timeout.map .ok
  visible : ∀ v s, t.text? v = some s → allBlank s = false

theorem read_url {s : String} {v : ArgValue} (h : ArgKind.url.read s = .ok v) :
    ∃ u, v.url? = some u ∧ Settings.readUrl .url s = .ok u ∧ allBlank s = false := by
  unfold ArgKind.read at h
  cases hs : Url.parse s with
  | error fault => rw [hs] at h; cases h
  | ok u =>
    rw [hs] at h
    cases h
    exact ⟨u, rfl, by rw [Settings.readUrl, hs]; rfl, Url.not_blank_of_parse hs⟩

theorem read_variant {s : String} {v : ArgValue} (h : ArgKind.variant.read s = .ok v) :
    ∃ w, v.variant? = some w ∧ Settings.readVariant s = .ok w ∧ allBlank s = false := by
  unfold ArgKind.read at h
  cases hs : Variant.ofText? s with
  | error fault => rw [hs] at h; cases h
  | ok w =>
    rw [hs] at h
    cases h
    exact ⟨w, rfl, by rw [Settings.readVariant, hs]; rfl, Variant.not_blank_of_ofText? hs⟩

theorem read_path {s : String} {v : ArgValue} (h : ArgKind.path.read s = .ok v) : v = .text s := by
  change (if s.isEmpty then Except.error UsageFault.emptyValue
    else .ok (ArgValue.text s)) = .ok v at h
  split at h
  · cases h
  · cases h; rfl

theorem read_word {s : String} {v : ArgValue} (h : ArgKind.word.read s = .ok v) :
    ∃ n, v.word? = some n ∧ Settings.readNumber .timeout s = .ok n ∧ allBlank s = false := by
  unfold ArgKind.read at h
  cases hs : readUInt64? s.toList with
  | none => rw [hs] at h; cases h
  | some n =>
    rw [hs] at h
    cases h
    obtain ⟨hne, hchars⟩ := numeral_of_readUInt64? hs
    refine ⟨n, rfl, by rw [Settings.readNumber, trim_eq_self hchars, hs], ?_⟩
    obtain ⟨c, cs, hcs⟩ := List.exists_cons_of_ne_nil hne
    rw [hcs] at hchars
    rw [allBlank, hcs, List.all_cons, hchars c List.mem_cons_self]
    rfl

/-- What is read for an option is what the settings read, if that holds of every value of its
kind. -/
theorem overridden {α : Type} {kind : ArgKind} {valueOf? : ArgValue → Option α}
    {read : String → Except SettingsError α} (hkind : ∀ {s v}, kind.read s = .ok v →
      ∃ a, valueOf? v = some a ∧ read s = .ok a ∧ allBlank s = false)
    {text : Option String} {value : Option ArgValue}
    (h : value.map Except.ok = text.map kind.read) :
    text.map read = (value.bind valueOf?).map .ok ∧ ∀ s, text = some s → allBlank s = false := by
  cases text with
  | none =>
    rw [Option.map_eq_none_iff.1 h]
    exact ⟨rfl, fun s hs => nomatch hs⟩
  | some s =>
    obtain ⟨v, hvalue, hv⟩ := Option.map_eq_some_iff.1 h
    obtain ⟨a, ha, hread, hvisible⟩ := hkind hv.symm
    refine ⟨?_, fun s' hs' => by cases hs'; exact hvisible⟩
    rw [hvalue, Option.bind_some, ha, Option.map_some, Option.map_some, hread]

/-- What a command line reads without a fault, the settings read in the same way. -/
theorem means_of_read {m : Matches} (h : t.read = .ok m)
    (hfile : ∀ s ∈ t.sessionFile, allBlank s = false) :
    t.Means m.overrides := by
  have hurl : (m.value? "url").map Except.ok = t.url.map ArgKind.url.read := value?_of_read h "url"
  have hvariant : (m.value? "variant").map Except.ok = t.variant.map ArgKind.variant.read :=
    value?_of_read h "variant"
  have hpath : (m.value? "session-file").map Except.ok = t.sessionFile.map ArgKind.path.read :=
    value?_of_read h "session-file"
  have htimeout : (m.value? "timeout").map Except.ok = t.timeout.map ArgKind.word.read :=
    value?_of_read h "timeout"
  obtain ⟨hbase, hbaseVisible⟩ := overridden read_url hurl
  obtain ⟨hvariant, hvariantVisible⟩ := overridden read_variant hvariant
  obtain ⟨htimeout, htimeoutVisible⟩ := overridden read_word htimeout
  rw [Matches.overrides_eq]
  refine ⟨hbase, hvariant, ?_, htimeout, fun v s hs => ?_⟩
  · cases hs : t.sessionFile with
    | none =>
      rw [hs] at hpath
      rw [Option.map_eq_none_iff.1 hpath]
      rfl
    | some s =>
      rw [hs] at hpath
      obtain ⟨v, hvalue, hv⟩ := Option.map_eq_some_iff.1 hpath
      rw [hvalue, read_path hv.symm]
      rfl
  · cases v with
    | url => exact hbaseVisible s hs
    | variant => exact hvariantVisible s hs
    | sessionFile => exact hfile s hs
    | timeout => exact htimeoutVisible s hs
    | _ => cases hs

/-- What is typed for a variable counts before its value, and is not blank. -/
theorem value?_into {v : Variable} (hvisible : ∀ s, t.text? v = some s → allBlank s = false) :
    Settings.value? (t.into env) v = (t.text? v).or (Settings.value? env v) := by
  rw [Settings.value?, get?_into]
  cases hs : t.text? v with
  | none => rfl
  | some s => simp [hvisible s hs]

end TypedOptions

end SigningConsole
