import SigningConsole.Proofs.CookieLifetime
import SigningConsole.Session.Basic
/-!
What is left of the cookies that a server sets one after the other: the last word on each name.

A `Set-Cookie` text bears on one name. For the token it is a new value, unless the cookie ends; for
a name of the jar it is what the jar has from now on, a value or nothing (`Credential.absorb_token`,
`Credential.absorb_jar`). After any number of texts the last of them that bears on a name has
therefore decided about it. A text that has been taken in changes nothing when it comes again, and
reports no change (`Credential.absorb_again`).

Main statements: `Credential.absorb_again`, `Credential.absorbAll_token`,
`Credential.absorbAll_jar`, `Credential.last_cookie_decides`.
-/

namespace SigningConsole

namespace Cookie

/-- What the cookies of a name say one after the other: a value, or none where the cookie ends.
Texts that cannot be read say nothing. -/
def said (name : String) (raws : List String) : List (Option String) :=
  (raws.filterMap setting?).filterMap fun e => if e.1 = name then some e.2 else none

/-- Each text adds what it says of the name. -/
theorem said_eq (name : String) (raws : List String) :
    said name raws = raws.filterMap fun raw => (setting? raw).bind
      fun e => if e.1 = name then some e.2 else none :=
  List.filterMap_filterMap

end Cookie

namespace Credential

/-- The credential after `Set-Cookie` texts in order. -/
def absorbAll (c : Credential) (raws : List String) : Credential :=
  raws.foldl (fun c raw => (c.absorb raw).1) c

/-! ## One text -/

theorem absorb_of_unread {raw : String} (h : Cookie.setting? raw = none) (c : Credential) :
    c.absorb raw = (c, false) := by
  rw [Cookie.setting?_eq] at h
  have hparse : Cookie.parse? raw = none := Option.map_eq_none_iff.1 h
  unfold absorb
  rw [hparse]

/-- What a text that can be read does is what it says of its cookie. -/
theorem absorb_of_setting {raw name : String} {value : Option String}
    (h : Cookie.setting? raw = some (name, value)) :
    ∃ text age, (value = if text.isEmpty || age == some 0 then none else some text) ∧
      ∀ c : Credential, c.absorb raw = c.set name text age := by
  rw [Cookie.setting?_eq] at h
  obtain ⟨⟨name', text, age⟩, hparse, hcookie⟩ := Option.map_eq_some_iff.1 h
  obtain ⟨rfl, rfl⟩ := Prod.mk.inj hcookie
  refine ⟨text, age, rfl, fun c => ?_⟩
  unfold absorb
  rw [hparse]

/-- A cookie with the token's name replaces the token and reports it, unless it ends or
says what is there. -/
theorem absorb_of_token {raw : String} {value : Option String}
    (h : Cookie.setting? raw = some (Cookie.tokenName, value)) (c : Credential) :
    c.absorb raw = if value.getD c.token = c.token then (c, false)
    else ({ c with token := value.getD c.token }, true) := by
  obtain ⟨text, age, hvalue, habsorb⟩ := absorb_of_setting h
  rw [habsorb]
  unfold set
  dsimp only
  by_cases hends : (text.isEmpty || age == some 0) = true
  · rw [if_pos hends] at hvalue
    subst hvalue
    simp [hends]
  · rw [if_neg hends] at hvalue
    subst hvalue
    by_cases hsame : text = c.token
    · simp [hsame]
    · simp [hends, hsame, Ne.symm hsame]

/-- Another cookie puts its value into the jar, or takes its name out, and reports whether the jar
had something else. -/
theorem absorb_of_name {raw name : String} {value : Option String}
    (h : Cookie.setting? raw = some (name, value)) (hname : name ≠ Cookie.tokenName)
    (c : Credential) :
    c.absorb raw = ({ c with jar := value.elim (c.jar.erase name) (c.jar.insert name) },
      c.jar.get? name != value) := by
  obtain ⟨text, age, rfl, habsorb⟩ := absorb_of_setting h
  rw [habsorb]
  unfold set
  dsimp only
  rw [if_neg hname]
  by_cases hends : (text.isEmpty || age == some 0) = true
  · rw [if_pos hends, if_pos hends]
    rcases c.jar.get? name with _ | v <;> rfl
  · rw [if_neg hends, if_neg hends]
    rfl

/-- Texts that say the same do the same. -/
theorem absorb_congr {raw raw' : String} (h : Cookie.setting? raw = Cookie.setting? raw')
    (c : Credential) :
    c.absorb raw = c.absorb raw' := by
  rcases hsetting : Cookie.setting? raw' with _ | ⟨name, value⟩
  · rw [absorb_of_unread hsetting, absorb_of_unread (h.trans hsetting)]
  · by_cases hname : name = Cookie.tokenName
    · subst hname
      rw [absorb_of_token hsetting, absorb_of_token (h.trans hsetting)]
    · rw [absorb_of_name hsetting hname, absorb_of_name (h.trans hsetting) hname]

/-- What is in the jar under the name of a cookie is what the cookie says. -/
theorem get?_elim (jar : Jar) (name : String) (value : Option String) (k : String) :
    (value.elim (jar.erase name) (jar.insert name)).get? k = if k = name then value
    else jar.get? k := by
  rcases value with _ | v
  · exact StringMap.get?_erase jar k name
  · exact StringMap.get?_insert jar k name v

/-- The token is what a cookie of its name says, or else what it was. -/
theorem absorb_token (c : Credential) (raw : String) :
    (c.absorb raw).1.token =
      ((Cookie.setting? raw).bind fun e => if e.1 = Cookie.tokenName then e.2
        else none).getD c.token := by
  rcases h : Cookie.setting? raw with _ | ⟨name, value⟩
  · rw [absorb_of_unread h]
    rfl
  · by_cases hname : name = Cookie.tokenName
    · subst hname
      rw [absorb_of_token h, Option.bind_some, if_pos rfl]
      by_cases hsame : value.getD c.token = c.token
      · rw [if_pos hsame, hsame]
      · rw [if_neg hsame]
    · rw [absorb_of_name h hname, Option.bind_some, if_neg hname]
      rfl

/-- Under another name the jar has what a cookie of this name says, or else what it had. -/
theorem absorb_jar (c : Credential) (raw : String) {name : String}
    (hname : name ≠ Cookie.tokenName) :
    (c.absorb raw).1.jar.get? name =
      ((Cookie.setting? raw).bind fun e => if e.1 = name then some e.2 else none).getD
        (c.jar.get? name) := by
  rcases h : Cookie.setting? raw with _ | ⟨name', value⟩
  · rw [absorb_of_unread h]
    rfl
  · rw [Option.bind_some]
    dsimp only
    by_cases htoken : name' = Cookie.tokenName
    · subst htoken
      rw [absorb_of_token h, if_neg (Ne.symm hname)]
      split <;> rfl
    · rw [absorb_of_name h htoken]
      dsimp only
      rw [get?_elim]
      by_cases hsame : name' = name
      · simp [hsame]
      · simp [hsame, Ne.symm hsame]

/-- An entry of the jar under the token's name stays. -/
theorem absorb_jar_token (c : Credential) (raw : String) :
    (c.absorb raw).1.jar.get? Cookie.tokenName = c.jar.get? Cookie.tokenName := by
  rcases h : Cookie.setting? raw with _ | ⟨name, value⟩
  · rw [absorb_of_unread h]
  · by_cases hname : name = Cookie.tokenName
    · subst hname
      rw [absorb_of_token h]
      split <;> rfl
    · rw [absorb_of_name h hname]
      dsimp only
      rw [get?_elim, if_neg (Ne.symm hname)]

theorem eq_of_get? {c d : Credential} (htoken : c.token = d.token)
    (hjar : ∀ name, c.jar.get? name = d.jar.get? name) :
    c = d := by
  obtain ⟨token, jar⟩ := c
  obtain ⟨token', jar'⟩ := d
  obtain rfl : token = token' := htoken
  obtain rfl : jar = jar' := StringMap.ext_get? hjar
  rfl

/-- A text that has been taken in changes nothing when it comes again. -/
theorem absorb_again (c : Credential) (raw : String) :
    (c.absorb raw).1.absorb raw = ((c.absorb raw).1, false) := by
  have htwice : ∀ {α : Type} (o : Option α) (a : α), o.getD (o.getD a) = o.getD a := by
    intro α o a
    rcases o with _ | b <;> rfl
  have hsame : ((c.absorb raw).1.absorb raw).1 = (c.absorb raw).1 := by
    refine eq_of_get? ?_ fun name => ?_
    · rw [absorb_token (c.absorb raw).1, absorb_token c, htwice]
    · by_cases hname : name = Cookie.tokenName
      · rw [hname, absorb_jar_token]
      · rw [absorb_jar (c.absorb raw).1 raw hname, absorb_jar c raw hname, htwice]
  have hquiet : ((c.absorb raw).1.absorb raw).2 = false :=
    Bool.eq_false_iff.2 fun hchanged => (absorb_changed_iff _ raw).1 hchanged hsame
  exact Prod.ext hsame hquiet

/-! ## A run of texts -/

/-- The token is the last one that a cookie of its name has given, or else the old one. -/
theorem absorbAll_token (c : Credential) (raws : List String) :
    (c.absorbAll raws).token = ((Cookie.said Cookie.tokenName raws).filterMap id).getLast?.getD
      c.token := by
  have hwrites :
      (fun raw => (Cookie.setting? raw).bind fun e => if e.1 = Cookie.tokenName then e.2
        else none) = fun raw =>
          ((Cookie.setting? raw).bind fun e => if e.1 = Cookie.tokenName then some e.2
            else none).bind id := by
    funext raw
    rcases Cookie.setting? raw with _ | e
    · rfl
    · rw [Option.bind_some, Option.bind_some]
      split <;> rfl
  unfold absorbAll
  rw [foldl_last_write token absorb_token, hwrites, Cookie.said_eq, List.filterMap_filterMap]

/-- Under another name the jar has what the last cookie of this name says, or else what it had. -/
theorem absorbAll_jar (c : Credential) (raws : List String) {name : String}
    (hname : name ≠ Cookie.tokenName) :
    (c.absorbAll raws).jar.get? name = (Cookie.said name raws).getLast?.getD (c.jar.get? name) := by
  unfold absorbAll
  rw [foldl_last_write (fun d => d.jar.get? name) fun d raw => absorb_jar d raw hname,
    Cookie.said_eq]

theorem absorbAll_jar_token (c : Credential) (raws : List String) :
    (c.absorbAll raws).jar.get? Cookie.tokenName = c.jar.get? Cookie.tokenName := by
  unfold absorbAll
  induction raws generalizing c with
  | nil => rfl
  | cons raw raws ih =>
    rw [List.foldl_cons, ih, absorb_jar_token]

end Credential

/-! ## Sessions -/

namespace Session

/-- A browser session takes cookies in as its token and its jar do. -/
theorem absorbAll_of_csrf {s : Session} (h : s.kind = .csrf) (raws : List String) :
    (s.absorbAll raws).1 =
      { s with
        token := (Credential.absorbAll ⟨s.token, s.cookies⟩ raws).token
        cookies := (Credential.absorbAll ⟨s.token, s.cookies⟩ raws).jar } := by
  induction raws generalizing s with
  | nil => rfl
  | cons raw raws ih =>
    have hstep : (s.absorb raw).1 =
        { s with
          token := (Credential.absorb ⟨s.token, s.cookies⟩ raw).1.token
          cookies := (Credential.absorb ⟨s.token, s.cookies⟩ raw).1.jar } := by
      unfold absorb
      rw [h]
    have hkind : (s.absorb raw).1.kind = .csrf := by
      rw [hstep]
      exact h
    show ((s.absorb raw).1.absorbAll raws).1 = _
    rw [ih hkind, hstep]
    rfl

/-- Cookies leave an API key as it is. -/
theorem absorbAll_of_apiKey {s : Session} (h : s.kind = .apiKey) (raws : List String) :
    s.absorbAll raws = (s, false) := by
  induction raws with
  | nil => rfl
  | cons raw raws ih =>
    have hstep : s.absorb raw = (s, false) := by
      unfold absorb
      rw [h]
    unfold absorbAll
    rw [hstep]
    dsimp only
    rw [ih]
    rfl

end Session

namespace Credential

/-- After any number of `Set-Cookie` texts the last readable one of a name has decided about this
name, and about the token the last one of its name that does not end. A step reports a change if
there is one, and a text that comes again at once makes none. A browser session changes as its token
and its jar do, an API key never. -/
theorem last_cookie_decides (c : Credential) (raws : List String) :
    (c.absorbAll raws).token =
      ((Cookie.said Cookie.tokenName raws).filterMap id).getLast?.getD c.token ∧
    (∀ name, name ≠ Cookie.tokenName →
      (c.absorbAll raws).jar.get? name = (Cookie.said name raws).getLast?.getD (c.jar.get? name)) ∧
    (c.absorbAll raws).jar.get? Cookie.tokenName = c.jar.get? Cookie.tokenName ∧
    (∀ raw, ((c.absorb raw).2 = true ↔ (c.absorb raw).1 ≠ c) ∧
      (c.absorb raw).1.absorb raw = ((c.absorb raw).1, false)) ∧
    (∀ s : Session, s.kind = .csrf → s.token = c.token → s.cookies = c.jar →
      (s.absorbAll raws).1 =
        { s with token := (c.absorbAll raws).token, cookies := (c.absorbAll raws).jar }) ∧
    ∀ s : Session, s.kind = .apiKey → s.absorbAll raws = (s, false) := by
  refine ⟨absorbAll_token c raws, fun name hname => absorbAll_jar c raws hname,
    absorbAll_jar_token c raws, fun raw => ⟨absorb_changed_iff c raw, absorb_again c raw⟩,
    fun s hkind htoken hcookies => ?_, fun s hkind => Session.absorbAll_of_apiKey hkind raws⟩
  obtain ⟨token, jar⟩ := c
  subst htoken hcookies
  exact Session.absorbAll_of_csrf hkind raws

/-- A lifetime that is no number does not save a cookie, and of two lifetimes the
second one counts. -/
theorem last_cookie_decides_among_eight :
    let jar : Jar := StringMap.ofList [("signatrust", "sess"), ("Xsrf-Token", "x0")]
    let c : Credential := ⟨"x1", jar⟩
    let s : Session := { token := "x1", kind := .csrf, cookies := jar }
    let raws :=
      ["sid=a; Path=/", "Xsrf-Token=x2; Max-Age=60", "sid=b; Max-Age=0; Max-Age=soon",
        "Xsrf-Token=; Path=/", "q= 1=1 ; max-age=-5; MAX-AGE=60", "=nothing",
        "Xsrf-Token=x3; Max-Age=-1", "q"]
    (c.absorbAll raws).token = "x2" ∧ (c.absorbAll raws).jar.get? "sid" = none ∧
    (c.absorbAll raws).jar.get? "q" = some "1=1" ∧
    (c.absorbAll raws).jar.get? "signatrust" = some "sess" ∧
    (c.absorbAll raws).jar.get? "Xsrf-Token" = some "x0" ∧ (s.absorbAll raws).1.token = "x2" ∧
    (Session.ofApiKey "k1").absorbAll raws = (Session.ofApiKey "k1", false) := by
  intro jar c s raws
  obtain ⟨htoken, hjar, hkept, -, hsession, hkey⟩ := last_cookie_decides c raws
  have hsaid : ((Cookie.said Cookie.tokenName raws).filterMap id).getLast? = some "x2" ∧
      (Cookie.said "sid" raws).getLast? = some none ∧
      (Cookie.said "q" raws).getLast? = some (some "1=1") ∧
      (Cookie.said "signatrust" raws).getLast? = none := by decide +kernel
  obtain ⟨hx, hsid, hq, hsig⟩ := hsaid
  have htoken' : (c.absorbAll raws).token = "x2" := by
    rw [htoken, hx]
    rfl
  refine ⟨htoken', ?_, ?_, ?_, hkept.trans (by decide +kernel), ?_, hkey _ rfl⟩
  · rw [hjar "sid" (by decide), hsid]
    rfl
  · rw [hjar "q" (by decide), hq]
    rfl
  · rw [hjar "signatrust" (by decide), hsig]
    decide +kernel
  · rw [hsession s rfl rfl rfl]
    exact htoken'

end Credential

end SigningConsole
