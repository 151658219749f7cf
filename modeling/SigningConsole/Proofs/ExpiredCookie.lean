import SigningConsole.Calendar.Display
import SigningConsole.Proofs.JarHeader
import SigningConsole.Proofs.LastCookie
/-!
When a cookie that its server sets is not in the jar afterwards.

A server has three ways to end a cookie: a value that is empty, a lifetime that is over, and a date
of expiry that is past. The first two take the cookie out of the jar. The date is not read: with it
a text says what it says without it (`Cookie.lastAge?_expires`), so a cookie that has nothing else
against it stays, however long ago it expired.

Main statements: `Cookie.setting?_setText`, `Credential.expiry_date_unheeded`,
`Credential.expired_cookie_kept`.
-/

namespace SigningConsole

open Calendar Text

/-! ## Dates of expiry -/

namespace Calendar

/-- The days of the week, from that of 1970-01-01 on. -/
def weekdays : List String := ["Thu", "Fri", "Sat", "Sun", "Mon", "Tue", "Wed"]

/-- The months of the year. -/
def months : List String :=
  ["Jan", "Feb", "Mar", "Apr", "May", "Jun", "Jul", "Aug", "Sep", "Oct", "Nov", "Dec"]

/-- The text of an instant in a header, such as `Thu, 01 Jan 1970 00:00:00 GMT`. -/
def Instant.httpDate (t : Instant) : List Char :=
  let c := t.civil
  (weekdays.getD (t.seconds.fdiv 86400 % 7).toNat "").toList ++ ',' :: ' ' ::
    (twoDigits c.date.day ++ ' ' :: ((months.getD (c.date.month - 1) "").toList ++
      ' ' :: (yearText c.date.year ++ ' ' :: (c.clock ++ [' ', 'G', 'M', 'T']))))

/-- No name of a list that is looked up by number has a character that none of them has. -/
theorem not_mem_getD {c : Char} (names : List String)
    (h : ∀ name ∈ names, c ∉ name.toList) (n : Nat) :
    c ∉ (names.getD n "").toList := by
  rw [List.getD_eq_getElem?_getD]
  rcases hn : names[n]? with _ | name
  · exact List.not_mem_nil
  · exact h name (List.mem_of_getElem? hn)

theorem not_mem_zeroPad {c : Char} (h : c.isDigit = false) (w n : Nat) :
    c ∉ zeroPad w (decimal n) := by
  intro hc
  rw [isDigit_of_mem_zeroPad hc] at h
  cases h

theorem semicolon_not_mem_yearText (year : Int) : ';' ∉ yearText year := by
  have hdigits := not_mem_zeroPad (c := ';') (by decide) 4
  unfold yearText
  split
  · exact hdigits _
  · split <;> simp [hdigits]

/-- A date of expiry is one attribute. -/
theorem Instant.semicolon_not_mem_httpDate (t : Instant) : ';' ∉ t.httpDate := by
  have hdigits : ∀ n, ';' ∉ twoDigits n := not_mem_zeroPad (by decide) 2
  have hweekday : ∀ n, ';' ∉ (weekdays.getD n "").toList := not_mem_getD weekdays (by decide)
  have hmonth : ∀ n, ';' ∉ (months.getD n "").toList := not_mem_getD months (by decide)
  unfold httpDate Civil.clock
  simp [hdigits, hweekday, hmonth, semicolon_not_mem_yearText, -List.getD_eq_getElem?_getD]

end Calendar

/-! ## Texts that set a cookie -/

namespace Cookie

/-- The `Set-Cookie` text of a name and a value with further attributes. -/
def setText (name value : String) (attributes : List (List Char)) : String :=
  String.ofList (joinAll [';', ' '] ((name.toList ++ '=' :: value.toList) :: attributes))

/-- The attribute with a date of expiry. -/
def expires (date : List Char) : List Char := "Expires".toList ++ '=' :: date

theorem semicolon_not_mem_expires {date : List Char} (h : ';' ∉ date) : ';' ∉ expires date := by
  unfold expires
  simp [h]

theorem maxAge?_blank (part : List Char) : maxAge? (' ' :: part) = maxAge? part := by
  have hnamed : ∀ name, isNamed "max-age" (' ' :: name) = isNamed "max-age" name := by
    intro name
    unfold isNamed
    rw [trim_cons_blank (by decide)]
  unfold maxAge?
  rw [splitFirst?, if_neg (by decide), Option.bind_map]
  refine Option.bind_congr fun cut _ => ?_
  rw [Function.comp_apply, hnamed]

/-- The last lifetime is the same behind the blanks that the attributes are joined with. -/
theorem lastAge?_blank (parts : List (List Char)) :
    lastAge? (parts.map (' ' :: ·)) = lastAge? parts := by
  unfold lastAge?
  rw [List.filterMap_map]
  simp only [Function.comp_def, maxAge?_blank]

/-- A date of expiry among the attributes does not count. -/
theorem lastAge?_expires (before after : List (List Char)) (date : List Char) :
    lastAge? (before ++ expires date :: after) = lastAge? (before ++ after) := by
  have hother : maxAge? (expires date) = none := by
    unfold maxAge? expires
    rw [splitFirst?_append (by decide)]
    rfl
  unfold lastAge?
  rw [List.filterMap_append, List.filterMap_append, List.filterMap_cons_none (by rw [hother]; rfl)]

theorem lastAge?_ended (attributes : List (List Char)) :
    lastAge? (attributes ++ ["Max-Age=0".toList]) = some 0 := by
  have hzero :
      ["Max-Age=0".toList].filterMap (fun part => (maxAge? part).bind seconds?) = [0] := by decide
  unfold lastAge?
  rw [List.filterMap_append, hzero, List.getLast?_concat]

variable {name value : String} {attributes : List (List Char)}

/-- The text is cut where it was joined. -/
theorem splitAll_setText (hname : ';' ∉ name.toList) (hvalue : ';' ∉ value.toList)
    (hattributes : ∀ a ∈ attributes, ';' ∉ a) :
    splitAll ';' (setText name value attributes).toList =
      (name.toList ++ '=' :: value.toList) :: attributes.map (' ' :: ·) := by
  have hpair : ';' ∉ name.toList ++ '=' :: value.toList := by
    simp [hname, hvalue]
  unfold setText
  rw [String.toList_ofList]
  exact splitAll_joinAll (by decide) (List.forall_mem_cons.2 ⟨hpair, hattributes⟩)

/-- A text says that the cookie ends just when the value is blank or the last lifetime is zero or
less. -/
theorem setting?_setText (hname : IsPart name.toList) (hequals : '=' ∉ name.toList)
    (hvalue : ';' ∉ value.toList) (hattributes : ∀ a ∈ attributes, ';' ∉ a) :
    setting? (setText name value attributes) =
      some (name, if allBlank value || (lastAge? attributes).any
        (· ≤ 0) then none else some (trimmed value)) := by
  have hnamed : ¬name.toList.all isBlank = true := by
    rw [← trim_eq_nil_iff, hname.trimmed.trim_eq]
    exact hname.ne_nil
  unfold setting? Cookie.attributes
  rw [splitAll_setText hname.whole hvalue hattributes, List.headD_cons, List.tail_cons,
    splitFirst?_append hequals, Option.bind_some, if_neg hnamed, hname.trimmed.trim_eq,
    String.ofList_toList, lastAge?_blank]
  rfl

end Cookie

/-! ## The jar afterwards -/

namespace Credential

/-- After a text that sets a cookie the jar has what the text says of it. -/
theorem get?_absorb_setText (c : Credential) {name value : String}
    (hname : Cookie.IsPart name.toList) (hequals : '=' ∉ name.toList)
    (htoken : name ≠ Cookie.tokenName) (hvalue : ';' ∉ value.toList)
    (attributes : List (List Char)) (hattributes : ∀ a ∈ attributes, ';' ∉ a) :
    (c.absorb (Cookie.setText name value attributes)).1.jar.get? name =
      if allBlank value || (Cookie.lastAge? attributes).any
        (· ≤ 0) then none else some (trimmed value) := by
  rw [absorb_jar c _ htoken, Cookie.setting?_setText hname hequals hvalue hattributes,
    Option.bind_some, if_pos rfl]
  rfl

/-- A date of expiry among the attributes makes no difference. -/
theorem absorb_setText_expires (c : Credential) {name value : String}
    {before after : List (List Char)} {date : List Char} (hname : Cookie.IsPart name.toList)
    (hequals : '=' ∉ name.toList) (hvalue : ';' ∉ value.toList)
    (hattributes : ∀ a ∈ before ++ after, ';' ∉ a) (hdate : ';' ∉ date) :
    c.absorb (Cookie.setText name value (before ++ Cookie.expires date :: after)) =
      c.absorb (Cookie.setText name value (before ++ after)) := by
  have hdated : ∀ a ∈ before ++ Cookie.expires date :: after, ';' ∉ a := by
    intro a ha
    rcases List.mem_append.1 ha with ha | ha
    · exact hattributes a (List.mem_append_left _ ha)
    · rcases List.mem_cons.1 ha with rfl | ha
      · exact Cookie.semicolon_not_mem_expires hdate
      · exact hattributes a (List.mem_append_right _ ha)
  refine absorb_congr ?_ c
  rw [Cookie.setting?_setText hname hequals hvalue hdated, Cookie.setting?_setText hname hequals
    hvalue hattributes, Cookie.lastAge?_expires]

/-- Whatever date of expiry a server gives to a cookie, by itself or among other attributes, the jar
is as it would be without it: the cookie is there with its value, unless this is blank or the last
lifetime is zero or less. -/
theorem expiry_date_unheeded (c : Credential) {name value : String}
    (hname : Cookie.IsPart name.toList) (hequals : '=' ∉ name.toList)
    (htoken : name ≠ Cookie.tokenName) (hvalue : ';' ∉ value.toList) :
    (∀ t : Instant,
      (c.absorb (Cookie.setText name value [Cookie.expires t.httpDate])).1.jar.get? name =
        if allBlank value then none else some (trimmed value)) ∧
    ∀ attributes : List (List Char), (∀ a ∈ attributes, ';' ∉ a) →
      ((c.absorb (Cookie.setText name value attributes)).1.jar.get? name =
        if allBlank value || (Cookie.lastAge? attributes).any (· ≤ 0) then none
        else some (trimmed value)) ∧
      (c.absorb (Cookie.setText name value (attributes ++ ["Max-Age=0".toList]))).1.jar.get? name =
        none ∧
      ∀ date : List Char, ';' ∉ date → ∀ before after, before ++ after = attributes →
        c.absorb (Cookie.setText name value (before ++ Cookie.expires date :: after)) =
          c.absorb (Cookie.setText name value attributes) := by
  have hjar := get?_absorb_setText c hname hequals htoken hvalue
  refine ⟨fun t => ?_, fun attributes hattributes => ⟨hjar attributes hattributes, ?_, ?_⟩⟩
  · have hdate := Cookie.semicolon_not_mem_expires t.semicolon_not_mem_httpDate
    have hage : Cookie.lastAge? [Cookie.expires t.httpDate] = none :=
      Cookie.lastAge?_expires [] [] t.httpDate
    rw [hjar _ fun a ha => List.mem_singleton.1 ha ▸ hdate, hage, Option.any_none, Bool.or_false]
  · have hended : ∀ a ∈ attributes ++ ["Max-Age=0".toList], ';' ∉ a := by
      intro a ha
      rcases List.mem_append.1 ha with ha | ha
      · exact hattributes a ha
      · rw [List.mem_singleton.1 ha]
        decide
    rw [hjar _ hended, Cookie.lastAge?_ended]
    simp
  · rintro date hdate before after rfl
    exact absorb_setText_expires c hname hequals hvalue hattributes hdate

/-- A date changes nothing about a cookie with a lifetime left, nor about one whose lifetime is
over. -/
theorem expiry_date_unheeded_beside_lifetimes :
    let c : Credential := ⟨"x1", StringMap.ofList [("sid", "old")]⟩
    let date := "Sun, 06 Nov 1994 08:49:37 GMT".toList
    let kept := ["Path=/".toList, "Max-Age=60".toList]
    let ended := ["Max-Age=60".toList, "max-age = -1".toList]
    (c.absorb (Cookie.setText "sid" " a=b "
      ["Path=/".toList, Cookie.expires date, "Max-Age=60".toList])).1.jar.get? "sid" =
        some "a=b" ∧
    (c.absorb (Cookie.setText "sid" " a=b " (ended ++ [Cookie.expires date]))).1.jar.get? "sid" =
        none ∧
    (c.absorb (Cookie.setText "sid" " a=b " (kept ++ ["Max-Age=0".toList]))).1.jar.get? "sid" =
        none ∧
    (c.absorb (Cookie.setText "sid" " a=b "
      [Cookie.expires (default : Instant).httpDate])).1.jar.get? "sid" =
        some "a=b" := by
  intro c date kept ended
  have hname : Cookie.IsPart "sid".toList := by
    refine ⟨?_, by decide, by decide⟩
    rw [← show trim "sid".toList = "sid".toList by decide]
    exact trimmed_trim _
  have hvalue : allBlank " a=b " = false ∧ trimmed " a=b " = "a=b" := by decide +kernel
  have hwhole : ';' ∉ " a=b ".toList := by decide
  obtain ⟨hdate, hset⟩ := expiry_date_unheeded c hname (by decide) (by decide) hwhole
  obtain ⟨hkept, hzero, hkeptDate⟩ := hset kept (by decide)
  obtain ⟨hended, -, hendedDate⟩ := hset ended (by decide)
  have hages : Cookie.lastAge? kept = some 60 ∧
      Cookie.lastAge? ended = some (-1) := by decide +kernel
  refine ⟨?_, ?_, hzero, ?_⟩
  · rw [hages.1, hvalue.1, hvalue.2] at hkept
    exact (congrArg (fun r => r.1.jar.get? "sid")
      (hkeptDate date (by decide) ["Path=/".toList] _ rfl)).trans hkept
  · rw [hages.2, hvalue.1] at hended
    exact (congrArg (fun r => r.1.jar.get? "sid")
      (hendedDate date (by decide) ended [] (by simp))).trans hended
  · rw [hdate, hvalue.1, hvalue.2]
    rfl

/-- A session cookie that a server expires by a date in the past is kept, where an empty value or
no lifetime ends it. -/
theorem expired_cookie_kept :
    let c : Credential := ⟨"x1", StringMap.ofList [("signatrust", "sess")]⟩
    let past : Instant := default
    let now : Instant := ⟨1714564800, 0, by decide, by decide⟩
    let raw := Cookie.setText "signatrust" "sess" [Cookie.expires past.httpDate]
    past ≤ now ∧ raw = "signatrust=sess; Expires=Thu, 01 Jan 1970 00:00:00 GMT" ∧
    (c.absorb raw).1.jar.get? "signatrust" = some "sess" ∧
    (c.absorb (Cookie.setText "signatrust" "sess" ["Max-Age=0".toList])).1.jar.get?
      "signatrust" = none ∧
    (c.absorb (Cookie.setText "signatrust" "" [])).1.jar.get? "signatrust" = none := by
  decide +kernel

end Credential

end SigningConsole
