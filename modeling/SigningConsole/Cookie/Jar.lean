import SigningConsole.Cookie.Basic
/-!
The cookies of a browser session: the jar it sends, the token that rotates beside it, and what a
server's `Set-Cookie` does to both.

The cookie `Xsrf-Token` replaces the token; every other cookie goes into the jar, or leaves it when
the server lets it expire.
-/

namespace SigningConsole

open Text

/-- The cookies of a session by name. -/
abbrev Jar := StringMap String

namespace Cookie

/-- The cookie in which the browser console keeps its token. -/
def sessionName : String := "Signatrust"

/-- The session cookie of the backend. -/
def backendName : String := "signatrust"

/-- The cookie with the token that rotates. -/
def tokenName : String := "Xsrf-Token"

/-- The first value that is not empty of a name in a `Cookie` header. -/
def find? (header name : String) : Option String :=
  ((pairs header).find? fun (n, v) => n == name && !v.isEmpty).map (·.2)

/-- The cookie that hands a token to the browser console, for the whole site. -/
def ofToken (token : String) (domain : Option String) (maxAge : Option Int) : Cookie where
  name := sessionName
  value := token
  path := some "/"
  domain := domain
  maxAge := maxAge

/-- The cookie that takes the token away from the browser console. -/
def cleared (domain : Option String) : Cookie := ofToken "null" domain (some 0)

end Cookie

namespace Jar

/-- The `Cookie` header of a jar. -/
def header (jar : Jar) : String :=
  String.ofList (joinAll [';', ' '] (jar.entries.map fun (n, v) => n.toList ++ '=' :: v.toList))

end Jar

/-- A token and the jar beside it. -/
structure Credential where
  token : String
  jar : Jar

namespace Credential

/-- Takes in one cookie that a server sets, and says whether anything changed. -/
def set (c : Credential) (name value : String) (maxAge : Option Nat) : Credential × Bool :=
  let expired := value.isEmpty || maxAge == some 0
  if name = Cookie.tokenName then
    if expired || c.token == value then (c, false) else ({ c with token := value }, true)
  else if expired then ({ c with jar := c.jar.erase name }, (c.jar.get? name).isSome)
  else ({ c with jar := c.jar.insert name value }, c.jar.get? name != some value)

/-- Takes in a `Set-Cookie` value; one that cannot be read changes nothing. -/
def absorb (c : Credential) (raw : String) : Credential × Bool :=
  match Cookie.parse? raw with
  | some (name, value, maxAge) => c.set name value maxAge
  | none => (c, false)

/-- What is said to have changed has changed. -/
theorem set_changed_iff (c : Credential) (name value : String) (maxAge : Option Nat) :
    (c.set name value maxAge).2 = true ↔ (c.set name value maxAge).1 ≠ c := by
  have hjar : ∀ jar : Jar, ({ c with jar := jar } : Credential) = c ↔ jar = c.jar := by
    intro jar
    exact ⟨congrArg Credential.jar, fun h => by rw [h]⟩
  unfold set
  dsimp only
  split
  · split
    · simp
    · next hsame =>
      have hne : ({ c with token := value } : Credential) ≠ c := by
        intro h
        have htoken : value = c.token := congrArg Credential.token h
        simp [htoken] at hsame
      simp [hne]
  · split
    · rw [Ne, hjar, StringMap.erase_eq_iff, Option.isSome_iff_ne_none]
    · rw [Ne, hjar, StringMap.insert_eq_iff, bne_iff_ne]

theorem absorb_changed_iff (c : Credential) (raw : String) :
    (c.absorb raw).2 = true ↔ (c.absorb raw).1 ≠ c := by
  unfold absorb
  split
  · exact set_changed_iff c _ _ _
  · simp

end Credential

end SigningConsole
