import SigningConsole.Text.Base64
import SigningConsole.Url.Basic
import SigningConsole.Url.Percent
/-!
How the URL of a request goes out.

User name and password are no part of what is asked for: they become a header. What is left must be
a URI by the grammar of the protocol, which is not that of URLs. Its authority is read character by
character; path and query have characters of their own; and the whole is bounded in length. So a
URL that was read without a fault may still be one to which nothing can be sent, by a brace in its
host or by its length.
-/

namespace SigningConsole.Url

open Text

/-! ## User name and password -/

/-- User name and password as a header carries them, if there are any. A user name that is no text
hides both, a password that is no text counts as none. -/
def credentials? (u : Url) : Option (String × Option String) := do
  let user ← Utf8.toString? (decode u.username.toList)
  let password := u.password.bind fun p => Utf8.toString? (decode p.toList)
  if user.isEmpty && password.isNone then none else some (user, password)

/-- The name of the header that carries user name and password. -/
def userHeader : String := "Authorization"

/-- The headers that come of a URL. -/
def userHeaders (u : Url) : List (String × String) :=
  u.credentials?.toList.map fun (user, password) =>
    (userHeader, "Basic " ++ String.ofList
      (base64 (Utf8.ofString (user ++ ":" ++ password.getD ""))))

theorem name_of_mem_userHeaders {u : Url} {h : String × String} (hh : h ∈ u.userHeaders) :
    h.1 = userHeader := by
  obtain ⟨_, -, rfl⟩ := List.mem_map.1 hh
  rfl

theorem userHeaders_eq_nil {u : Url} (hname : u.username = "") (hpassword : u.password = none) :
    u.userHeaders = [] := by
  have hempty : Utf8.toString? (decode "".toList) = some "" := by
    simp [decode, Utf8.toString?, Utf8.decode?, Utf8.scan]
  have hnone : u.credentials? = none := by
    unfold credentials?
    rw [hname, hpassword, hempty]
    rfl
  unfold userHeaders
  rw [hnone]
  rfl

/-- The URL as it is asked for. -/
def asked (u : Url) : Url := if u.credentials?.isSome then u.withoutUser else u

/-- What is asked for is the URL or the URL without its user. -/
theorem asked_eq_or (u : Url) : u.asked = u.withoutUser ∨ u.asked = u := by
  unfold asked
  split
  · exact .inl rfl
  · exact .inr rfl

/-! ## The authority -/

/-- What a reader of an authority has met. Colons and percent signs that belong to a user name or to
an address in brackets are forgotten once it ends. -/
structure AuthorityScan where
  colons : Nat := 0
  opened : Bool := false
  closed : Bool := false
  percent : Bool := false
  /-- The last character ended the user name. -/
  userEnded : Bool := false

namespace AuthorityScan

/-- As many colons as an address in brackets and its port have at most. -/
def maxColons : Nat := 8

/-- Whether the character may stand in an authority wherever it likes. -/
def isPlain (c : Char) : Bool := c.isAlphanum || "!$&'()*+,-.;=_~".toList.contains c

/-- Reads one more character. -/
def next? (s : AuthorityScan) (c : Char) : Option AuthorityScan :=
  match c with
  | ':' => if s.colons < maxColons then
        some { s with colons := s.colons + 1, userEnded := false } else none
  | '[' => if s.percent || s.opened then none else
        some { s with opened := true, userEnded := false }
  | ']' =>
    if s.opened && !s.closed then
      some { s with closed := true, colons := 0, percent := false, userEnded := false }
    else none
  | '@' => some { s with colons := 0, percent := false, userEnded := true }
  | '%' => some { s with percent := true, userEnded := false }
  | c => if isPlain c then some { s with userEnded := false } else none

/-- Whether the authority may end here. -/
def mayEnd (s : AuthorityScan) : Bool :=
  s.opened == s.closed && s.colons ≤ 1 && !s.userEnded && !s.percent

end AuthorityScan

/-- Whether the characters are an authority. -/
def isAuthority (cs : List Char) : Bool :=
  !cs.isEmpty && (cs.foldlM AuthorityScan.next? {}).any AuthorityScan.mayEnd

/-! ## Path and query -/

/-- Whether the character may stand in a path as it is asked for. -/
def isPathChar (c : Char) : Bool :=
  let n := c.toNat
  n == 0x21 || n == 0x22 || (0x24 ≤ n && n ≤ 0x3B) || n == 0x3D ||
  (0x40 ≤ n && n ≤ 0x5F) || 0x61 ≤ n

/-- Whether the character may stand in a query as it is asked for. -/
def isQueryChar (c : Char) : Bool :=
  let n := c.toNat
  n == 0x21 || (0x24 ≤ n && n ≤ 0x3B) || n == 0x3D || 0x3F ≤ n

/-- Whether what comes after the authority can be asked for; a fragment is not. -/
def isPathAndQuery (cs : List Char) : Bool :=
  let path := cs.takeWhile fun c => c != '?' && c != '#'
  path.all isPathChar &&
    match cs.drop path.length with
    | '?' :: query => (query.takeWhile (· != '#')).all isQueryChar
    | _ => true

/-! ## The whole -/

/-- The greatest number of bytes in a URI. -/
def maxUriBytes : Nat := 65534

/-- Whether the URL, which begins with its scheme and two slashes, is a URI. -/
def isUri (u : Url) : Bool :=
  let rest := u.chars.drop (u.scheme.length + 3)
  let authority := rest.takeWhile fun c => c != '/' && c != '?' && c != '#'
  (Utf8.encode u.chars).length ≤ maxUriBytes && isAuthority authority &&
    isPathAndQuery (rest.drop authority.length)

end SigningConsole.Url
