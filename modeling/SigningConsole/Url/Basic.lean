import SigningConsole.Url.Host
/-!
URLs taken apart, and their one written form.

A path is either a list of segments, each of which is written after a slash, or a text without a
leading slash, in which case the URL can be no base for relative ones.
-/

namespace SigningConsole.Url

open Text

/-- The path of a URL. -/
inductive Path where
  /-- Segments, each written after a slash. -/
  | segments (segs : List String)
  /-- A text that does not begin with a slash. -/
  | rootless (text : String)
deriving DecidableEq, Repr

/-- The characters of a path. -/
def Path.chars : Path → List Char
  | segments segs => segs.flatMap fun s => '/' :: s.toList
  | rootless text => text.toList

end Url

/-- A URL in its parts, each already encoded. -/
structure Url where
  scheme : String
  username : String
  /-- The password; never empty. -/
  password : Option String
  /-- The host; the empty name where `//` stands before an empty one. -/
  host : Option Url.Host
  /-- The port, unless it is the scheme's own. -/
  port : Option Nat
  path : Url.Path
  query : Option String
  fragment : Option String
deriving DecidableEq, Repr

namespace Url

open Text

/-- The port that a scheme implies. -/
def defaultPort? : String → Option Nat
  | "http" => some 80
  | "ws" => some 80
  | "https" => some 443
  | "wss" => some 443
  | "ftp" => some 21
  | _ => none

/-- Whether URLs of the scheme always have a host and treat backslashes as slashes. -/
def isSpecial (scheme : String) : Bool := scheme == "file" || (defaultPort? scheme).isSome

/-- Whether the URL can be no base for relative ones. -/
def isRootless (u : Url) : Bool :=
  match u.path with
  | .rootless _ => true
  | .segments _ => false

/-- User name and password as they stand before the host. -/
def userChars (u : Url) : List Char :=
  let password := match u.password with | some p => ':' :: p.toList | none => []
  if u.username.isEmpty && u.password.isNone then [] else u.username.toList ++ password ++ ['@']

/-- The authority with its slashes. Without one, a path that begins with two slashes
gets `/.` in front. -/
def authorityChars (u : Url) : List Char :=
  match u.host with
  | some h =>
    '/' :: '/' :: (u.userChars ++ h.chars ++
      match u.port with | some p => ':' :: decimal p | none => [])
  | none =>
    match u.path with
    | .segments ("" :: _ :: _) => ['/', '.']
    | _ => []

/-- Query and fragment with their marks. -/
def tailChars (u : Url) : List Char :=
  (match u.query with | some q => '?' :: q.toList | none => []) ++
    (match u.fragment with | some f => '#' :: f.toList | none => [])

/-- The characters of a URL. -/
def chars (u : Url) : List Char :=
  u.scheme.toList ++ ':' :: (u.authorityChars ++ u.path.chars ++ u.tailChars)

/-- The text of a URL. -/
def text (u : Url) : String := String.ofList u.chars

/-- The text of the path. -/
def pathText (u : Url) : String := String.ofList u.path.chars

/-- The URL without user name and password. -/
def withoutUser (u : Url) : Url := { u with username := "", password := none }

end Url

end SigningConsole
