import SigningConsole.Json.Decode
import SigningConsole.Word
/-!
The classifications of keys: the scope in which a key is visible, its family, its state, the field
that a search matches, and the actions of its life cycle.
-/

namespace SigningConsole

open Json

/-! ## Visibility -/

/-- The scope in which a key is visible. -/
inductive Visibility where
  | pub
  | priv
deriving DecidableEq, Repr

namespace Visibility

/-- The name of a scope. -/
def text : Visibility → String
  | pub => "public"
  | priv => "private"

/-- The scopes by name. -/
def names : List (String × Visibility) := [("public", pub), ("private", priv)]

/-- Reads a scope's name. -/
def ofText? (s : String) : Except WordError Visibility := readWord .visibility names s

/-- Reads a scope. -/
def decode : Decoder Visibility := toVariant names none

/-- A scope as JSON. -/
def toJson (v : Visibility) : Json := str v.text

theorem ofText?_text (v : Visibility) : ofText? v.text = .ok v := by cases v <;> rfl

end Visibility

/-! ## Families -/

/-- The family of a key. -/
inductive KeyFamily where
  | pgp
  | x509
deriving DecidableEq, Repr

namespace KeyFamily

/-- The name of a family. -/
def text : KeyFamily → String
  | pgp => "pgp"
  | x509 => "x509"

/-- The types that the backend tells apart, with their families. -/
def families : List (String × KeyFamily) :=
  [("pgp", pgp), ("x509", x509), ("x509ca", x509), ("x509ica", x509), ("x509ee", x509)]

/-- The family of a type of the backend. -/
def ofType? (type : String) : Option KeyFamily := families.lookup type

/-- Reads a type of the backend as its family. -/
def ofText? (s : String) : Except WordError KeyFamily := readWord .keyType families s

/-- Reads a family. -/
def decode : Decoder KeyFamily := toVariant [("pgp", pgp), ("x509", x509)] none

/-- A family as JSON. -/
def toJson (t : KeyFamily) : Json := str t.text

end KeyFamily

/-! ## States -/

/-- Where a key is in its life cycle. -/
inductive KeyStatus where
  | enabled
  | disabled
  | pendingDelete
  | pendingRevoke
  | revoked
  | deleted
  /-- A state with no name here. -/
  | unknown
deriving DecidableEq, Repr

namespace KeyStatus

/-- The name of a state. -/
def text : KeyStatus → String
  | enabled => "enabled"
  | disabled => "disabled"
  | pendingDelete => "pending_delete"
  | pendingRevoke => "pending_revoke"
  | revoked => "revoked"
  | deleted => "deleted"
  | unknown => "unknown"

/-- The states by name. -/
def names : List (String × KeyStatus) :=
  [enabled, disabled, pendingDelete, pendingRevoke, revoked, deleted, unknown].map
    fun s => (s.text, s)

/-- Reads a state; every other name reads as the unknown state. -/
def decode : Decoder KeyStatus := toVariant names (some unknown)

/-- A state as JSON. -/
def toJson (s : KeyStatus) : Json := str s.text

end KeyStatus

/-! ## Search -/

/-- The field that a search text is matched against. -/
inductive KeyField where
  | name
  | description
deriving DecidableEq, Repr

namespace KeyField

instance : Inhabited KeyField := ⟨name⟩

/-- The name of a field. -/
def text : KeyField → String
  | name => "name"
  | description => "description"

/-- The fields by name. -/
def names : List (String × KeyField) := [("name", name), ("description", description)]

/-- Reads a field's name. -/
def ofText? (s : String) : Except WordError KeyField := readWord .keyField names s

/-- Reads a field. -/
def decode : Decoder KeyField := toVariant names none

/-- A field as JSON. -/
def toJson (f : KeyField) : Json := str f.text

end KeyField

/-! ## Actions -/

/-- What can be done with a single key. -/
inductive KeyOperation where
  | enable
  | disable
  | exportKey
  | requestDelete
  | cancelDelete
deriving DecidableEq, Repr

/-- The segment of a path that names an action. -/
def KeyOperation.segment : KeyOperation → String
  | enable => "enable"
  | disable => "disable"
  | exportKey => "export"
  | requestDelete => "request_delete"
  | cancelDelete => "cancel_delete"

/-- The words that name an action. -/
def KeyOperation.label : KeyOperation → String
  | enable => "enable"
  | disable => "disable"
  | exportKey => "export"
  | requestDelete => "request delete"
  | cancelDelete => "cancel delete"

end SigningConsole
