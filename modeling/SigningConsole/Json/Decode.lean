import SigningConsole.Json.Basic
import SigningConsole.Number.Shortest
import SigningConsole.Text.Quoted
/-!
Decoding JSON values into typed ones.

A record is described by its fields in declaration order. It is read from an object, whose members
are visited in the order in which they stand, or from an array of its fields; unknown members are
passed over. The first member that does not decode is reported, and a missing field only after all
members have been visited.
-/

namespace SigningConsole.Json

open Text

/-- The shape of a value, as a message names it. -/
def shape : Json → String
  | null => "null"
  | bool true => "boolean `true`"
  | bool false => "boolean `false`"
  | int n => "integer `" ++ intText n ++ "`"
  | double x => "floating point `" ++ String.ofList x.text ++ "`"
  | str s => "string " ++ quoted s
  | arr _ => "sequence"
  | obj _ => "map"

/-- Why a value does not decode. -/
inductive DecodeError where
  /-- The value has another type than the place demands. -/
  | wrongType (found expected : String)
  /-- The value has the right type and lies outside what the place allows. -/
  | wrongValue (found expected : String)
  | wrongLength (length : Nat) (expected : String)
  | missingField (name : String)
  | duplicateField (name : String)
  | unknownVariant (found : String) (expected : List String)
  /-- The text is no date and time. -/
  | badTime (reason : String)
deriving DecidableEq, Repr

/-- Alternatives as a message lists them. -/
def alternatives : List String → String
  | [] => "there are no variants"
  | [a] => "expected `" ++ a ++ "`"
  | [a, b] => "expected `" ++ a ++ "` or `" ++ b ++ "`"
  | as => "expected one of " ++ ", ".intercalate (as.map fun a => "`" ++ a ++ "`")

/-- The wording of a cause. -/
def DecodeError.message : DecodeError → String
  | wrongType found expected => "invalid type: " ++ found ++ ", expected " ++ expected
  | wrongValue found expected => "invalid value: " ++ found ++ ", expected " ++ expected
  | wrongLength n expected => "invalid length " ++ natText n ++ ", expected " ++ expected
  | missingField name => "missing field `" ++ name ++ "`"
  | duplicateField name => "duplicate field `" ++ name ++ "`"
  | unknownVariant found expected => "unknown variant `" ++ found ++ "`, " ++ alternatives expected
  | badTime reason => reason

/-- Reads a value as a typed one. -/
abbrev Decoder (α : Type) := Json → Except DecodeError α

/-! ## Plain values -/

/-- A text. -/
def toText : Decoder String
  | str s => .ok s
  | v => .error (.wrongType v.shape "a string")

/-- An integer that fits 32 bits with sign. -/
def toInt32 : Decoder Int32
  | int n =>
    if Int32.minValue.toInt ≤ n ∧ n ≤ Int32.maxValue.toInt then .ok (Int32.ofInt n)
    else .error (.wrongValue (int n).shape "i32")
  | v => .error (.wrongType v.shape "i32")

/-- An integer that fits 64 bits without sign. -/
def toUInt64 : Decoder UInt64
  | int n =>
    if 0 ≤ n ∧ n < UInt64.size then .ok (UInt64.ofNat n.toNat)
    else .error (.wrongValue (int n).shape "u64")
  | v => .error (.wrongType v.shape "u64")

/-- Nothing, written as null. -/
def toUnit : Decoder Unit
  | null => .ok ()
  | v => .error (.wrongType v.shape "unit")

/-- A value, or null for none. -/
def toOption {α : Type} (decode : Decoder α) : Decoder (Option α)
  | null => .ok none
  | v => (decode v).map some

/-- A list of values. -/
def toList {α : Type} (decode : Decoder α) : Decoder (List α)
  | arr items => items.mapM decode
  | v => .error (.wrongType v.shape "a sequence")

/-- Adds the members of an object to a map of texts. -/
def addTexts (m : StringMap String) : List (String × Json) → Except DecodeError (StringMap String)
  | [] => .ok m
  | (k, v) :: ms => do addTexts (m.insert k (← toText v)) ms

/-- A map of texts; of several at one key the last one counts. -/
def toTextMap : Decoder (StringMap String)
  | obj members => addTexts ∅ members
  | v => .error (.wrongType v.shape "a map")

/-- One of several names, as a text or as an object whose only member has that name and no value. -/
def toVariant {α : Type} (names : List (String × α)) (other : Option α) : Decoder α :=
  let find (s : String) : Except DecodeError α :=
    match names.lookup s <|> other with
    | some a => .ok a
    | none => .error (.unknownVariant s (names.map (·.1)))
  fun
    | str s => find s
    | obj [(k, v)] => do
      let a ← find k
      toUnit v
      return a
    | obj members => .error (.wrongValue (obj members).shape "map with a single key")
    | v => .error (.wrongType v.shape "string or map")

/-! ## Records -/

/-- What a record demands of one of its fields. -/
inductive Presence where
  | required
  /-- An absent member reads as null. -/
  | nullable
  /-- An absent member, or a missing end of an array, leaves a default. -/
  | defaulted
deriving DecidableEq

/-- One field of a record. -/
structure Field where
  name : String
  aliases : List String
  presence : Presence
  /-- Whether a value decodes as the field. -/
  check : Json → Except DecodeError Unit

/-- A field that must be there. -/
def Field.required {α : Type} (name : String) (decode : Decoder α) : Field :=
  ⟨name, [], .required, fun v => (decode v).map fun _ => ()⟩

/-- A field that may be null or absent. -/
def Field.nullable {α : Type} (name : String) (decode : Decoder α) : Field :=
  ⟨name, [], .nullable, fun v => (toOption decode v).map fun _ => ()⟩

/-- A field with a default. -/
def Field.defaulted {α : Type} (name : String) (decode : Decoder α) : Field :=
  ⟨name, [], .defaulted, fun v => (decode v).map fun _ => ()⟩

/-- The field under one more name. -/
def Field.alsoNamed (f : Field) (other : String) : Field := { f with aliases := other :: f.aliases }

/-- A record type, with its fields in declaration order. -/
structure Record where
  name : String
  fields : List Field

/-- The values found for the fields of a record, by field name. -/
abbrev Record.Found := List (String × Json)

namespace Record

/-- The field that a member's key names. -/
def field? (r : Record) (key : String) : Option Field :=
  r.fields.find? fun f => f.name == key || f.aliases.contains key

/-- Visits members in order: each must decode, and no field may come twice. -/
def visit (r : Record) (found : Found) : List (String × Json) → Except DecodeError Found
  | [] => .ok found
  | (k, v) :: ms =>
    match r.field? k with
    | none => visit r found ms
    | some f =>
      if (found.lookup f.name).isSome then .error (.duplicateField f.name)
      else do
        f.check v
        visit r ((f.name, v) :: found) ms

/-- Reports the first field that is demanded and was not found. -/
def demand (found : Found) : List Field → Except DecodeError Unit
  | [] => .ok ()
  | f :: fs =>
    if f.presence = .required ∧ (found.lookup f.name).isNone then .error (.missingField f.name)
    else demand found fs

/-- How a message calls an array of the record's fields. -/
def arity (r : Record) : String :=
  let n := r.fields.length
  "struct " ++ r.name ++ " with " ++ natText n ++ (if n = 1 then " element" else " elements")

/-- Pairs the items of an array with the fields from the one at `position` on. -/
def pair (r : Record) (position : Nat) (found : Found) :
    List Field → List Json → Except DecodeError Found
  | [], [] => .ok found
  | [], items => .error (.wrongLength (position + items.length) "fewer elements in array")
  | f :: fs, [] =>
    if f.presence = .defaulted then pair r (position + 1) found fs []
    else .error (.wrongLength position r.arity)
  | f :: fs, v :: vs => do
    f.check v
    pair r (position + 1) ((f.name, v) :: found) fs vs

/-- The values of the record's fields. -/
def read (r : Record) : Decoder Found
  | obj members => do
    let found ← r.visit [] members
    demand found r.fields
    return found
  | arr items => r.pair 0 [] r.fields items
  | v => .error (.wrongType v.shape ("struct " ++ r.name))

end Record

namespace Record.Found

/-- The value of a field that must be there. -/
def get {α : Type} (found : Found) (name : String) (decode : Decoder α) : Except DecodeError α :=
  match found.lookup name with
  | some v => decode v
  | none => .error (.missingField name)

/-- The value of a field, or a default where it was not found. -/
def getD {α : Type} (found : Found) (name : String) (decode : Decoder α) (default : α) :
    Except DecodeError α :=
  match found.lookup name with
  | some v => decode v
  | none => .ok default

/-- The value of a field that may be null or absent. -/
def get? {α : Type} (found : Found) (name : String) (decode : Decoder α) :
    Except DecodeError (Option α) :=
  found.getD name (toOption decode) none

end Record.Found

end SigningConsole.Json
