import SigningConsole.Json.Decode
import SigningConsole.Json.Parser
/-!
Reading typed values from JSON texts.
-/

namespace SigningConsole.Json

/-- Why a text yields no value of a type. -/
inductive ReadFault where
  /-- The text is no JSON document. -/
  | notJson
  | mismatch (cause : DecodeError)
deriving DecidableEq, Repr

/-- The wording. -/
def ReadFault.message : ReadFault → String
  | notJson => "the text is no JSON document"
  | mismatch cause => cause.message

/-- Decodes a value. -/
def decodeAs {α : Type} (decode : Decoder α) (v : Json) : Except ReadFault α :=
  (decode v).mapError .mismatch

/-- Reads a text, in which a member of a record must not occur twice. -/
def read {α : Type} (decode : Decoder α) (text : String) : Except ReadFault α :=
  match parse? text with
  | none => .error .notJson
  | some v => decodeAs decode v

/-- Reads a text as a record; members that are none of its fields are passed over. -/
def readRecord {α : Type} (r : Record) (decode : Decoder α) (text : String) : Except ReadFault α :=
  match parseSelected? (fun key => (r.field? key).isSome) text with
  | none => .error .notJson
  | some v => decodeAs decode v

/-- Reads a text as a free-form value. -/
def readValue (text : String) : Except ReadFault Json :=
  match parse? text with
  | none => .error .notJson
  | some v => .ok v.normalize

end SigningConsole.Json
