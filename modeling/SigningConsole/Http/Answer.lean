import SigningConsole.Backend.Error
import SigningConsole.Http.Request
import SigningConsole.Http.Status
import SigningConsole.Json.Printer
import SigningConsole.Text.Utf8
/-!
What the backend sends back, and what the caller gets of it.
-/

namespace SigningConsole

open Text

/-- The text of bytes that are UTF-8, with or without a mark of it in front. -/
def utf8Text (bytes : List UInt8) : String :=
  String.ofList (Utf8.decodeLossy
    (match bytes with
    | 0xEF :: 0xBB :: 0xBF :: rest => rest
    | _ => bytes))

/-- An answer of the backend. -/
structure Answer where
  status : Nat
  headers : List (String × List UInt8) := []
  /-- The body, unless the connection ends within it. -/
  body : Except TransportFault (List UInt8) := .ok []
  /-- Reads bytes as a text in the character set that the headers name. -/
  charset : List UInt8 → String := utf8Text

/-- What comes of a request. -/
abbrev Outcome := Except TransportFault Answer

/-- What the backend answers to a request, given the requests before it. -/
abbrev Backend := List Request → Request → Outcome

/-- The backend to which no connection can be made. -/
def Backend.unreachable : Backend := fun _ request => .error (.unreachable request.url)

/-- The backend that gives one outcome after the other, and finds nothing once they are used up. -/
def Backend.scripted (outcomes : List Outcome) : Backend := fun before _ =>
  (outcomes[before.length]?).getD (.ok { status := 404 })

/-- What the caller gets of an answer. -/
inductive Payload where
  | json (v : Json)
  | blob (bytes : List UInt8)
  | empty

namespace Answer

/-- The text of a header, if it is plain. -/
def plainText? (value : List UInt8) : Option String :=
  if value.all fun b => b == 9 || (32 ≤ b && b ≤ 126) then
    some (String.ofList (value.map fun b => Char.ofNat b.toNat))
  else none

/-- The cookies that an answer sets, in order; those that are no plain text are passed over. -/
def setCookies (a : Answer) : List String :=
  (a.headers.filter fun h => h.1.toLower == "set-cookie").filterMap fun h => plainText? h.2

/-- The bytes between tokens of a document. -/
def isBlankByte (b : UInt8) : Bool := b == 9 || b == 10 || b == 12 || b == 13 || b == 32

/-- What the caller of a kind gets. -/
def payload (kind : AnswerKind) (a : Answer) : Except BackendError Payload :=
  match kind, a.body with
  | .empty, _ => .ok .empty
  | _, .error e => .error (.transport e)
  | .blob, .ok bytes => .ok (.blob bytes)
  | .json, .ok bytes =>
    if bytes.all isBlankByte then .ok .empty
    else
      match (Utf8.toString? bytes).bind Json.parse? with
      | some v => .ok (.json v.normalize)
      | none => .error (.body (.unreadable .notJson))

/-- The body of a failure. -/
def failureRecord : Json.Record := ⟨"ErrorMessage", [.required "detail" Json.toText]⟩

/-- Reads the body of a failure. -/
def detail : Json.Decoder String := fun v => do
  let found ← failureRecord.read v
  found.get "detail" Json.toText

/-- What a failed answer says: its detail, or its body, or the name of its status. -/
def failureText (a : Answer) : String :=
  let body := (a.body.toOption.map a.charset).getD ""
  match Json.readRecord failureRecord detail body with
  | .ok text => text
  | .error _ =>
    if allBlank body then (Status.reason? a.status).getD "request failed" else trimmed body

end Answer

namespace Payload

/-- Reads a value from what was got. Nothing reads as null. -/
def decode {α : Type} (d : Json.Decoder α) : Payload → Except BackendError α
  | json v => (Json.decodeAs d v).mapError fun e => .body (.unreadable e)
  | empty => (Json.decodeAs d .null).mapError fun e => .body (.unreadable e)
  | blob bytes =>
    match Utf8.toString? bytes with
    | some text => (Json.read d text).mapError fun e => .body (.unreadable e)
    | none => .error (.body (.unreadable .notJson))

/-- The bytes of what was got. -/
def bytes : Payload → List UInt8
  | blob bytes => bytes
  | json v => Utf8.ofString v.compact
  | empty => []

end Payload

end SigningConsole
