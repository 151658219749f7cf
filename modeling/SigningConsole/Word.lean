/-!
Words that stand for one of several choices, as an operator types them.
-/

namespace SigningConsole

/-- What a word was expected to be. -/
inductive WordKind where
  | visibility
  | keyType
  | keyField
  | growthStep
  | variant
  /-- A pair `key=value`. -/
  | pair
deriving DecidableEq, Repr

/-- A word that stands for none of the choices. -/
structure WordError where
  kind : WordKind
  word : String
deriving DecidableEq, Repr

/-- The wording. -/
def WordError.message (e : WordError) : String :=
  let quoted := "'" ++ e.word ++ "'"
  match e.kind with
  | .visibility => "unsupported visibility " ++ quoted
  | .keyType => "unsupported key type " ++ quoted
  | .keyField => "unsupported search field " ++ quoted
  | .growthStep => "unsupported count way " ++ quoted
  | .variant => "unknown variant " ++ quoted
  | .pair => "expected key=value, got " ++ quoted

/-- Looks a word up among the names of choices. -/
def readWord {α : Type} (kind : WordKind) (names : List (String × α)) (word : String) :
    Except WordError α :=
  match names.lookup word with
  | some a => .ok a
  | none => .error ⟨kind, word⟩

end SigningConsole
