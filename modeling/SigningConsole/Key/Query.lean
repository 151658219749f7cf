import SigningConsole.Key.Record
import SigningConsole.Parameters
import SigningConsole.Text.Decimal
/-!
The query for a page of keys, as pairs and as JSON.
-/

namespace SigningConsole

open Json Text

/-- Which page of which keys to list. -/
structure KeyQuery where
  visibility : Visibility
  pageSize : UInt64
  pageNumber : UInt64
  name : Option String := none
  description : Option String := none
  keyType : Option String := none
deriving DecidableEq, Repr

namespace KeyQuery

/-- The query for a page without a search. -/
def page (visibility : Visibility) (pageSize pageNumber : UInt64) : KeyQuery :=
  { visibility, pageSize, pageNumber }

/-- Adds a search on a field. The text loses the blanks around it, and a blank one changes
nothing. -/
def searching (q : KeyQuery) (field : KeyField) (text : String) : KeyQuery :=
  let text := trimmed text
  if text.isEmpty then q
  else
    match field with
    | .name => { q with name := some text }
    | .description => { q with description := some text }

/-- The pairs of the query. -/
def pairs (q : KeyQuery) : Parameters :=
  let all : Parameters :=
    [("visibility", q.visibility.text), ("page_size", natText q.pageSize.toNat),
      ("page_number", natText q.pageNumber.toNat)]
  ((all.add? "name" q.name).add? "description" q.description).add? "key_type" q.keyType

/-- The query as JSON. -/
def toJson (q : KeyQuery) : Json :=
  obj ([("visibility", q.visibility.toJson), ("page_size", ofUInt64 q.pageSize),
      ("page_number", ofUInt64 q.pageNumber)] ++
    optionalMember "name" (q.name.map str) ++
    optionalMember "description" (q.description.map str) ++
    optionalMember "key_type" (q.keyType.map str))

end KeyQuery

end SigningConsole
