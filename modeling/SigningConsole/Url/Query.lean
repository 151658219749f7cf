import SigningConsole.Text.Blank
import SigningConsole.Url.Basic
/-!
The query of a URL as a list of pairs, in the form encoding of web forms.

Pairs stand between ampersands; a piece without `=` is a key with an empty value, and an empty piece
is no pair. A plus sign is a space. A query that is set is encoded as one that is read with its URL.
-/

namespace SigningConsole.Url

open Text

/-- A key or value of a form: plus signs are spaces, bytes that are no UTF-8 are replaced. -/
def formDecode (cs : List Char) : String :=
  String.ofList (Utf8.decodeLossy (decode (cs.map fun c => if c = '+' then ' ' else c)))

/-- The pair of one piece of a query. -/
def pairOf (piece : List Char) : String × String :=
  match splitFirst? '=' piece with
  | some (k, v) => (formDecode k, formDecode v)
  | none => (formDecode piece, "")

/-- The pieces of a query, empty ones included. -/
def queryPieces (query : String) : List (List Char) := splitAll '&' query.toList

/-- The pairs of a query text. -/
def formPairs (query : String) : List (String × String) :=
  ((queryPieces query).filter fun piece => !piece.isEmpty).map pairOf

/-- The pairs of the URL's query. -/
def queryPairs (u : Url) : List (String × String) := formPairs (u.query.getD "")

/-- Whether the character stands for itself in a form. -/
def isFormSafe (c : Char) : Bool := c.isAlphanum || c == '*' || c == '-' || c == '.' || c == '_'

/-- A key or value in form encoding. -/
def formEncode (s : String) : List Char :=
  s.toList.flatMap fun c => if c = ' ' then ['+'] else encodeChar (fun c => !isFormSafe c) c

/-- A query with one more pair. -/
def appendPair (query : List Char) (k v : String) : List Char :=
  (if query.isEmpty then [] else query ++ ['&']) ++ formEncode k ++ '=' :: formEncode v

/-- The URL with pairs added to its query. -/
def addPairs (u : Url) (pairs : List (String × String)) : Url :=
  let query := pairs.foldl (fun q (k, v) => appendPair q k v) (u.query.getD "").toList
  { u with query := some (String.ofList query) }

/-- A text without tabs and line ends, which are no part of a URL. -/
def withoutBreaks (cs : List Char) : List Char := cs.filter fun c => c ≠ '\t' ∧ c ≠ '\n' ∧ c ≠ '\r'

/-- What is encoded in the query of a URL. -/
def querySet (scheme : String) : Char → Bool :=
  if isSpecial scheme then inSpecialQuerySet else inQuerySet

/-- A query as it is written. -/
def queryText (scheme : String) (cs : List Char) : String :=
  String.ofList (encode (querySet scheme) cs)

/-- The URL with another query, which is read as a URL's, or none. Where none is left and no
fragment either, a path without a root loses the spaces at its end. -/
def withQuery (u : Url) (query : Option String) : Url :=
  match query with
  | some q => { u with query := some (queryText u.scheme (withoutBreaks q.toList)) }
  | none =>
    match u.fragment, u.path with
    | none, .rootless text =>
      { u with
          query := none,
          path := .rootless (String.ofList (dropSuffixWhile (· == ' ') text.toList)) }
    | _, _ => { u with query := none }

theorem withQuery_query (u : Url) (query : Option String) :
    (u.withQuery query).query = query.map fun q => queryText u.scheme (withoutBreaks q.toList) := by
  unfold withQuery
  cases query with
  | some q => rfl
  | none => dsimp only; split <;> rfl

theorem withQuery_scheme (u : Url) (query : Option String) :
    (u.withQuery query).scheme = u.scheme := by
  unfold withQuery
  split
  · rfl
  · split <;> rfl

end SigningConsole.Url
