import SigningConsole.Backend.Calls
/-!
Tables of keys, page by page.

Every change of page, page size or search makes a new generation. A ticket remembers the generation
in which its request was made, and a page is taken only for a ticket of the current one, so that a
late answer to an old search never replaces newer rows.
-/

namespace SigningConsole

/-- Where the number of all rows comes from. -/
inductive TotalFrom where
  /-- The metadata of the page: the server cuts the list into pages. -/
  | server
  /-- The rows of the answer: the table cuts them into pages. -/
  | rows
deriving DecidableEq, Repr

/-- Page and search of a table. -/
structure Paging where
  totalCount : UInt64 := 0
  page : UInt64 := 1
  pageSize : UInt64 := 10
  search : String := ""
  select : KeyField := .name
deriving DecidableEq, Repr

/-- A request that was made for one generation of a table. -/
structure PageTicket where
  generation : UInt64
  query : KeyQuery
deriving DecidableEq, Repr

/-- The table of one scope. -/
structure KeyTable where
  visibility : Visibility
  source : TotalFrom
  paging : Paging := {}
  /-- The rows of the last page that was taken. -/
  rows : List KeyRecord := []
  counts : FamilyCounts := {}
  generation : UInt64 := 0
deriving DecidableEq

namespace KeyTable

/-- The empty table of a scope. -/
def empty (visibility : Visibility) (source : TotalFrom) : KeyTable := { visibility, source }

/-! ## Changes -/

/-- Replaces page and search, which makes a new generation. -/
def change (t : KeyTable) (paging : Paging) : KeyTable :=
  { t with paging, generation := t.generation + 1 }

/-- Turns to a page, at least the first. -/
def turnTo (t : KeyTable) (page : UInt64) : KeyTable :=
  t.change { t.paging with page := max page 1 }

/-- Changes the number of rows of a page, at least one, and turns to the first page. -/
def resize (t : KeyTable) (size : UInt64) : KeyTable :=
  t.change { t.paging with pageSize := max size 1, page := 1 }

/-- Changes the search text and turns to the first page. -/
def searchFor (t : KeyTable) (text : String) : KeyTable :=
  t.change { t.paging with search := text, page := 1 }

/-- Changes the field that is searched and turns to the first page. -/
def setField (t : KeyTable) (field : KeyField) : KeyTable :=
  t.change { t.paging with select := field, page := 1 }

/-! ## Views -/

/-- The query for the current page and search. -/
def query (t : KeyTable) : KeyQuery :=
  (KeyQuery.page t.visibility t.paging.pageSize t.paging.page).searching t.paging.select
    t.paging.search

/-- The greatest index that 64 bits hold; a greater one is taken for it. -/
def maxIndex : Nat := UInt64.size - 1

/-- The index of the first row of the current page. -/
def pageStart (t : KeyTable) : Nat :=
  min ((t.paging.page.toNat - 1) * t.paging.pageSize.toNat) maxIndex

/-- From which index up to which the rows of the current page stand. Rows that fit one page are
taken as cut already. -/
def pageRange (t : KeyTable) : Nat × Nat :=
  if t.rows.length ≤ t.paging.pageSize.toNat then (0, t.rows.length)
  else if t.rows.length ≤ t.pageStart then (0, 0)
  else (t.pageStart, min (min (t.pageStart + t.paging.pageSize.toNat) maxIndex) t.rows.length)

/-- The rows of the current page. -/
def displayed (t : KeyTable) : List KeyRecord :=
  match t.source with
  | .server => t.rows
  | .rows => t.rows.extract t.pageRange.1 t.pageRange.2

/-- The number of pages. -/
def pageCount (t : KeyTable) : Nat :=
  let size := t.paging.pageSize.toNat
  if size = 0 then 0 else (t.paging.totalCount.toNat + size - 1) / size

/-! ## Fetching -/

/-- A ticket for the current generation. -/
def ticket (t : KeyTable) : PageTicket := ⟨t.generation, t.query⟩

/-- Puts a page's rows into the table. -/
def install (t : KeyTable) (page : KeyPage) : KeyTable :=
  { t with
    rows := page.keys
    counts := .ofKeys page.keys
    paging :=
      { t.paging with
        totalCount :=
          match t.source with
          | .server => page.info.totalCount
          | .rows => .ofNat page.keys.length } }

/-- Takes the page that answers a ticket, unless the ticket is of an older generation, and
says whether it did. -/
def apply (t : KeyTable) (ticket : PageTicket) (page : KeyPage) : KeyTable × Bool :=
  if ticket.generation = t.generation then (t.install page, true) else (t, false)

/-- Fetches the current page; a failure leaves the table as it is. -/
def fetch {σ : Type} (calls : KeyCalls σ) (t : KeyTable) :
    StateM σ (Except BackendError Bool × KeyTable) := do
  match ← calls.listKeys t.ticket.query with
  | .ok page =>
    let (t', taken) := t.apply t.ticket page
    return (.ok taken, t')
  | .error e => return (.error e, t)

end KeyTable

/-! ## Both scopes -/

/-- The tables of both scopes. -/
structure KeyTables where
  pub : KeyTable
  priv : KeyTable

namespace KeyTables

/-- Two empty tables. -/
def empty (source : TotalFrom) : KeyTables := ⟨.empty .pub source, .empty .priv source⟩

/-- The table of a scope. -/
def scope (ts : KeyTables) : Visibility → KeyTable
  | .pub => ts.pub
  | .priv => ts.priv

/-- Replaces the table of a scope. -/
def set (ts : KeyTables) (visibility : Visibility) (t : KeyTable) : KeyTables :=
  match visibility with
  | .pub => { ts with pub := t }
  | .priv => { ts with priv := t }

/-- Fetches the current page of one scope. -/
def fetch {σ : Type} (calls : KeyCalls σ) (visibility : Visibility) (ts : KeyTables) :
    StateM σ (Except BackendError Bool × KeyTables) := do
  let (result, t) ← (ts.scope visibility).fetch calls
  return (result, ts.set visibility t)

/-- Fetches the current page of the public scope, and then, if that works, of the private one. -/
def fetchBoth {σ : Type} (calls : KeyCalls σ) (ts : KeyTables) :
    StateM σ (Except BackendError Unit × KeyTables) := do
  match ← ts.fetch calls .pub with
  | (.error e, ts) => return (.error e, ts)
  | (.ok _, ts) =>
    let (result, ts) ← ts.fetch calls .priv
    return (result.map fun _ => (), ts)

end KeyTables

end SigningConsole
