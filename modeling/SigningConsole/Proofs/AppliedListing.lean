import SigningConsole.Console.Keys
import SigningConsole.Proofs.FilterQuery
/-!
What a listing makes of a table.

A listing is four changes in a row (`Listing.apply_eq_run`), and between them they set page, page
size, search text and field, each to a value that does not depend on the one before. The page is set
last, because every other change turns to the first page. So nothing of the table's own filter is
left in its query but the scope (`Listing.query_apply`). Being changes, the four also make new
generations, and no ticket from before them is of the last one (`Listing.apply_rejects`).

Main statements: `Listing.query_apply`, `Listing.apply_rejects`, `Listing.filter_replaced`.
-/

namespace SigningConsole

open Text

namespace KeyTable

theorem run_append (t : KeyTable) (before after : List TableAction) :
    t.run (before ++ after) = (t.run before).run after :=
  List.foldl_append

/-- A ticket is not taken after some changes, as long as there are not as many as there are
generations. -/
theorem apply_ticket_of_changed (t : KeyTable) {actions : List TableAction}
    (hsome : changeCount actions ≠ 0) (hfew : changeCount actions < UInt64.size) (page : KeyPage) :
    (t.run actions).apply t.ticket page = (t.run actions, false) := by
  have hne : t.ticket.generation ≠ (t.run actions).generation := by
    intro heq
    exact hsome ((run_generation_eq_iff t hfew).1 heq)
  exact apply_of_ne hne page

end KeyTable

namespace Listing

variable (f : Listing)

/-- The changes that a listing makes, in order. -/
def changes : List TableAction :=
  [.change (.resize f.pageSize), .change (.setField f.select), .change (.searchFor f.search),
    .change (.turnTo f.page)]

theorem apply_eq_run (t : KeyTable) : f.apply t = t.run f.changes := rfl

/-- Of the paging only the number of all rows is left. -/
theorem paging_apply (t : KeyTable) :
    (f.apply t).paging =
      { totalCount := t.paging.totalCount, page := max f.page 1, pageSize := max f.pageSize 1,
        search := f.search, select := f.select } := rfl

/-- The query is that of the listing, for the scope of the table. -/
theorem query_apply (t : KeyTable) :
    (f.apply t).query =
      (KeyQuery.page t.visibility (max f.pageSize 1) (max f.page 1)).searching f.select
        f.search := by
  rw [KeyTable.query, paging_apply]
  rfl

/-- After a listing no ticket from before it is taken, whatever happens in between and
afterwards. -/
theorem apply_rejects (t : KeyTable) {since later : List TableAction}
    (hfew : changeCount since + 4 + changeCount later < UInt64.size) (page : KeyPage) :
    let now := (f.apply (t.run since)).run later
    now.apply t.ticket page = (now, false) := by
  have hcount :
      changeCount (since ++ f.changes ++ later) = changeCount since + 4 + changeCount later := by
    rw [changeCount_append, changeCount_append]
    rfl
  have hrun : (f.apply (t.run since)).run later = t.run (since ++ f.changes ++ later) := by
    rw [apply_eq_run, KeyTable.run_append, KeyTable.run_append]
  intro now
  have hnow : now = t.run (since ++ f.changes ++ later) := hrun
  rw [hnow]
  exact t.apply_ticket_of_changed (by omega) (by omega) page

/-- A table with a listing asks for the listing's page, with at least one row, and for its search
text without the blanks around it in the selected field alone, unless the text is blank. The
table has no part in this but by its scope, so that two tables ask for the same just when they
are of the same scope. With fewer than 2⁶⁴ changes, no page is taken for a ticket that was begun
before the listing. -/
theorem filter_replaced (t : KeyTable) :
    let q := (f.apply t).query
    (q.visibility = t.visibility ∧ q.pageSize = max f.pageSize 1 ∧
      q.pageNumber = max f.page 1 ∧ q.keyType = none ∧
      ∀ field, q.textFor field =
        if field = f.select ∧ allBlank f.search = false then some (trimmed f.search) else none) ∧
    (∀ t' : KeyTable, (f.apply t').query = q ↔ t'.visibility = t.visibility) ∧
    ∀ since later : List TableAction,
      changeCount since + 4 + changeCount later < UInt64.size → ∀ page,
      let now := (f.apply (t.run since)).run later
      now.apply t.ticket page = (now, false) := by
  intro q
  have hpaging : ∀ t : KeyTable, (f.apply t).query.visibility = t.visibility ∧
      (f.apply t).query.pageSize = max f.pageSize 1 ∧ (f.apply t).query.pageNumber = max f.page 1 ∧
      (f.apply t).query.keyType = none := fun t => (f.apply t).query_paging
  obtain ⟨hvisibility, hsize, hpage, htype⟩ := hpaging t
  refine ⟨⟨hvisibility, hsize, hpage, htype, (f.apply t).textFor_query⟩, fun t' => ?_,
    fun since later hfew page => ?_⟩
  · constructor
    · intro h
      have hscope : (f.apply t').query.visibility = (f.apply t).query.visibility :=
        congrArg KeyQuery.visibility h
      rwa [hvisibility, (hpaging t').1] at hscope
    · intro h
      show (f.apply t').query = (f.apply t).query
      rw [query_apply, query_apply, h]
  · exact f.apply_rejects t hfew page

/-- A listing of the first page of one row, by a text between blanks, replaces another search on
another page; a page that was asked for before, with a change in between, comes too late, also
behind a fetch that has begun since. -/
theorem filter_replaced_on_other_page :
    let f : Listing := { page := 0, pageSize := 0, search := " prod\u2003", select := .description }
    let t := (((KeyTable.empty .priv .rows).resize 50).searchFor "ci").turnTo 3
    (f.apply t).query = { visibility := .priv, pageSize := 1, pageNumber := 1,
                          description := some "prod" } ∧
    (f.apply t).query = (f.apply (.empty .priv .server)).query ∧
    (let now := (f.apply (t.run [.change (.turnTo 2)])).run [.begin]
     now.apply t.ticket ⟨[], ⟨7⟩⟩ = (now, false)) := by
  intro f t
  obtain ⟨⟨hvisibility, hsize, hpage, htype, htexts⟩, hsame, hlate⟩ := f.filter_replaced t
  refine ⟨?_, ((hsame (.empty .priv .server)).2 rfl).symm,
    hlate [.change (.turnTo 2)] [.begin] (by decide) ⟨[], ⟨7⟩⟩⟩
  exact KeyQuery.ext_textFor hvisibility hsize hpage
    (fun field => (htexts field).trans (by cases field <;> decide)) htype

end Listing

end SigningConsole
