import SigningConsole.Proofs.TableRun
/-!
Runs of the tables of both scopes, and pages that come to the table of the other scope.

A ticket does not say of which table it is: it carries a generation and a query, and only the
generation is asked when its page comes in. What happens to one scope is not seen from the other
(`KeyTables.run_scope`), so the generation of each table counts the changes of its own scope. A
page is therefore taken just when this table has been changed as often as the other one had been
when its ticket was begun, and for a ticket of the other scope the query is then never the one
that the table shows.
-/

namespace SigningConsole

/-- What happens to the table of a scope. -/
structure ScopedAction where
  scope : Visibility
  action : TableAction

/-- What happens to one scope, in order. -/
def actionsOn (v : Visibility) (actions : List ScopedAction) : List TableAction :=
  (actions.filter fun x => x.scope = v).map (·.action)

/-- How often a scope is changed. -/
def changesOn (v : Visibility) (actions : List ScopedAction) : Nat :=
  changeCount (actionsOn v actions)

/-- How often any scope is changed. -/
def changesOfAll (actions : List ScopedAction) : Nat := changeCount (actions.map (·.action))

theorem actionsOn_append (v : Visibility) (before after : List ScopedAction) :
    actionsOn v (before ++ after) = actionsOn v before ++ actionsOn v after := by
  unfold actionsOn
  rw [List.filter_append, List.map_append]

theorem changesOn_append (v : Visibility) (before after : List ScopedAction) :
    changesOn v (before ++ after) = changesOn v before + changesOn v after := by
  unfold changesOn
  rw [actionsOn_append, changeCount_append]

theorem changesOn_le (v : Visibility) (actions : List ScopedAction) :
    changesOn v actions ≤ changesOfAll actions := by
  have hsub : (actionsOn v actions).Sublist (actions.map (·.action)) := List.filter_sublist.map _
  exact hsub.countP_le

/-! ## What stays of a table -/

namespace KeyTable

theorem apply_visibility (t : KeyTable) (ticket : PageTicket) (page : KeyPage) :
    (t.apply ticket page).1.visibility = t.visibility := by
  by_cases h : ticket.generation = t.generation
  · rw [apply_of_eq h]
    rfl
  · rw [apply_of_ne h]

theorem step_visibility (t : KeyTable) (action : TableAction) :
    (t.step action).visibility = t.visibility := by
  cases action with
  | change c => cases c <;> rfl
  | begin => rfl
  | answer ticket page => exact apply_visibility t ticket page

theorem run_visibility (t : KeyTable) (actions : List TableAction) :
    (t.run actions).visibility = t.visibility := by
  induction actions generalizing t with
  | nil => rfl
  | cons action rest ih => exact (ih (t.step action)).trans (step_visibility t action)

/-- A query is for the table's own scope. -/
theorem query_visibility (t : KeyTable) : t.query.visibility = t.visibility := by
  unfold query KeyQuery.searching
  dsimp only
  split
  · rfl
  · split <;> rfl

end KeyTable

namespace KeyTables

/-- The tables after something happens to one of them. -/
def step (ts : KeyTables) (x : ScopedAction) : KeyTables :=
  ts.set x.scope ((ts.scope x.scope).step x.action)

/-- The tables after actions in order. -/
def run (ts : KeyTables) (actions : List ScopedAction) : KeyTables := actions.foldl step ts

theorem scope_set (ts : KeyTables) (v v' : Visibility) (t : KeyTable) :
    (ts.set v t).scope v' = if v = v' then t else ts.scope v' := by
  cases v <;> cases v' <;> rfl

theorem scope_empty (v : Visibility) (source : TotalFrom) :
    (empty source).scope v = .empty v source := by
  cases v <;> rfl

theorem run_append (ts : KeyTables) (before after : List ScopedAction) :
    ts.run (before ++ after) = (ts.run before).run after := List.foldl_append

/-- Each table goes through what happens to its own scope. -/
theorem run_scope (ts : KeyTables) (v : Visibility) (actions : List ScopedAction) :
    (ts.run actions).scope v = (ts.scope v).run (actionsOn v actions) := by
  induction actions generalizing ts with
  | nil => rfl
  | cons x rest ih =>
    have hstep : ((ts.step x).scope v).run (actionsOn v rest) = (ts.scope v).run
        (actionsOn v (x :: rest)) := by
      unfold step actionsOn
      rw [scope_set, List.filter_cons]
      by_cases hx : x.scope = v
      · rw [if_pos hx, if_pos (decide_eq_true hx), hx]
        rfl
      · rw [if_neg hx, if_neg (by simpa using hx)]
    exact (ih (ts.step x)).trans hstep

/-- The generation of each table counts the changes of its scope. -/
theorem run_empty_generation (source : TotalFrom) (v : Visibility) (actions : List ScopedAction) :
    (((empty source).run actions).scope v).generation = UInt64.ofNat (changesOn v actions) := by
  rw [run_scope, scope_empty, KeyTable.run_generation]
  exact UInt64.zero_add _

theorem run_empty_query_visibility (source : TotalFrom) (v : Visibility)
    (actions : List ScopedAction) :
    (((empty source).run actions).scope v).query.visibility = v := by
  rw [run_scope, scope_empty, KeyTable.query_visibility, KeyTable.run_visibility]
  rfl

/-- In a run with fewer than 2⁶⁴ changes, the page for a ticket of either scope is taken just when
the table has been changed as often as the ticket's own had been when it was begun. What the
ticket asked for is then what the table shows if the ticket is of this table, and something else
if it is of the other. -/
theorem page_taken_iff_changed_as_often (source : TotalFrom) (before since : List ScopedAction)
    (hfew : changesOfAll (before ++ since) < UInt64.size) (v v' : Visibility) (page : KeyPage) :
    let begun := (empty source).run before
    let ticket := (begun.scope v).ticket
    let now := (begun.run since).scope v'
    ((now.apply ticket page).2 = true ↔ changesOn v before = changesOn v' (before ++ since)) ∧
      ((now.apply ticket page).2 = true → (ticket.query = now.query ↔ v = v')) := by
  intro begun ticket now
  have hv : changesOn v before < UInt64.size := by
    have hle := changesOn_le v (before ++ since)
    rw [changesOn_append] at hle
    omega
  have hv' : changesOn v' (before ++ since) < UInt64.size := by
    have hle := changesOn_le v' (before ++ since)
    omega
  have hnow : now = ((empty source).run (before ++ since)).scope v' := by
    rw [run_append]
  have htaken : (now.apply ticket page).2 = true ↔
      changesOn v before = changesOn v' (before ++ since) := by
    have hgeneration : ticket.generation = UInt64.ofNat (changesOn v before) :=
      run_empty_generation source v before
    rw [KeyTable.apply_snd_iff, hgeneration, hnow, run_empty_generation]
    constructor
    · intro h
      have hnat := congrArg UInt64.toNat h
      rwa [UInt64.toNat_ofNat_of_lt' hv, UInt64.toNat_ofNat_of_lt' hv'] at hnat
    · intro h
      rw [h]
  refine ⟨htaken, fun h => ⟨fun hquery => ?_, ?_⟩⟩
  · have hvisibility : ticket.query.visibility = v := run_empty_query_visibility source v before
    rw [hquery, hnow, run_empty_query_visibility] at hvisibility
    exact hvisibility.symm
  · rintro rfl
    -- the table was not changed since, so it still shows what it showed when the ticket was begun
    have hsince : changesOn v since = 0 := by
      have hcount := htaken.1 h
      rw [changesOn_append] at hcount
      omega
    have hquery : now.query = (begun.scope v).query := by
      show ((begun.run since).scope v).query = (begun.scope v).query
      rw [run_scope]
      exact KeyTable.run_query hsince (begun.scope v)
    rw [hquery]
    exact KeyTable.ticket_query (begun.scope v)

/-- After a search in both tables, the page that was asked for the public keys is taken as
one of private keys. -/
theorem public_page_taken_as_private :
    let search (v : Visibility) (text : String) : ScopedAction := ⟨v, .change (.searchFor text)⟩
    let begun := (empty .server).run [search .pub "old"]
    let ticket := (begun.scope .pub).ticket
    let now := (begun.run [search .priv "new"]).scope .priv
    changesOfAll [search .pub "old", search .priv "new"] = 2 ∧
      (now.apply ticket ⟨[], ⟨7⟩⟩).2 = true ∧ ticket.query ≠ now.query := by
  intro search begun ticket now
  have hfew : changesOfAll ([search .pub "old"] ++ [search .priv "new"]) < UInt64.size := by decide
  have h := page_taken_iff_changed_as_often .server [search .pub "old"] [search .priv "new"] hfew
    .pub .priv ⟨[], ⟨7⟩⟩
  have htaken : (now.apply ticket ⟨[], ⟨7⟩⟩).2 = true := h.1.2 rfl
  refine ⟨rfl, htaken, fun hquery => ?_⟩
  cases (h.2 htaken).1 hquery

/-- A page that is taken need not answer what the table shows. -/
theorem taken_page_of_other_scope :
    ¬ ∀ (source : TotalFrom) (before since : List ScopedAction) (v v' : Visibility)
      (page : KeyPage), changesOfAll (before ++ since) < UInt64.size →
        let begun := (empty source).run before
        let ticket := (begun.scope v).ticket
        let now := (begun.run since).scope v'
        (now.apply ticket page).2 = true → ticket.query = now.query := by
  intro h
  have hquery := h .server [] [] .pub .priv ⟨[], ⟨7⟩⟩ (by decide) rfl
  exact absurd hquery (by decide)

end KeyTables

end SigningConsole
