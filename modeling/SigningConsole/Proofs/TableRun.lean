import SigningConsole.Key.Table
/-!
Runs of a table, and which of the pages that come in it takes.

A run is any mixture of changes, of fetches that begin, and of pages that come in for any ticket, in
any order and as often as they like. A step makes a new generation exactly when it is a change
(`KeyTable.step_generation`), and any other step leaves the query alone (`KeyTable.step_query`).
Over a run the generation therefore counts the changes, modulo the 2⁶⁴ generations that there are
(`KeyTable.run_generation`), and as long as there are fewer changes than that, the generation of a
ticket says whether there was one since.
-/

namespace SigningConsole

/-- A change of page or search. -/
inductive TableChange where
  | turnTo (page : UInt64)
  | resize (size : UInt64)
  | searchFor (text : String)
  | setField (field : KeyField)

/-- What happens to a table. -/
inductive TableAction where
  | change (c : TableChange)
  /-- A fetch begins with a ticket for the current generation. -/
  | begin
  /-- A page comes in that answers a ticket. -/
  | answer (ticket : PageTicket) (page : KeyPage)

/-- Whether the action is a change. -/
def TableAction.isChange : TableAction → Bool
  | change _ => true
  | _ => false

/-- How many of the actions are changes. -/
def changeCount (actions : List TableAction) : Nat := actions.countP TableAction.isChange

theorem changeCount_append (before after : List TableAction) :
    changeCount (before ++ after) = changeCount before + changeCount after := List.countP_append

namespace KeyTable

/-- Makes a change. -/
def make (t : KeyTable) : TableChange → KeyTable
  | .turnTo page => t.turnTo page
  | .resize size => t.resize size
  | .searchFor text => t.searchFor text
  | .setField field => t.setField field

/-- The table after an action. -/
def step (t : KeyTable) : TableAction → KeyTable
  | .change c => t.make c
  | .begin => t
  | .answer ticket page => (t.apply ticket page).1

/-- The table after actions in order. -/
def run (t : KeyTable) (actions : List TableAction) : KeyTable := actions.foldl step t

/-! ## One step -/

/-- Every change makes the next generation, also one that writes what is there already. -/
theorem make_generation (t : KeyTable) (c : TableChange) :
    (t.make c).generation = t.generation + 1 := by
  cases c with
  | turnTo page => rfl
  | resize size => rfl
  | searchFor text => rfl
  | setField field => rfl

/-- A ticket asks for what the table shows when it is begun. -/
@[simp] theorem ticket_query (t : KeyTable) : t.ticket.query = t.query := by
  rw [ticket]

@[simp] theorem install_generation (t : KeyTable) (page : KeyPage) :
    (t.install page).generation = t.generation := rfl

/-- The total that a page brings is no part of the query. -/
@[simp] theorem install_query (t : KeyTable) (page : KeyPage) :
    (t.install page).query = t.query := rfl

theorem apply_of_eq {t : KeyTable} {ticket : PageTicket} (h : ticket.generation = t.generation)
    (page : KeyPage) :
    t.apply ticket page = (t.install page, true) := by
  unfold apply
  rw [if_pos h]

theorem apply_of_ne {t : KeyTable} {ticket : PageTicket} (h : ticket.generation ≠ t.generation)
    (page : KeyPage) :
    t.apply ticket page = (t, false) := by
  unfold apply
  rw [if_neg h]

theorem apply_snd_iff (t : KeyTable) (ticket : PageTicket) (page : KeyPage) :
    (t.apply ticket page).2 = true ↔ ticket.generation = t.generation := by
  by_cases h : ticket.generation = t.generation
  · rw [apply_of_eq h]
    exact iff_of_true rfl h
  · rw [apply_of_ne h]
    exact iff_of_false Bool.false_ne_true h

theorem apply_generation (t : KeyTable) (ticket : PageTicket) (page : KeyPage) :
    (t.apply ticket page).1.generation = t.generation := by
  by_cases h : ticket.generation = t.generation
  · rw [apply_of_eq h, install_generation]
  · rw [apply_of_ne h]

theorem apply_query (t : KeyTable) (ticket : PageTicket) (page : KeyPage) :
    (t.apply ticket page).1.query = t.query := by
  by_cases h : ticket.generation = t.generation
  · rw [apply_of_eq h, install_query]
  · rw [apply_of_ne h]

theorem step_generation (t : KeyTable) (action : TableAction) :
    (t.step action).generation = t.generation + if action.isChange then 1 else 0 := by
  cases action with
  | change c => exact make_generation t c
  | begin => exact (UInt64.add_zero t.generation).symm
  | answer ticket page =>
    exact (apply_generation t ticket page).trans (UInt64.add_zero t.generation).symm

theorem step_query {action : TableAction} (h : action.isChange = false) (t : KeyTable) :
    (t.step action).query = t.query := by
  cases action with
  | change c => cases h
  | begin => rfl
  | answer ticket page => exact apply_query t ticket page

/-! ## Runs -/

/-- The generation counts the changes. -/
theorem run_generation (t : KeyTable) (actions : List TableAction) :
    (t.run actions).generation = t.generation + UInt64.ofNat (changeCount actions) := by
  induction actions generalizing t with
  | nil => exact (UInt64.add_zero t.generation).symm
  | cons action rest ih =>
    have hcount : UInt64.ofNat (changeCount (action :: rest)) =
        (if action.isChange then 1 else 0) + UInt64.ofNat (changeCount rest) := by
      unfold changeCount
      rw [List.countP_cons, Nat.add_comm, UInt64.ofNat_add]
      split <;> rfl
    calc ((t.step action).run rest).generation
        = (t.step action).generation + UInt64.ofNat (changeCount rest) := ih (t.step action)
      _ = t.generation + UInt64.ofNat (changeCount (action :: rest)) := by
        rw [step_generation, hcount, UInt64.add_assoc]

/-- Without a change the query stays. -/
theorem run_query {actions : List TableAction} (h : changeCount actions = 0) (t : KeyTable) :
    (t.run actions).query = t.query := by
  induction actions generalizing t with
  | nil => rfl
  | cons action rest ih =>
    obtain ⟨hrest, haction⟩ : changeCount rest = 0 ∧ action.isChange = false := by
      unfold changeCount at h ⊢
      rw [List.countP_cons] at h
      cases ha : action.isChange with
      | true => simp [ha] at h
      | false => exact ⟨by simpa [ha] using h, rfl⟩
    exact (ih hrest (t.step action)).trans (step_query haction t)

/-- A generation comes back only after all the others. -/
theorem run_generation_eq_iff (t : KeyTable) {actions : List TableAction}
    (h : changeCount actions < UInt64.size) :
    t.generation = (t.run actions).generation ↔ changeCount actions = 0 := by
  rw [run_generation]
  constructor
  · intro heq
    have hzero : UInt64.ofNat (changeCount actions) = 0 := by
      have hadd : t.generation + 0 = t.generation + UInt64.ofNat (changeCount actions) := by
        rw [UInt64.add_zero]
        exact heq
      exact ((UInt64.add_right_inj t.generation).1 hadd).symm
    have hnat := congrArg UInt64.toNat hzero
    rwa [UInt64.toNat_ofNat_of_lt' h] at hnat
  · intro hzero
    rw [hzero]
    exact (UInt64.add_zero t.generation).symm

/-- In a run with fewer than 2⁶⁴ changes, the page for a ticket is taken just when nothing was
changed since the ticket was begun. The ticket then asks for what the table shows; a page that is
not taken leaves the table as it is. -/
theorem page_taken_iff_unchanged (t : KeyTable) (before since : List TableAction)
    (hfew : changeCount (before ++ since) < UInt64.size) (page : KeyPage) :
    let ticket := (t.run before).ticket
    let now := (t.run before).run since
    ((now.apply ticket page).2 = true ↔ ∀ action ∈ since, action.isChange = false) ∧
      ((now.apply ticket page).2 = true → ticket.query = now.query) ∧
      ((now.apply ticket page).2 = false → (now.apply ticket page).1 = now) := by
  intro ticket now
  have hsince : changeCount since < UInt64.size := by
    rw [changeCount_append] at hfew
    omega
  have hcount : (now.apply ticket page).2 = true ↔ changeCount since = 0 := by
    rw [apply_snd_iff]
    exact run_generation_eq_iff (t.run before) hsince
  refine ⟨?_, fun htaken => ?_, fun hrefused => ?_⟩
  · rw [hcount]
    unfold changeCount
    simp
  · have hquery : now.query = (t.run before).query := run_query (hcount.1 htaken) (t.run before)
    show (t.run before).ticket.query = now.query
    rw [hquery, ticket_query]
  · have hne : ticket.generation ≠ now.generation := by
      intro heq
      rw [(apply_snd_iff now ticket page).2 heq] at hrefused
      cases hrefused
    rw [apply_of_ne hne]

/-- A page that was asked for before the table turned to the page where it was is not taken; one
that is asked for afterwards is, as often as it comes. -/
theorem page_refused_after_turning_in_place :
    let t := empty .pub .server
    let late := t.ticket
    let turned := t.step (.change (.turnTo 1))
    turned.paging = t.paging ∧ (turned.apply late ⟨[], ⟨7⟩⟩).2 = false ∧
      (((turned.step (.answer turned.ticket ⟨[], ⟨7⟩⟩)).apply turned.ticket
        ⟨[], ⟨8⟩⟩).2 = true) := by
  intro t late turned
  have hlate := page_taken_iff_unchanged t [] [.change (.turnTo 1)] (by decide) ⟨[], ⟨7⟩⟩
  have hagain :=
    page_taken_iff_unchanged t [.change (.turnTo 1)] [.answer turned.ticket ⟨[], ⟨7⟩⟩]
      (by decide) ⟨[], ⟨8⟩⟩
  refine ⟨rfl, ?_, hagain.1.2 (by simp [TableAction.isChange])⟩
  have hnot : ¬ ((turned.apply late ⟨[], ⟨7⟩⟩).2 = true) := by
    intro htaken
    have := hlate.1.1 htaken (.change (.turnTo 1)) (List.mem_singleton.2 rfl)
    cases this
  exact Bool.eq_false_iff.2 hnot

end KeyTable

end SigningConsole
