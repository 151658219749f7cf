import SigningConsole.Proofs.After
import SigningConsole.Proofs.TableRun
/-!
Fetches: what a table asks the backend for, and what the reply makes of it.

Between the question and the reply the table belongs to the fetch alone, so the ticket of a fetch is
always of the current generation, and a page that comes for it is always taken
(`KeyTable.apply_own`). A fetch therefore sends one query and comes to what its reply says
(`KeyTable.fetch_asks`). The fetch of both scopes is one fetch after the other, each on its own
table; the first failure is its end (`KeyTables.scopes_fetched_apart`).

`KeyCalls.noted` notes each query with its reply beside the state of the calls. Nothing is
assumed of the replies.
-/

namespace SigningConsole

variable {σ : Type}

/-- What happens at a table: an action, or a query that is sent to the backend, with its reply. -/
inductive TableEvent where
  | acted (action : TableAction)
  | asked (query : KeyQuery) (reply : Except BackendError KeyPage)

/-- The calls with a note of each query, beside their own state. -/
def KeyCalls.noted (calls : KeyCalls σ) : KeyCalls (σ × List TableEvent) where
  listKeys query := ExceptT.mk do
    let reply ← Part.first.run (calls.listKeys query).run
    Part.second.modify (· ++ [.asked query reply])
    return reply

namespace KeyTable

/-- The table after a reply to its own query. -/
def receive (t : KeyTable) : Except BackendError KeyPage → KeyTable
  | .ok page => (t.apply t.ticket page).1
  | .error _ => t

/-- A ticket that was just begun is of the current generation. -/
theorem apply_own (t : KeyTable) (page : KeyPage) :
    t.apply t.ticket page = (t.install page, true) :=
  apply_of_eq rfl page

/-- A fetch sends the query that the table shows. A failure leaves the table as it is, and a
page is always taken. -/
theorem fetch_asks (calls : KeyCalls σ) (t : KeyTable) (w : σ × List TableEvent) :
    After (t.fetch calls.noted) w fun r w' => ∃ reply, w'.2 = w.2 ++ [.asked t.query reply] ∧
      r = (reply.map fun _ => true, t.receive reply) := by
  have hnote : After (calls.noted.listKeys t.ticket.query).run w fun reply w' =>
      w'.2 = w.2 ++ [.asked t.query reply] := by
    rw [ticket_query]
    rfl
  unfold fetch
  refine hnote.bind fun reply w' hw' => ?_
  cases reply with
  | ok page =>
    have htaken : t.apply t.ticket page = ((t.apply t.ticket page).1, true) := by rw [apply_own]
    refine ⟨.ok page, hw', ?_⟩
    dsimp only
    rw [htaken]
    rfl
  | error e => exact ⟨.error e, hw', rfl⟩

end KeyTable

namespace KeyTables

/-- A fetch of one scope leaves the table of the other as it is. -/
theorem fetch_asks (calls : KeyCalls σ) (v : Visibility) (ts : KeyTables)
    (w : σ × List TableEvent) :
    After (ts.fetch calls.noted v) w
      fun r w' => ∃ reply, w'.2 = w.2 ++ [.asked (ts.scope v).query reply] ∧
      r = (reply.map fun _ => true, ts.set v ((ts.scope v).receive reply)) := by
  unfold fetch
  refine ((ts.scope v).fetch_asks calls w).bind fun r w' hr => ?_
  obtain ⟨reply, hw', rfl⟩ := hr
  exact ⟨reply, hw', rfl⟩

/-- A table's fetch sends its query. If that fails, everything is as it was, and otherwise the page
is taken. The fetch of both scopes sends the public query first. If that fails, this is its outcome,
no other query is sent and both tables are as they were. Otherwise the private query is sent, the
outcome is that of its reply, and each table is what the reply to its own query makes of it. -/
theorem scopes_fetched_apart (calls : KeyCalls σ) (ts : KeyTables) (w : σ × List TableEvent) :
    (∀ t : KeyTable, After (t.fetch calls.noted) w fun r w' =>
      (∃ e, w'.2 = w.2 ++ [.asked t.query (.error e)] ∧ r = (.error e, t)) ∨
      ∃ page, w'.2 = w.2 ++ [.asked t.query (.ok page)] ∧
        r = (.ok true, (t.apply t.ticket page).1)) ∧
    After (ts.fetchBoth calls.noted) w fun r w' =>
      (∃ e, w'.2 = w.2 ++ [.asked ts.pub.query (.error e)] ∧ r = (.error e, ts)) ∨
      ∃ page reply, w'.2 = w.2 ++ [.asked ts.pub.query (.ok page), .asked ts.priv.query reply] ∧
        r = (reply.map fun _ => (), ⟨ts.pub.receive (.ok page), ts.priv.receive reply⟩) := by
  constructor
  · intro t
    refine (t.fetch_asks calls w).mono fun r w' hr => ?_
    obtain ⟨reply, hw', rfl⟩ := hr
    cases reply with
    | ok page => exact .inr ⟨page, hw', rfl⟩
    | error e => exact .inl ⟨e, hw', rfl⟩
  · unfold fetchBoth
    refine (ts.fetch_asks calls .pub w).bind fun r w' hr => ?_
    obtain ⟨reply, hw', rfl⟩ := hr
    cases reply with
    | error e => exact .inl ⟨e, hw', rfl⟩
    | ok page =>
      refine ((ts.set .pub (ts.pub.receive (.ok page))).fetch_asks calls .priv w').bind
        fun r w'' hr => ?_
      obtain ⟨reply, hw'', rfl⟩ := hr
      have hasked :
          w''.2 = w.2 ++ [.asked ts.pub.query (.ok page), .asked ts.priv.query reply] := by
        rw [hw'', hw', List.append_assoc]
        rfl
      refine .inr ⟨page, reply, hasked, ?_⟩
      cases reply with
      | ok page' => rfl
      | error e => rfl

end KeyTables

end SigningConsole
