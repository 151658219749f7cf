import SigningConsole.Proofs.After
import SigningConsole.TokenList
/-!
What a list of tokens knows of the calls that were made for it.

A history is the calls in order, each with its reply. The list shows the tokens that were listed
last and the token that was created last, and no more of the history than that
(`TokenList.ofHistory`). `TokenAction.Makes` says which calls an operation makes: one list, or a
change that is followed by a list just when the change succeeds. The first failure among them is
what the operation comes to (`TokenCall.outcome`).

Nothing is assumed of the replies. The calls are seen in the state where `history` finds them, and
`TokenCalls.Notes` says that they are noted there as they are made.
-/

namespace SigningConsole

variable {σ : Type}

/-- A call for tokens with its reply. -/
inductive TokenCall where
  | list (reply : Except BackendError (List ApiToken))
  | create (request : NewToken) (reply : Except BackendError ApiToken)
  | delete (id : Int32) (reply : Except BackendError Unit)

namespace TokenCall

/-- Whether the call changes the tokens at the backend. -/
def isChange : TokenCall → Bool
  | list _ => false
  | _ => true

/-- Why the call failed, if it did. -/
def failure? : TokenCall → Option BackendError
  | list (.error e) => some e
  | create _ (.error e) => some e
  | delete _ (.error e) => some e
  | _ => none

/-- The tokens that the call listed. -/
def listed? : TokenCall → Option (List ApiToken)
  | list (.ok tokens) => some tokens
  | _ => none

/-- The token that the call created. -/
def created? : TokenCall → Option ApiToken
  | create _ (.ok token) => some token
  | _ => none

/-- The token that was created last in a history. -/
def lastCreated? (history : List TokenCall) : Option ApiToken :=
  (history.filterMap created?).getLast?

/-- What an operation comes to by the calls it makes: the first failure, or else the token
it created, if any. -/
def outcome (made : List TokenCall) : Except BackendError (Option ApiToken) :=
  match made.findSome? failure? with
  | some e => .error e
  | none => .ok (lastCreated? made)

end TokenCall

/-- The calls note each call with its reply. -/
structure TokenCalls.Notes (calls : TokenCalls σ) (history : σ → List TokenCall) : Prop where
  list : ∀ w, After calls.listTokens.run w fun reply w' => history w' = history w ++ [.list reply]
  create : ∀ request w,
    After (calls.createToken request).run w fun reply w' =>
      history w' = history w ++ [.create request reply]
  delete : ∀ id w, After (calls.deleteToken id).run w fun reply w' =>
    history w' = history w ++ [.delete id reply]

/-- The calls with a note of each, beside their own state. -/
def TokenCalls.noted (calls : TokenCalls σ) : TokenCalls (σ × List TokenCall) :=
  let note {α : Type} (m : Call σ α) (call : Except BackendError α → TokenCall) :
      Call (σ × List TokenCall) α :=
    ExceptT.mk do
      let reply ← Part.first.run m.run
      Part.second.modify (· ++ [call reply])
      return reply
  { listTokens := note calls.listTokens .list
    createToken := fun request => note (calls.createToken request) (.create request)
    deleteToken := fun id => note (calls.deleteToken id) (.delete id) }

theorem TokenCalls.noted_notes (calls : TokenCalls σ) : calls.noted.Notes Prod.snd :=
  ⟨fun _ => rfl, fun _ _ => rfl, fun _ _ => rfl⟩

/-- An operation of the list. -/
inductive TokenAction where
  | refresh
  | create (description : String)
  | delete (id : Int32)

/-- Which calls an operation makes. -/
inductive TokenAction.Makes : TokenAction → List TokenCall → Prop where
  | refresh (reply) : Makes .refresh [.list reply]
  | notCreated (description cause) :
      Makes (.create description) [.create ⟨description⟩ (.error cause)]
  | created (description token reply) :
      Makes (.create description) [.create ⟨description⟩ (.ok token), .list reply]
  | notDeleted (id cause) : Makes (.delete id) [.delete id (.error cause)]
  | deleted (id reply) : Makes (.delete id) [.delete id (.ok ()), .list reply]

namespace TokenList

variable {calls : TokenCalls σ} {history : σ → List TokenCall}

/-- Performs an operation; what it comes to is the token that it created, if any. -/
def perform (calls : TokenCalls σ) (l : TokenList) :
    TokenAction → StateM σ (Except BackendError (Option ApiToken) × TokenList)
  | .refresh => (fun step => (step.1.map fun _ => none, step.2)) <$> l.refresh calls
  | .create description => (fun step => (step.1.map some, step.2)) <$> l.create calls description
  | .delete id => (fun step => (step.1.map fun _ => none, step.2)) <$> l.delete calls id

/-- The list after operations in order. -/
def run (calls : TokenCalls σ) (actions : List TokenAction) (l : TokenList) : StateM σ TokenList :=
  actions.foldlM (fun l action => Prod.snd <$> l.perform calls action) l

/-- What a history leaves to be shown. -/
def ofHistory (history : List TokenCall) : TokenList where
  tokens := (history.filterMap TokenCall.listed?).getLast?.getD []
  lastCreated := TokenCall.lastCreated? history

/-! ## What a call adds to a history -/

theorem ofHistory_list (h : List TokenCall) (tokens : List ApiToken) :
    ofHistory (h ++ [.list (.ok tokens)]) = { ofHistory h with tokens } := by
  simp [ofHistory, TokenCall.lastCreated?, TokenCall.listed?, TokenCall.created?]

theorem ofHistory_create (h : List TokenCall) (request : NewToken) (token : ApiToken) :
    ofHistory (h ++ [.create request (.ok token)]) =
      { ofHistory h with lastCreated := some token } := by
  simp [ofHistory, TokenCall.lastCreated?, TokenCall.listed?, TokenCall.created?]

/-- A token that is deleted stays on the list until the list is fetched. -/
theorem ofHistory_delete (h : List TokenCall) (id : Int32) (reply : Except BackendError Unit) :
    ofHistory (h ++ [.delete id reply]) = ofHistory h := by
  simp [ofHistory, TokenCall.lastCreated?, TokenCall.listed?, TokenCall.created?]

theorem ofHistory_failure {call : TokenCall} {e : BackendError} (h : List TokenCall)
    (hf : call.failure? = some e) :
    ofHistory (h ++ [call]) = ofHistory h := by
  have hnone : call.listed? = none ∧ call.created? = none := by
    cases call with
    | list reply => cases reply <;> first | exact ⟨rfl, rfl⟩ | cases hf
    | create request reply => cases reply <;> first | exact ⟨rfl, rfl⟩ | cases hf
    | delete id reply => exact ⟨rfl, rfl⟩
  simp [ofHistory, TokenCall.lastCreated?, hnone.1, hnone.2]

/-- A change that fails is the only call of its operation. -/
theorem ofHistory_refused {action : TokenAction} {made : List TokenCall} (hm : action.Makes made)
    (h : List TokenCall) (hf : ∃ call ∈ made, call.isChange ∧ call.failure?.isSome) :
    ofHistory (h ++ made) = ofHistory h := by
  obtain ⟨call, hcall, hchange, hfails⟩ := hf
  cases hm with
  | refresh reply =>
    cases List.mem_singleton.1 hcall
    cases hchange
  | notCreated description cause => exact ofHistory_failure h rfl
  | created description token reply =>
    obtain rfl | hcall := List.mem_cons.1 hcall
    · cases hfails
    · cases List.mem_singleton.1 hcall
      cases hchange
  | notDeleted id cause => exact ofHistory_failure h rfl
  | deleted id reply =>
    obtain rfl | hcall := List.mem_cons.1 hcall
    · cases hfails
    · cases List.mem_singleton.1 hcall
      cases hchange

/-! ## One operation -/

/-- What an operation does after a history: the calls that it makes, what it comes to by them, and
what the list shows in the end. -/
structure Performed (action : TokenAction) (before made : List TokenCall)
    (step : Except BackendError (Option ApiToken) × TokenList) : Prop where
  makes : action.Makes made
  result : step.1 = TokenCall.outcome made
  shows : step.2 = ofHistory (before ++ made)

/-- The list is fetched after the calls that were made before, or it stays as it was. -/
theorem refresh_fetches (hc : calls.Notes history) {l : TokenList} {w : σ}
    {before made : List TokenCall} (hw : history w = before ++ made)
    (hl : l = ofHistory (history w)) :
    After (l.refresh calls) w fun step w' =>
      ∃ reply, history w' = before ++ (made ++ [.list reply]) ∧
        step.1 = reply.map (fun _ => ()) ∧
        step.2 = ofHistory (before ++ (made ++ [.list reply])) := by
  unfold refresh
  refine (hc.list w).bind fun reply w' hw' => ?_
  rw [hw, List.append_assoc] at hw'
  rw [hw] at hl
  cases reply with
  | ok tokens =>
    refine ⟨.ok tokens, hw', rfl, ?_⟩
    rw [← List.append_assoc, ofHistory_list, ← hl]
    rfl
  | error e =>
    refine ⟨.error e, hw', rfl, ?_⟩
    rw [← List.append_assoc, ofHistory_failure _ rfl]
    exact hl

theorem create_performed (hc : calls.Notes history) (description : String) {l : TokenList} {w : σ}
    (hl : l = ofHistory (history w)) :
    After (l.perform calls (.create description)) w fun step w' => ∃ made,
      history w' = history w ++ made ∧ Performed (.create description) (history w) made step := by
  unfold perform create
  refine After.map_iff.2 ((hc.create ⟨description⟩ w).bind fun reply w' hw' => ?_)
  cases reply with
  | error e =>
    refine ⟨_, hw', .notCreated description e, rfl, ?_⟩
    exact hl.trans (ofHistory_failure _ rfl).symm
  | ok token =>
    -- the token is noted before the list is fetched, so it stays noted if that fails
    have hnoted : { l with lastCreated := some token } = ofHistory (history w') := by
      rw [hw', ofHistory_create, hl]
    refine (refresh_fetches hc hw' hnoted).bind fun step w'' h => ?_
    obtain ⟨reply, hw'', hresult, hshows⟩ := h
    refine ⟨_, hw'', .created description token reply, ?_, hshows⟩
    dsimp only
    rw [hresult]
    cases reply <;> rfl

theorem delete_performed (hc : calls.Notes history) (id : Int32) {l : TokenList} {w : σ}
    (hl : l = ofHistory (history w)) :
    After (l.perform calls (.delete id)) w fun step w' => ∃ made,
      history w' = history w ++ made ∧ Performed (.delete id) (history w) made step := by
  unfold perform delete
  refine After.map_iff.2 ((hc.delete id w).bind fun reply w' hw' => ?_)
  cases reply with
  | error e =>
    refine ⟨_, hw', .notDeleted id e, rfl, ?_⟩
    exact hl.trans (ofHistory_failure _ rfl).symm
  | ok _ =>
    have hsame : l = ofHistory (history w') := by
      rw [hw', ofHistory_delete, hl]
    refine (refresh_fetches hc hw' hsame).mono fun step w'' h => ?_
    obtain ⟨reply, hw'', hresult, hshows⟩ := h
    refine ⟨_, hw'', .deleted id reply, ?_, hshows⟩
    dsimp only
    rw [hresult]
    cases reply <;> rfl

theorem perform_performed (hc : calls.Notes history) (action : TokenAction) {l : TokenList} {w : σ}
    (hl : l = ofHistory (history w)) :
    After (l.perform calls action) w fun step w' => ∃ made,
      history w' = history w ++ made ∧ Performed action (history w) made step := by
  cases action with
  | refresh =>
    have hfetch := refresh_fetches hc (List.append_nil (history w)).symm hl
    refine After.map_iff.2 (hfetch.mono fun step w' h => ?_)
    obtain ⟨reply, hw', hresult, hshows⟩ := h
    refine ⟨_, hw', .refresh reply, ?_, hshows⟩
    dsimp only
    rw [hresult]
    cases reply <;> rfl
  | create description => exact create_performed hc description hl
  | delete id => exact delete_performed hc id hl

/-! ## Runs -/

/-- A list that shows its history goes on showing it. -/
theorem run_shows (hc : calls.Notes history) (actions : List TokenAction) {l : TokenList} {w : σ}
    (hl : l = ofHistory (history w)) :
    After (run calls actions l) w fun l' w' => l' = ofHistory (history w') := by
  induction actions generalizing l w with
  | nil => exact hl
  | cons action rest ih =>
    have hstep : After (Prod.snd <$> l.perform calls action) w
        fun l' w' => l' = ofHistory (history w') := by
      refine After.map_iff.2 ((perform_performed hc action hl).mono fun step w' h => ?_)
      obtain ⟨made, hw', hp⟩ := h
      rw [hw']
      exact hp.shows
    unfold run
    rw [List.foldlM_cons]
    exact hstep.bind fun l' w' hl' => ih hl'

/-- Whatever the backend replies, the list shows at every moment of a run what the last list call
listed and what the last create call created. A further operation makes its own calls and no others
and comes to the first failure among them; a change that fails leaves the list as it was. -/
theorem list_shows_last_replies (calls : TokenCalls σ) (actions : List TokenAction) (w : σ) :
    After (run calls.noted actions {}) (w, []) fun l w' =>
      l.tokens = (w'.2.filterMap TokenCall.listed?).getLast?.getD [] ∧
      l.lastCreated = (w'.2.filterMap TokenCall.created?).getLast? ∧
      ∀ action, After (l.perform calls.noted action) w' fun step w'' => ∃ made,
        w''.2 = w'.2 ++ made ∧ action.Makes made ∧ step.1 = TokenCall.outcome made ∧
        ((∃ call ∈ made, call.isChange ∧ call.failure?.isSome) → step.2 = l) := by
  have hc := calls.noted_notes
  have hstart : ({} : TokenList) = ofHistory [] := rfl
  refine (run_shows hc actions hstart).mono fun l w' hl => ?_
  refine ⟨congrArg TokenList.tokens hl, congrArg TokenList.lastCreated hl, fun action => ?_⟩
  refine (perform_performed hc action hl).mono fun step w'' h => ?_
  obtain ⟨made, hw'', hp⟩ := h
  refine ⟨made, hw'', hp.makes, hp.result, fun hf => ?_⟩
  rw [hp.shows, ofHistory_refused hp.makes _ hf]
  exact hl.symm

end TokenList

end SigningConsole
