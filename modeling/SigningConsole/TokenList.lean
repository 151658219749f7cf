import SigningConsole.Backend.Calls
/-!
The API tokens of the user. Every change of them fetches the list again.
-/

namespace SigningConsole

/-- The tokens as they were last listed, and the one that was last created. -/
structure TokenList where
  tokens : List ApiToken := []
  /-- The token that was created last, the only one whose secret is known. -/
  lastCreated : Option ApiToken := none

namespace TokenList

variable {σ : Type}

/-- Fetches the list. -/
def refresh (calls : TokenCalls σ) (l : TokenList) :
    StateM σ (Except BackendError Unit × TokenList) := do
  match ← calls.listTokens.run with
  | .ok tokens => return (.ok (), { l with tokens })
  | .error e => return (.error e, l)

/-- Creates a token and fetches the list. -/
def create (calls : TokenCalls σ) (description : String) (l : TokenList) :
    StateM σ (Except BackendError ApiToken × TokenList) := do
  match ← (calls.createToken { description }).run with
  | .error e => return (.error e, l)
  | .ok token =>
    let (result, l) ← TokenList.refresh calls { l with lastCreated := some token }
    return (result.map fun _ => token, l)

/-- Deletes a token and fetches the list. -/
def delete (calls : TokenCalls σ) (id : Int32) (l : TokenList) :
    StateM σ (Except BackendError Unit × TokenList) := do
  match ← (calls.deleteToken id).run with
  | .error e => return (.error e, l)
  | .ok _ => l.refresh calls

end TokenList

end SigningConsole
