import SigningConsole.Console.Basic
import SigningConsole.Report.Timestamp
/-!
The commands about API tokens.
-/

namespace SigningConsole

open Text

/-- The row of a token. -/
def ApiToken.row? (t : ApiToken) : Option (List String) := do
  return [intText t.id.toInt, t.description, ← Report.timestamp? t.createdAt,
    ← Report.timestamp? t.expiresAt]

/-- Tokens as a table. -/
def ApiToken.report? (tokens : List ApiToken) : Option Table := do
  return { headers := ["ID", "DESCRIPTION", "CREATED", "EXPIRES"],
           rows := ← tokens.mapM ApiToken.row? }

namespace TokenCommand

/-- Runs an operation of the list of tokens. -/
def withList {α : Type} (op : TokenList → StateM Console (Except BackendError α × TokenList)) :
    Run α := do
  let (result, tokens) ← op (← get).tokens
  modify fun c => { c with tokens }
  Run.answered result

/-- Prints the tokens of the list. -/
def printList (e : Setup) : Run Unit := do
  let tokens := (← get).tokens.tokens
  if e.json then Run.json (.arr (tokens.map ApiToken.toJson))
  else if tokens.isEmpty then Run.line "No API tokens."
  else Run.table (← Run.demand (ApiToken.report? tokens))

/-- Prints a token that was created, with its secret. -/
def printCreated (e : Setup) (t : ApiToken) : Run Unit := do
  if e.json then Run.json t.toJson
  else
    Run.line ("Created API token " ++ intText t.id.toInt ++ " (" ++ t.description ++ ")")
    Run.line t.token
    Run.line "Store it now; it cannot be shown again."

/-- Runs a command. -/
def run (e : Setup) : TokenCommand → Run Unit
  | list => do
    withList (TokenList.refresh e.client.tokens)
    printList e
  | create description => do
    printCreated e (← withList (TokenList.create e.client.tokens description))
  | delete id => do
    withList (TokenList.delete e.client.tokens id)
    Run.line ("Deleted API token " ++ intText id.toInt)
    printList e

end TokenCommand

end SigningConsole
