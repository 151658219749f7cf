import SigningConsole.Account
import SigningConsole.Login.Redirect
import SigningConsole.Backend.Error
import SigningConsole.Key.Query
/-!
What the console asks of the backend, as operations on a state `σ` of the world.

The tables, lists and the login flow are written over these calls, so that they can be run
against any backend.
-/

namespace SigningConsole

/-- A call of the backend. -/
abbrev Call (σ : Type) := ExceptT BackendError (StateM σ)

/-- Lists keys. -/
structure KeyCalls (σ : Type) where
  listKeys (query : KeyQuery) : Call σ KeyPage

/-- Lists, creates and deletes the API tokens of the user. -/
structure TokenCalls (σ : Type) where
  listTokens : Call σ (List ApiToken)
  createToken (request : NewToken) : Call σ ApiToken
  deleteToken (id : Int32) : Call σ Unit

/-- Exchanges authorization codes and ends sessions. -/
structure LoginCalls (σ : Type) where
  redeem (code : RedirectCode) : Call σ Grant
  logout : Call σ Unit

/-- Counts certificates. -/
structure StatisticsCalls (σ : Type) where
  certificateCounts : Call σ Json
  certificateGrowth (params : Parameters) : Call σ Json

end SigningConsole
