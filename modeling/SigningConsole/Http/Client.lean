import SigningConsole.Http.Adapter
import SigningConsole.Http.Endpoint
/-!
The calls of the backend with typed answers.
-/

namespace SigningConsole

open Calendar Json Text

/-- An adapter, the console it works for, and a clock. -/
structure Client (σ : Type) where
  adapter : Adapter σ
  variant : Variant
  /-- Reads the clock. -/
  now : StateM σ ClockTime

namespace Client

variable {σ α : Type}

/-- Sends a described request. -/
def request (c : Client σ) (spec : CallPlan) : Call σ Payload := do
  let now ← c.now
  c.adapter.request now spec

/-- Sends a described request and reads the answer. -/
def json (c : Client σ) (d : Decoder α) (spec : CallPlan) : Call σ α := do
  let now ← c.now
  c.adapter.json now d spec

/-- Reads a free-form value. -/
def freeForm : Decoder Json := fun v => .ok v.normalize

/-- Logs what was done, for one of the groups of calls. -/
def info (c : Client σ) (group text : String) : Call σ Unit :=
  ExceptT.lift (c.adapter.log ⟨.info, "signatrust_client::api::" ++ group, text⟩)

/-! ## Users -/

/-- Where to log in, as the backend says. -/
def loginUrl (c : Client σ) : Call σ Json := c.json freeForm Endpoint.loginUrl

/-- Who is logged in. -/
def userInfo (c : Client σ) : Call σ Identity := c.json Identity.decode Endpoint.userInfo

/-- What the user may do. -/
def permissions (c : Client σ) (params : Parameters) : Call σ Json :=
  c.json freeForm (Endpoint.permissions params)

/-- Exchanging codes and ending sessions. -/
def auth (c : Client σ) : LoginCalls σ where
  redeem code := c.adapter.exchange (Endpoint.exchange c.variant code)
  logout := do
    let _ ← c.request (Endpoint.logout c.variant)

/-! ## API tokens -/

/-- Listing, creating and deleting API tokens. -/
def tokens (c : Client σ) : TokenCalls σ where
  listTokens := do return (← c.json (toOption (toList ApiToken.decode)) Endpoint.listTokens).getD []
  createToken r := do
    let token ← c.json ApiToken.decode (Endpoint.createToken r)
    c.info "users" ("API token created id=" ++ intText token.id.toInt)
    return token
  deleteToken id := do
    let _ ← c.request (Endpoint.deleteToken id)
    c.info "users" ("API token deleted id=" ++ intText id.toInt)

/-! ## Keys -/

/-- Listing keys. -/
def keys (c : Client σ) : KeyCalls σ :=
  ⟨fun query => c.json KeyPage.decode (Endpoint.listKeys query)⟩

/-- Shows a key. -/
def showKey (c : Client σ) (id : Int32) : Call σ KeyRecord :=
  c.json KeyRecord.decode (Endpoint.showKey id)

/-- Logs what was done with a key. -/
def keyInfo (c : Client σ) (done : String) (key : KeyRecord) : Call σ Unit :=
  c.info "keys" (done ++ " id=" ++ intText key.id.toInt ++ " name=" ++ key.name)

/-- Creates a key. -/
def createKey (c : Client σ) (r : NewKey) : Call σ KeyRecord := do
  let key ← c.json KeyRecord.decode (Endpoint.createKey r)
  c.keyInfo "Key created" key
  return key

/-- Imports a key. -/
def importKey (c : Client σ) (r : ImportedKey) : Call σ KeyRecord := do
  let key ← c.json KeyRecord.decode (Endpoint.importKey r)
  c.keyInfo "Key imported" key
  return key

/-- Acts on a key; an export is no action, because it is answered with a body. -/
def keyOperation (c : Client σ) (id : Int32) (action : KeyOperation) : Call σ Unit := do
  if action = .exportKey then throw (.request .exportAsAction)
  else
    let _ ← c.request (Endpoint.keyOperation id action)
    c.info "keys"
      ("Key action applied id=" ++ intText id.toInt ++ " action=" ++ quoted action.segment)

/-- Exports a key. -/
def exportKey (c : Client σ) (id : Int32) : Call σ KeyExport :=
  c.json KeyExport.decode (Endpoint.keyOperation id .exportKey)

/-- Whether a key's name is free: a conflict says that it is taken. -/
def isNameFree (c : Client σ) (name : String) (visibility : Visibility) : Call σ Bool :=
  ExceptT.mk do
    match ← (c.request (Endpoint.nameInUse name visibility)).run with
    | .ok _ => return .ok true
    | .error (.status 409 _) => return .ok false
    | .error e => return .error e

/-! ## Certificates and cooperators -/

/-- Sends a described request and reads the answer as a free-form value. -/
def free (c : Client σ) (spec : CallPlan) : Call σ Json := c.json freeForm spec

/-- Exports certificates as a file. -/
def certExport (c : Client σ) (params : Parameters) : Call σ (List UInt8) := do
  return (← c.request (Endpoint.certExport params)).bytes

/-- Counting certificates. -/
def statistics (c : Client σ) : StatisticsCalls σ where
  certificateCounts := c.free Endpoint.certificateCounts
  certificateGrowth params := c.free (Endpoint.certificateGrowth params)

/-- Saves a cooperator. -/
def cooperatorSave (c : Client σ) (doc : Json) : Call σ Json := do
  let saved ← c.free (Endpoint.cooperatorSave doc)
  c.info "cooperator" "Cooperator saved"
  return saved

end Client

end SigningConsole
