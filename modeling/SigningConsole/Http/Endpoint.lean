import SigningConsole.Account
import SigningConsole.Login.Redirect
import SigningConsole.Http.Request
import SigningConsole.Key.Query
import SigningConsole.Text.Decimal
import SigningConsole.Variant
/-!
The endpoints of the backend, each as a description of the call.
-/

namespace SigningConsole.Endpoint

open Text

/-! ## Users and API tokens -/

/-- Where users are. -/
def users : String := "/api/v1/users"

/-- Where the certification console logs in and out. -/
def consoleAccess : String := "/api-certification/console/auth"

/-- Where to log in. -/
def loginUrl : CallPlan := .get (users ++ "/login") []

/-- Who is logged in. -/
def userInfo : CallPlan := .get (users ++ "/info") []

/-- What the user may do. -/
def permissions (params : Parameters) : CallPlan := .get (users ++ "/") params

/-- Exchanges an authorization code. -/
def exchange (variant : Variant) (code : RedirectCode) : CallPlan :=
  let path :=
    match variant with
    | .signatrust => users ++ "/callback"
    | .certification => consoleAccess ++ "/login"
  .get path (Parameters.add? [("code", code.code)] "state" code.state)

/-- Ends the session. -/
def logout (variant : Variant) : CallPlan :=
  match variant with
  | .signatrust => { method := .post, path := users ++ "/logout", response := .empty }
  | .certification => { method := .get, path := consoleAccess ++ "/logout", response := .empty }

/-- Lists API tokens. -/
def listTokens : CallPlan := .get (users ++ "/api_keys") []

/-- Creates an API token. -/
def createToken (request : NewToken) : CallPlan :=
  { method := .post, path := users ++ "/api_keys", body := .json request.toJson }

/-- Deletes an API token. -/
def deleteToken (id : Int32) : CallPlan :=
  { method := .delete, path := users ++ "/api_keys/" ++ intText id.toInt, response := .empty }

/-! ## Keys -/

/-- Where keys are. -/
def keys : String := "/api/v1/keys"

/-- Lists keys. -/
def listKeys (query : KeyQuery) : CallPlan := .get (keys ++ "/") query.pairs

/-- Shows a key. -/
def showKey (id : Int32) : CallPlan := .get (keys ++ "/" ++ intText id.toInt) []

/-- Creates a key. -/
def createKey (request : NewKey) : CallPlan :=
  { method := .post, path := keys ++ "/", body := .json request.toJson }

/-- Imports a key. -/
def importKey (request : ImportedKey) : CallPlan :=
  { method := .post, path := keys ++ "/import", body := .json request.toJson }

/-- Acts on a key; only an export is answered with a body. -/
def keyOperation (id : Int32) (action : KeyOperation) : CallPlan :=
  { method := .post
    path := keys ++ "/" ++ intText id.toInt ++ "/" ++ action.segment
    response := if action = .exportKey then .json else .empty }

/-- Asks whether a key's name is free. -/
def nameInUse (name : String) (visibility : Visibility) : CallPlan :=
  { method := .head
    path := keys ++ "/name_identical"
    query := [("name", name), ("visibility", visibility.text)]
    response := .empty }

/-! ## Certificates -/

/-- Where certificates are. -/
def certification : String := "/api-certification/console/certification"

/-- Searches certificates. -/
def certSearch (params : Parameters) : CallPlan := .get (certification ++ "/list") params

/-- Exports certificates as a file. -/
def certExport (params : Parameters) : CallPlan :=
  { method := .get, path := certification ++ "/list/certInfoExport", query := params,
    response := .blob }

/-- Changes a certificate, or uploads what is known about it. -/
def certEdit (params : Parameters) : CallPlan :=
  { method := .put, path := certification, query := params }

/-- Deletes a certificate. -/
def certDelete (params : Parameters) : CallPlan :=
  { method := .delete, path := certification, query := params }

/-- Counts certificates by cooperator. -/
def certificateCounts : CallPlan := .get (certification ++ "/statistics/countByCooperator") []

/-- Counts certificates over a window of time. -/
def certificateGrowth (params : Parameters) : CallPlan :=
  .get (certification ++ "/statistics/countByIncrease") params

/-! ## Cooperators -/

/-- Where the certification console is. -/
def console : String := "/api-certification/console"

/-- Lists cooperators. -/
def cooperatorList (params : Parameters) : CallPlan := .get (console ++ "/cooperator/list") params

/-- Lists categories of certificates. -/
def certificateCategories (params : Parameters) : CallPlan :=
  .get (console ++ "/cooperator/certCategory/list") params

/-- Lists types of certificates. -/
def certificateTypes : CallPlan := .get (console ++ "/certType/list") []

/-- Saves a cooperator. -/
def cooperatorSave (document : Json) : CallPlan :=
  { method := .post, path := console ++ "/cooperator/save", body := .json document }

/-- Deletes a cooperator; its parameters stand in the query. -/
def cooperatorDelete (params : Parameters) : CallPlan :=
  { method := .post, path := console ++ "/cooperator/delete", query := params }

/-- Shows a cooperator. -/
def cooperatorDetails (params : Parameters) : CallPlan :=
  .get (console ++ "/cooperator/detail") params

/-- Uploads a logo. -/
def uploadLogo (upload : Upload) : CallPlan :=
  { method := .post, path := console ++ "/fileUpload?type=LOGO", body := .multipart upload }

end SigningConsole.Endpoint
