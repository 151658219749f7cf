import SigningConsole.Console.Basic
import SigningConsole.Report.Records
/-!
The commands about certificates and cooperators, whose answers are free-form.
-/

namespace SigningConsole

open Text

/-- Prints a free-form value: its records as a table, or else JSON. -/
def Run.value (e : Setup) (v : Json) : Run Unit := do
  if e.json then Run.json v
  else
    let text ← Run.demand (Report.valueText? v)
    Run.print (if text.endsWith "\n" then text else text ++ "\n")

/-! ## Certificates -/

namespace CertificateCommand

/-- Exports certificates into a file. -/
def runExport (e : Setup) (params : Parameters) (out : String) : Run Unit := do
  let bytes ← Run.call (e.client.certExport params)
  Run.changeFiles fun files => files.write out bytes
  Run.line ("Wrote " ++ natText bytes.length ++ " bytes to " ++ out)

/-- Runs a command. -/
def run (e : Setup) : CertificateCommand → Run Unit
  | search params => do Run.value e (← Run.call (e.client.free (Endpoint.certSearch params)))
  | exportCsv params out => runExport e params out
  | edit params => do Run.value e (← Run.call (e.client.free (Endpoint.certEdit params)))
  | uploadInfo params => do Run.value e (← Run.call (e.client.free (Endpoint.certEdit params)))
  | delete params => do Run.value e (← Run.call (e.client.free (Endpoint.certDelete params)))

end CertificateCommand

/-! ## Cooperators -/

namespace CooperatorCommand

/-- The name of the standard input as a file. -/
def standardInput : String := "-"

/-- The text of a file or of the standard input. -/
def readText (e : Setup) (file : String) : Run String :=
  if file = standardInput then
    match Utf8.toString? e.input with
    | some text => return text
    | none => throw (.file .invalidData)
  else Run.readFiles fun files => files.readText file

/-- Reads a JSON document. -/
def readDocument (e : Setup) (file : String) : Run Json := do
  match Json.readValue (← readText e file) with
  | .ok v => return v
  | .error cause => throw (.document cause)

/-- The address of a logo that a value is, or has as a member. -/
def logoOf? : Json → Option String
  | .str s => if s.startsWith "http" || s.startsWith "/" then some s else none
  | v => ["logo", "logoUrl", "url"].findSome? fun name => (v.get? name).bind Json.text?

/-- The address of the logo in an answer. -/
def logo? (v : Json) : Option String := logoOf? ((v.get? "data").getD v) <|> logoOf? v

/-- Shows the logo in an answer. -/
def showLogo (v : Json) : Run Unit :=
  match logo? v with
  | some url => Run.screen fun s => s.openImage url
  | none => pure ()

/-- Saves the cooperator that a document describes. -/
def runSave (e : Setup) (file : String) : Run Unit := do
  let doc ← readDocument e file
  if doc.isObject then Run.value e (← Run.call (e.client.cooperatorSave doc)) else throw .noObject

/-- Shows a cooperator with its logo. -/
def runDetails (e : Setup) (params : Parameters) : Run Unit := do
  let answer ← Run.call (e.client.free (Endpoint.cooperatorDetails params))
  showLogo answer
  Run.value e answer
  match e.json, (← get).screen.image with
  | false, some url => Run.line ("Logo: " ++ url)
  | _, _ => pure ()

/-- The upload of a file, whose content type is given or suggested by its name. -/
def logoUpload (file : String) (mime : Option String) (bytes : List UInt8) : Upload :=
  let fileName := (Files.fileName? file).getD "logo"
  { fileName, bytes, mime := mime.or (Mime.guess? fileName) }

/-- Uploads a logo and shows where it is. -/
def runUploadLogo (e : Setup) (file : String) (mime : Option String) : Run Unit := do
  let bytes ← Run.readFiles fun files => files.read file
  let answer ← Run.call (e.client.free (Endpoint.uploadLogo (logoUpload file mime bytes)))
  showLogo answer
  Run.value e answer

/-- Runs a command. -/
def run (e : Setup) : CooperatorCommand → Run Unit
  | list params => do Run.value e (← Run.call (e.client.free (Endpoint.cooperatorList params)))
  | categories params => do
    Run.value e (← Run.call (e.client.free (Endpoint.certificateCategories params)))
  | types => do Run.value e (← Run.call (e.client.free Endpoint.certificateTypes))
  | save file => runSave e file
  | delete params => do Run.value e (← Run.call (e.client.free (Endpoint.cooperatorDelete params)))
  | details params => runDetails e params
  | uploadLogo file mime => runUploadLogo e file mime

end CooperatorCommand

end SigningConsole
