import SigningConsole.Console.Basic
import SigningConsole.Report.Timestamp
/-!
The commands about keys.
-/

namespace SigningConsole

open Calendar Text

/-! ## Drafts -/

namespace KeyDescription

/-- The attributes by name. -/
def attributeMap (d : KeyDescription) : StringMap String := StringMap.ofList d.attributes

/-- When a key expires that is valid for a positive number of days. -/
def expiry? (now : Instant) (days : Int) : Option Instant :=
  if days ≤ 0 then none else (spanOfDays? days).bind now.add?

/-- The request for a key that is valid for some days from now. -/
def toCreate (d : KeyDescription) (now : Instant) (parentId : Option Int32) (days : Int) :
    Except Failure NewKey :=
  match expiry? now days with
  | none => .error (.badValidity days)
  | some expiry =>
    .ok
      { name := d.name, description := d.description, visibility := d.visibility,
        attributes := d.attributeMap
        keyType := d.keyType, parentId, expiresAt := String.ofList expiry.utcText }

/-- The import of a key whose material stands in files. -/
def toImport (d : KeyDescription) (from' : KeyPaths) (files : Files) :
    Except FileError ImportedKey := do
  return {
    name := d.name
    description := d.description
    visibility := d.visibility
    attributes := d.attributeMap
    keyType := d.keyType
    privateKey := ← files.readText from'.privateKey
    publicKey := ← files.readText from'.publicKey
    certificate :=
      ← match from'.certificate with | some path => files.readText path | none => .ok "" }

end KeyDescription

/-! ## Listings -/

/-- The table with a listing's page and search. -/
def Listing.apply (f : Listing) (t : KeyTable) : KeyTable :=
  (((t.resize f.pageSize).setField f.select).searchFor f.search).turnTo f.page

namespace KeyTable

/-- The line above a table: how many keys there are and which page is shown. -/
def caption (t : KeyTable) : String :=
  t.visibility.text ++ " keys: " ++ natText t.paging.totalCount.toNat ++ " total, page " ++
    natText t.paging.page.toNat ++ "/" ++ natText (max t.pageCount 1) ++ " (pgp " ++
    natText t.counts.pgp ++ ", x509 " ++ natText t.counts.x509 ++ ")"

/-- The row of a key. -/
def row? (k : KeyRecord) : Option (List String) := do
  return [intText k.id.toInt, k.name, k.keyType, k.state.text, ← Report.timestamp? k.expiresAt,
    k.description]

/-- The keys of the current page as a table. -/
def report? (t : KeyTable) : Option Table := do
  return { headers := ["ID", "NAME", "TYPE", "STATE", "EXPIRES", "DESCRIPTION"],
           rows := ← t.displayed.mapM row? }

/-- The current page as JSON. -/
def toJson (t : KeyTable) : Json :=
  .obj
    [("data", .arr (t.displayed.map fun k => k.toJson.normalize)),
      ("page", Json.ofUInt64 t.paging.page),
      ("page_size", Json.ofUInt64 t.paging.pageSize),
      ("total_count", Json.ofUInt64 t.paging.totalCount)]

end KeyTable

/-- Fields and values of a key as a table. -/
def KeyRecord.report? (k : KeyRecord) : Option Table := do
  let created ← Report.timestamp? k.createdAt
  let expires ← Report.timestamp? k.expiresAt
  return {
    headers := ["FIELD", "VALUE"]
    rows :=
      [["id", intText k.id.toInt], ["name", k.name], ["description", k.description],
          ["visibility", k.visibility.text], ["type", k.keyType], ["state", k.state.text],
          ["owner", k.userEmail.getD (intText k.user.toInt)], ["fingerprint", k.fingerprint],
          ["serial", k.serialNumber.getD ""],
          ["parent", (k.parentId.map fun p => intText p.toInt).getD ""], ["created", created],
          ["expires", expires]] ++
        k.attributes.entries.map (fun (name, value) => ["attr." ++ name, value]) ++
        (k.deleteRequestedBy.toList.map fun users => ["delete requested by", users]) ++
        k.revokeRequestedBy.toList.map fun users => ["revoke requested by", users] }

/-! ## Commands -/

namespace KeyCommand

/-- The scopes that a listing shows. -/
def scopes : Option Visibility → List Visibility
  | some v => [v]
  | none => [.pub, .priv]

/-- Prints the current page of a scope. -/
def putScope (v : Visibility) : Run Unit := do
  let t := (← get).keys.scope v
  Run.line t.caption
  let report ← Run.demand t.report?
  if report.isEmpty then Run.print "(no keys)\n\n"
  else
    Run.table report
    Run.print "\n"

/-- Lists the keys of one scope or of both. -/
def runList (e : Setup) (visibility : Option Visibility) (filter : Listing) : Run Unit := do
  modify fun c =>
    { c with
        keys := (scopes visibility).foldl
          (fun ts v => ts.set v (filter.apply (ts.scope v))) c.keys }
  let tables := (← get).keys
  let (result, tables) ←
    match visibility with
    | some v => do
      let (result, tables) ← tables.fetch e.client.keys v
      pure (result.map fun _ => (), tables)
    | none => tables.fetchBoth e.client.keys
  modify fun c => { c with keys := tables }
  Run.answered result
  if e.json then
    Run.json (.obj ((scopes visibility).reverse.map fun v => (v.text, (tables.scope v).toJson)))
  else (scopes visibility).forM putScope

/-- Prints a key, or what was done with it. -/
def putKey (e : Setup) (k : KeyRecord) (text : Run Unit) : Run Unit :=
  if e.json then Run.json k.toJson else text

/-- Prints that a key was made. -/
def printMade (e : Setup) (done : String) (k : KeyRecord) : Run Unit :=
  putKey e k (Run.line (done ++ " key " ++ intText k.id.toInt ++ " (" ++ k.name ++ ")"))

/-- Writes a part of a key's material into a directory, unless it is empty. -/
def writePart (dir : String) (name content : String) : Run Unit :=
  if content.isEmpty then pure ()
  else do
    let path := Files.child dir name
    Run.changeFiles fun files => files.write path (Utf8.ofString content)
    Run.line ("Wrote " ++ path)

/-- Prints a part of a key's material, unless it is empty. -/
def printPart (content : String) : Run Unit :=
  if content.isEmpty then pure () else Run.line (String.ofList (trimEnd content.toList))

/-- Exports a key to the output or into a directory. -/
def runExport (e : Setup) (id : Int32) (out : Option String) : Run Unit := do
  let exported ← Run.call (e.client.exportKey id)
  match out with
  | some dir =>
    Run.changeFiles fun files => files.makeDirectories dir
    writePart dir "private.key" exported.privateKey
    writePart dir "public.key" exported.publicKey
    writePart dir "certificate.pem" exported.certificate
  | none =>
    if e.json then Run.json exported.toJson
    else [exported.publicKey, exported.certificate, exported.privateKey].forM printPart

/-- Says whether a key's name is free. -/
def runCheckName (e : Setup) (name : String) (visibility : Visibility) : Run Unit := do
  let free ← Run.call (e.client.isNameFree name visibility)
  if e.json then
    Run.json (.obj
      [("available", .bool free), ("name", .str name), ("visibility", visibility.toJson)])
  else
    Run.line ("'" ++ name ++ "' is " ++ (if free then "available" else "already taken") ++ " (" ++
      visibility.text ++ ")")

/-- Runs a command. -/
def run (e : Setup) : KeyCommand → Run Unit
  | list visibility filter => runList e visibility filter
  | details id => do
    let key ← Run.call (e.client.showKey id)
    putKey e key (do Run.table (← Run.demand key.report?))
  | create draft parentId days => do
    let request ← (draft.toCreate (← e.now) parentId days : Except Failure NewKey)
    printMade e "Created" (← Run.call (e.client.createKey request))
  | importKey draft files => do
    let request ← Run.readFiles (draft.toImport files)
    printMade e "Imported" (← Run.call (e.client.importKey request))
  | act id action => do
    Run.call (e.client.keyOperation id action)
    Run.line (action.label ++ ": key " ++ intText id.toInt)
  | exportKey id out => runExport e id out
  | checkName name visibility => runCheckName e name visibility

end KeyCommand

end SigningConsole
