import SigningConsole.Key.Basic
/-!
Key records as the backend serves them, pages of them, and the bodies that create a key, import one
and export one.
-/

namespace SigningConsole

open Json

/-! ## Records -/

/-- A key record. -/
structure KeyRecord where
  id : Int32
  name : String
  description : String
  visibility : Visibility
  user : Int32
  attributes : StringMap String
  keyType : String
  parentId : Option Int32
  fingerprint : String
  serialNumber : Option String
  createdAt : String
  expiresAt : String
  state : KeyStatus
  userEmail : Option String
  deleteRequestedBy : Option String
  revokeRequestedBy : Option String
deriving DecidableEq

namespace KeyRecord

/-- The family of a key, if its type is known. -/
def family? (k : KeyRecord) : Option KeyFamily := KeyFamily.ofType? k.keyType

/-- The fields of a key record. -/
def record : Record :=
  ⟨"DataKey",
    [.required "id" toInt32, .required "name" toText, .defaulted "description" toText,
      .required "visibility" Visibility.decode, .defaulted "user" toInt32,
      .defaulted "attributes" toTextMap, .required "key_type" toText,
      .defaulted "parent_id" (toOption toInt32), .defaulted "fingerprint" toText,
      .defaulted "serial_number" (toOption toText), .defaulted "create_at" toText,
      .defaulted "expire_at" toText, .required "key_state" KeyStatus.decode,
      .defaulted "user_email" (toOption toText),
      .defaulted "request_delete_users" (toOption toText),
      .defaulted "request_revoke_users" (toOption toText)]⟩

/-- Reads a key record. -/
def decode : Decoder KeyRecord := fun v => do
  let found ← record.read v
  return {
    id := ← found.get "id" toInt32
    name := ← found.get "name" toText
    description := ← found.getD "description" toText ""
    visibility := ← found.get "visibility" Visibility.decode
    user := ← found.getD "user" toInt32 0
    attributes := ← found.getD "attributes" toTextMap ∅
    keyType := ← found.get "key_type" toText
    parentId := ← found.get? "parent_id" toInt32
    fingerprint := ← found.getD "fingerprint" toText ""
    serialNumber := ← found.get? "serial_number" toText
    createdAt := ← found.getD "create_at" toText ""
    expiresAt := ← found.getD "expire_at" toText ""
    state := ← found.get "key_state" KeyStatus.decode
    userEmail := ← found.get? "user_email" toText
    deleteRequestedBy := ← found.get? "request_delete_users" toText
    revokeRequestedBy := ← found.get? "request_revoke_users" toText }

/-- A key record as JSON. -/
def toJson (k : KeyRecord) : Json :=
  obj [("id", ofInt32 k.id), ("name", str k.name), ("description", str k.description),
    ("visibility", k.visibility.toJson), ("user", ofInt32 k.user),
    ("attributes", ofTextMap k.attributes), ("key_type", str k.keyType),
    ("parent_id", k.parentId.elim null ofInt32), ("fingerprint", str k.fingerprint),
    ("serial_number", ofText? k.serialNumber), ("create_at", str k.createdAt),
    ("expire_at", str k.expiresAt), ("key_state", k.state.toJson),
    ("user_email", ofText? k.userEmail), ("request_delete_users", ofText? k.deleteRequestedBy),
    ("request_revoke_users", ofText? k.revokeRequestedBy)]

end KeyRecord

/-! ## Counts by family -/

/-- How many keys belong to each family. -/
structure FamilyCounts where
  pgp : Nat := 0
  x509 : Nat := 0
deriving DecidableEq, Repr

namespace FamilyCounts

/-- The number of keys of a family. -/
def of (c : FamilyCounts) : KeyFamily → Nat
  | .pgp => c.pgp
  | .x509 => c.x509

/-- The counts with one more key; a key of an unknown type counts for no family. -/
def add (c : FamilyCounts) (k : KeyRecord) : FamilyCounts :=
  match k.family? with
  | some .pgp => { c with pgp := c.pgp + 1 }
  | some .x509 => { c with x509 := c.x509 + 1 }
  | none => c

/-- Counts the keys of each family. -/
def ofKeys (keys : List KeyRecord) : FamilyCounts := keys.foldl add {}

end FamilyCounts

/-! ## Pages -/

/-- What a page tells about the whole list. -/
structure PageMeta where
  totalCount : UInt64 := 0
deriving DecidableEq, Repr

namespace PageMeta

/-- The fields of a page's metadata. -/
def record : Record := ⟨"PagedMeta", [.required "total_count" toUInt64]⟩

/-- Reads a page's metadata. -/
def decode : Decoder PageMeta := fun v => do
  let found ← record.read v
  return { totalCount := ← found.get "total_count" toUInt64 }

/-- A page's metadata as JSON. -/
def toJson (m : PageMeta) : Json := obj [("total_count", ofUInt64 m.totalCount)]

end PageMeta

/-- One page of keys. -/
structure KeyPage where
  keys : List KeyRecord := []
  info : PageMeta := {}
deriving DecidableEq

namespace KeyPage

/-- The fields of a page. -/
def record : Record :=
  ⟨"PagedKeys", [.required "data" (toList KeyRecord.decode), .defaulted "meta" PageMeta.decode]⟩

/-- Reads a page. -/
def decode : Decoder KeyPage := fun v => do
  let found ← record.read v
  return {
    keys := ← found.get "data" (toList KeyRecord.decode)
    info := ← found.getD "meta" PageMeta.decode {} }

/-- A page as JSON. -/
def toJson (p : KeyPage) : Json :=
  obj [("data", arr (p.keys.map KeyRecord.toJson)), ("meta", p.info.toJson)]

end KeyPage

/-! ## Requests and exports -/

/-- An optional member of an object. -/
def optionalMember (name : String) (value : Option Json) : List (String × Json) :=
  match value with
  | some v => [(name, v)]
  | none => []

/-- What a new key is asked for with. -/
structure NewKey where
  name : String
  description : String
  visibility : Option Visibility
  attributes : StringMap String
  keyType : String
  parentId : Option Int32
  /-- The expiry in UTC. -/
  expiresAt : String
deriving DecidableEq

namespace NewKey

/-- The fields of the request for a key. -/
def record : Record :=
  ⟨"CreateKey",
    [.required "name" toText, .required "description" toText,
      .nullable "visibility" Visibility.decode,
      .required "attributes" toTextMap, .required "key_type" toText, .nullable "parent_id" toInt32,
      .required "expire_at" toText]⟩

/-- Reads a request for a key. -/
def decode : Decoder NewKey := fun v => do
  let found ← record.read v
  return {
    name := ← found.get "name" toText
    description := ← found.get "description" toText
    visibility := ← found.get? "visibility" Visibility.decode
    attributes := ← found.get "attributes" toTextMap
    keyType := ← found.get "key_type" toText
    parentId := ← found.get? "parent_id" toInt32
    expiresAt := ← found.get "expire_at" toText }

/-- A request for a key as JSON. -/
def toJson (r : NewKey) : Json :=
  obj ([("name", str r.name), ("description", str r.description)] ++
    optionalMember "visibility" (r.visibility.map Visibility.toJson) ++
    [("attributes", ofTextMap r.attributes), ("key_type", str r.keyType)] ++
    optionalMember "parent_id" (r.parentId.map ofInt32) ++ [("expire_at", str r.expiresAt)])

end NewKey

/-- Key material that is to be imported. -/
structure ImportedKey where
  name : String
  description : String
  visibility : Option Visibility
  attributes : StringMap String
  keyType : String
  privateKey : String
  publicKey : String
  certificate : String
deriving DecidableEq

namespace ImportedKey

/-- The fields of an import. -/
def record : Record :=
  ⟨"ImportKey",
    [.required "name" toText, .required "description" toText,
      .nullable "visibility" Visibility.decode,
      .required "attributes" toTextMap, .required "key_type" toText, .required "private_key" toText,
      .required "public_key" toText, .required "certificate" toText]⟩

/-- Reads an import. -/
def decode : Decoder ImportedKey := fun v => do
  let found ← record.read v
  return {
    name := ← found.get "name" toText
    description := ← found.get "description" toText
    visibility := ← found.get? "visibility" Visibility.decode
    attributes := ← found.get "attributes" toTextMap
    keyType := ← found.get "key_type" toText
    privateKey := ← found.get "private_key" toText
    publicKey := ← found.get "public_key" toText
    certificate := ← found.get "certificate" toText }

/-- An import as JSON. -/
def toJson (r : ImportedKey) : Json :=
  obj ([("name", str r.name), ("description", str r.description)] ++
    optionalMember "visibility" (r.visibility.map Visibility.toJson) ++
    [("attributes", ofTextMap r.attributes), ("key_type", str r.keyType),
      ("private_key", str r.privateKey),
      ("public_key", str r.publicKey), ("certificate", str r.certificate)])

end ImportedKey

/-- Key material that the backend hands out. -/
structure KeyExport where
  privateKey : String := ""
  publicKey : String := ""
  certificate : String := ""
deriving DecidableEq, Repr

namespace KeyExport

/-- The fields of an export. -/
def record : Record :=
  ⟨"ExportedKey",
    [.defaulted "private_key" toText, .defaulted "public_key" toText,
      .defaulted "certificate" toText]⟩

/-- Reads an export. -/
def decode : Decoder KeyExport := fun v => do
  let found ← record.read v
  return {
    privateKey := ← found.getD "private_key" toText ""
    publicKey := ← found.getD "public_key" toText ""
    certificate := ← found.getD "certificate" toText "" }

/-- An export as JSON. -/
def toJson (e : KeyExport) : Json :=
  obj [("private_key", str e.privateKey), ("public_key", str e.publicKey),
    ("certificate", str e.certificate)]

end KeyExport

end SigningConsole
