import CustomFields.Store.ByteTree
import CustomFields.Store.Document
import CustomFields.Store.Interface
import CustomFields.Json.Reader

/-!
# Persistent stores

Configs and records as JSON texts in two trees. A config lies under the bytes of its key, which
starts with the text of the tenant, so that a scan finds the configs of one tenant in the order of
their entity types; a record lies under the bytes of its id. An access to the store takes one or
two accesses to a tree: an update first looks whether the key is there, and then stores. A database
keeps the trees under their names, and a store is opened from them.
-/

namespace CustomFields

/-- The two trees. -/
inductive TreeName where
  | configs
  | records
deriving DecidableEq, Repr

/-- The name under which a database keeps a tree. -/
def TreeName.name : TreeName → String
  | .configs => "entity_configs"
  | .records => "records"

/-- The trees of a database, under their names. -/
abbrev Database := List (String × ByteTree)

/-- Two trees with the texts of configs and of records. -/
structure PersistentStore where
  configs : ByteTree
  records : ByteTree

namespace PersistentStore

/-- The store with two empty trees. -/
def empty : PersistentStore := ⟨.empty, .empty⟩

/-- What a store leaves in its database. -/
def database (s : PersistentStore) : Database :=
  [(TreeName.configs.name, s.configs), (TreeName.records.name, s.records)]

/-- Opens the store in a database. A tree that is not there yet is empty. -/
def ofDatabase (db : Database) : PersistentStore where
  configs := (Entries.get? TreeName.configs.name db).getD .empty
  records := (Entries.get? TreeName.records.name db).getD .empty

/-- Closes a store and opens it again. -/
def reopen (s : PersistentStore) : PersistentStore :=
  ofDatabase s.database

/-- The accesses to one tree or the other. -/
def interface : Interface where
  Access := TreeName × TreeAccess
  Answer x := x.2.Answer

/-- An access goes to one of the two trees. -/
def serveTree : interface.Server PersistentStore
  | (.configs, x), s =>
    let (answer, t) := x.serve s.configs
    (answer, { s with configs := t })
  | (.records, x), s =>
    let (answer, t) := x.serve s.records
    (answer, { s with records := t })

/-- The key of a config in its tree, by which the configs of a tenant lie side by side. -/
def configBytes (tenantId : Uuid) (entityType : String) : Bytes :=
  (configKey tenantId entityType).toUTF8.toList

/-- What the keys of the configs of a tenant start with. -/
def tenantBytes (tenantId : Uuid) : Bytes :=
  (tenantId.text ++ "/").toUTF8.toList

/-- Reads a stored text. -/
def readBack {α : Type} (d : Json.Decoder α) (text : String) : Except StoreError α :=
  match Json.Value.parse? text with
  | none => throw (.serialization "invalid JSON")
  | some v =>
    match d (.ofValue v) with
    | .ok a => return a
    | .error e => throw (.serialization e.message)

/-- Makes an access to one tree. -/
def tree (name : TreeName) (x : TreeAccess) : Program interface x.Answer :=
  .perform (I := interface) (name, x)

/-- The config of a pair, read from its text. -/
def getConfig (tenantId : Uuid) (entityType : String) :
    Program interface (Except StoreError (Option EntityConfig)) := do
  match ← tree .configs (.get (configBytes tenantId entityType)) with
  | none => return .ok none
  | some text => return (readBack EntityConfig.decode text).map some

/-- Stores the text of a config, if its key is free. -/
def createConfig (c : EntityConfig) : Program interface (Except StoreError EntityConfig) := do
  match ← tree .configs (.insertNew (configBytes c.tenantId c.entityType) c.toJson.compact) with
  | true => return .ok c
  | false => return .error (.configExists c.tenantId c.entityType)

/-- Stores the text of a config, if its key has one. These are two accesses to the tree. -/
def updateConfig (c : EntityConfig) : Program interface (Except StoreError EntityConfig) := do
  let key := configBytes c.tenantId c.entityType
  match ← tree .configs (.contains key) with
  | false => return .error (.configNotFound c.tenantId c.entityType)
  | true =>
    tree .configs (.insert key c.toJson.compact)
    return .ok c

/-- The configs of a tenant, by a scan of the keys that start with the tenant. -/
def listConfigs (tenantId : Uuid) : Program interface (Except StoreError (List EntityConfig)) := do
  let texts ← tree .configs (.scan (tenantBytes tenantId))
  return texts.mapM (readBack EntityConfig.decode)

/-- The record with an id, read from its text. -/
def getRecord (id : Uuid) : Program interface (Except StoreError (Option Record)) := do
  match ← tree .records (.get id.bytes) with
  | none => return .ok none
  | some text => return (readBack Record.decode text).map some

/-- Stores the text of a record, if its id is free. -/
def insertRecord (r : Record) : Program interface (Except StoreError Record) := do
  match ← tree .records (.insertNew r.id.bytes r.toJson.compact) with
  | true => return .ok r
  | false => return .error (.recordExists r.id)

/-- Stores the text of a record, if its id has one. These are two accesses to the tree. -/
def updateRecord (r : Record) : Program interface (Except StoreError Record) := do
  match ← tree .records (.contains r.id.bytes) with
  | false => return .error (.recordNotFound r.id)
  | true =>
    tree .records (.insert r.id.bytes r.toJson.compact)
    return .ok r

/-- A page of the records that a filter asks for, by a scan of all texts. One that cannot be read
makes the listing fail. -/
def listRecords (f : RecordFilter) : Program interface (Except StoreError (List Record)) := do
  let texts ← tree .records (.scan [])
  return (texts.mapM (readBack Record.decode)).map f.apply

/-- What an access to the store does to its trees. -/
def program : (x : StoreAccess) → Program interface (Except StoreError x.Result)
  | .getConfig tenantId entityType => getConfig tenantId entityType
  | .createConfig c => createConfig c
  | .updateConfig c => updateConfig c
  | .listConfigs tenantId => listConfigs tenantId
  | .getRecord id => getRecord id
  | .insertRecord r => insertRecord r
  | .updateRecord r => updateRecord r
  | .listRecords f => listRecords f

/-- Serves the accesses to a store, each without another between its steps. -/
def serve : storeInterface.Server PersistentStore := fun x s =>
  (program x).run serveTree s

end PersistentStore

end CustomFields
