import CustomFields.Store.Interface

/-!
# Stores in memory

Configs and records as they are, each by its key.
-/

namespace CustomFields

/-- Two maps without an order: configs by the text of their key, and records by their id. -/
structure MemoryStore where
  configs : List (String × EntityConfig)
  records : List (Uuid × Record)

namespace MemoryStore

/-- The store that has nothing. -/
def empty : MemoryStore := ⟨[], []⟩

/-- The config of a tenant for an entity type. -/
def getConfig (m : MemoryStore) (tenantId : Uuid) (entityType : String) : Option EntityConfig :=
  Entries.get? (configKey tenantId entityType) m.configs

/-- Stores a config for a pair that has none. -/
def createConfig (m : MemoryStore) (c : EntityConfig) :
    Except StoreError EntityConfig × MemoryStore :=
  let key := configKey c.tenantId c.entityType
  if Entries.contains key m.configs then (.error (.configExists c.tenantId c.entityType), m)
  else (.ok c, { m with configs := Entries.assign key c m.configs })

/-- Stores a config in the place of the one that its pair has. -/
def updateConfig (m : MemoryStore) (c : EntityConfig) :
    Except StoreError EntityConfig × MemoryStore :=
  let key := configKey c.tenantId c.entityType
  if Entries.contains key m.configs then
    (.ok c, { m with configs := Entries.assign key c m.configs })
  else (.error (.configNotFound c.tenantId c.entityType), m)

/-- The configs of a tenant, in the order of their entity types. -/
def listConfigs (m : MemoryStore) (tenantId : Uuid) : List EntityConfig :=
  ((m.configs.map Prod.snd).filter (·.tenantId == tenantId)).mergeSort
    fun a b => decide (a.entityType ≤ b.entityType)

/-- The record with an id. -/
def getRecord (m : MemoryStore) (id : Uuid) : Option Record :=
  Entries.get? id m.records

/-- Stores a record under an id that is free. -/
def insertRecord (m : MemoryStore) (r : Record) : Except StoreError Record × MemoryStore :=
  if Entries.contains r.id m.records then (.error (.recordExists r.id), m)
  else (.ok r, { m with records := Entries.assign r.id r m.records })

/-- Stores a record in the place of the one that has its id. -/
def updateRecord (m : MemoryStore) (r : Record) : Except StoreError Record × MemoryStore :=
  if Entries.contains r.id m.records then
    (.ok r, { m with records := Entries.assign r.id r m.records })
  else (.error (.recordNotFound r.id), m)

/-- A page of the records that a filter asks for. -/
def listRecords (m : MemoryStore) (f : RecordFilter) : List Record :=
  f.apply (m.records.map Prod.snd)

/-- Serves the accesses to a store. -/
def serve : storeInterface.Server MemoryStore
  | .getConfig tenantId entityType, m => (.ok (m.getConfig tenantId entityType), m)
  | .createConfig c, m => m.createConfig c
  | .updateConfig c, m => m.updateConfig c
  | .listConfigs tenantId, m => (.ok (m.listConfigs tenantId), m)
  | .getRecord id, m => (.ok (m.getRecord id), m)
  | .insertRecord r, m => m.insertRecord r
  | .updateRecord r, m => m.updateRecord r
  | .listRecords f, m => (.ok (m.listRecords f), m)

end MemoryStore

end CustomFields
