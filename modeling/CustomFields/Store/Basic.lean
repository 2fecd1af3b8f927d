import CustomFields.Calendar.Timestamp
import CustomFields.Schema.Basic
import CustomFields.Uuid

/-!
# What is stored

An entity config is the schema of an entity type for one tenant; a record is an entity of such a
type with the values of its custom fields. Configs are known by the pair of tenant and entity
type, records by their ids.
-/

namespace CustomFields

open Calendar (Timestamp)

/-- The schema that a tenant has for an entity type. -/
structure EntityConfig where
  id : Uuid
  tenantId : Uuid
  entityType : String
  name : Option String
  schema : Schema
  createdAt : Timestamp
  updatedAt : Timestamp

namespace EntityConfig

/-- A thing that is created now. -/
def new (id tenantId : Uuid) (entityType : String) (name : Option String) (schema : Schema)
    (now : Timestamp) : EntityConfig :=
  { id, tenantId, entityType, name, schema, createdAt := now, updatedAt := now }

/-- Replaces the whole schema. -/
def replaceSchema (c : EntityConfig) (schema : Schema) (now : Timestamp) : EntityConfig :=
  { c with schema, updatedAt := now }

end EntityConfig

/-- An entity of a tenant, with the values of its custom fields. -/
structure Record where
  id : Uuid
  tenantId : Uuid
  entityType : String
  /-- The values of the custom fields. -/
  customData : Json.Object
  createdAt : Timestamp
  updatedAt : Timestamp

namespace Record

/-- A thing that is created now. -/
def new (id tenantId : Uuid) (entityType : String) (customData : Json.Object) (now : Timestamp) :
    Record :=
  { id, tenantId, entityType, customData, createdAt := now, updatedAt := now }

/-- Replaces all values. -/
def replaceData (r : Record) (customData : Json.Object) (now : Timestamp) : Record :=
  { r with customData, updatedAt := now }

end Record

/-- The key of the config of a tenant for an entity type. -/
def configKey (tenantId : Uuid) (entityType : String) : String :=
  tenantId.text ++ "/" ++ entityType

/-- What a store answers that cannot do what it is asked for. Faults of the device that a store is
kept on are left out: in memory there are none, and a tree is taken to serve all accesses. -/
inductive StoreError where
  | configNotFound (tenantId : Uuid) (entityType : String)
  | configExists (tenantId : Uuid) (entityType : String)
  | recordNotFound (id : Uuid)
  | recordExists (id : Uuid)
  /-- What is stored cannot be read back. -/
  | serialization (message : String)
deriving DecidableEq, Repr

/-- What is said of such an answer. -/
def StoreError.message : StoreError → String
  | .configNotFound tenantId entityType =>
    "Entity config not found: " ++ configKey tenantId entityType
  | .configExists tenantId entityType =>
    "Entity config already exists: " ++ configKey tenantId entityType
  | .recordNotFound id => "Record not found: " ++ id.text
  | .recordExists id => "Record already exists: " ++ id.text
  | .serialization message => "Serialization error: " ++ message

end CustomFields
