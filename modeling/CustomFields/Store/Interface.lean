import CustomFields.Data.Program
import CustomFields.Store.Filter

/-!
# The accesses to a store

What can be asked of a store, whichever way it keeps its data. Creating fails where the key is
taken and updating where it is free. Each access happens at one point in time.
-/

namespace CustomFields

/-- The accesses to a store. -/
inductive StoreAccess where
  | getConfig (tenantId : Uuid) (entityType : String)
  | createConfig (config : EntityConfig)
  | updateConfig (config : EntityConfig)
  /-- The configs of a tenant in the order of their entity types. -/
  | listConfigs (tenantId : Uuid)
  | getRecord (id : Uuid)
  | insertRecord (record : Record)
  | updateRecord (record : Record)
  | listRecords (filter : RecordFilter)

/-- What an access answers unless it fails. -/
def StoreAccess.Result : StoreAccess → Type
  | .getConfig _ _ => Option EntityConfig
  | .createConfig _ => EntityConfig
  | .updateConfig _ => EntityConfig
  | .listConfigs _ => List EntityConfig
  | .getRecord _ => Option Record
  | .insertRecord _ => Record
  | .updateRecord _ => Record
  | .listRecords _ => List Record

/-- A store answers each access with a result or an error. -/
def storeInterface : Interface where
  Access := StoreAccess
  Answer x := Except StoreError x.Result

end CustomFields
