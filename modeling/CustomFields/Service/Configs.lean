import CustomFields.Service.Basic

/-!
# Managing configs

Each pair of tenant and entity type has at most one config. A schema is compiled before it is
stored, so that only schemas that satisfy their check are.
-/

namespace CustomFields.Configs

/-- Stores the config of a pair that has none. -/
def create (tenantId : Uuid) (entityType : String) (name : Option String) (schema : Schema)
    (m : Moment) : Call EntityConfig := do
  checkEntityType entityType
  let _ ← Call.compile schema
  let created ← Call.store (.createConfig (.new m.freshId tenantId entityType name schema m.now))
  Call.observe (.configWrite "create")
  return created

/-- The config of a tenant for an entity type. -/
def get (tenantId : Uuid) (entityType : String) : Call (Option EntityConfig) :=
  Call.store (.getConfig tenantId entityType)

/-- Replaces the schema of a config, and its name if one is given. -/
def update (tenantId : Uuid) (entityType : String) (name : Option String) (schema : Schema)
    (m : Moment) : Call EntityConfig := do
  let _ ← Call.compile schema
  match ← get tenantId entityType with
  | none => throw (.store (.configNotFound tenantId entityType))
  | some existing =>
    let replaced := existing.replaceSchema schema m.now
    let updated ← Call.store (.updateConfig { replaced with name := name.or existing.name })
    Call.observe (.configWrite "update")
    return updated

/-- The configs of a tenant in the order of their entity types. -/
def list (tenantId : Uuid) : Call (List EntityConfig) :=
  Call.store (.listConfigs tenantId)

end CustomFields.Configs
