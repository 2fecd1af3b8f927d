import CustomFields.Service.Basic

/-!
# Managing records

The values of a record are validated by the schema of its tenant and entity type before they are
stored. Where that pair has no config, any values pass.
-/

namespace CustomFields.Records

/-- The schema of a pair, if it has a config. -/
def resolveSchema (tenantId : Uuid) (entityType : String) : Call (Option Schema) := do
  let config ← Call.store (.getConfig tenantId entityType)
  return config.map (·.schema)

/-- Validates the values of a record and counts what came of it. -/
def validate (tenantId : Uuid) (entityType : String) (payload : Json.Object) (m : Moment) :
    Call Json.Object := do
  let schema ← resolveSchema tenantId entityType
  let result ← Call.access (.validate schema payload m.today)
  Call.observe (.duration entityType m.elapsed)
  match (result : Except EngineError Json.Object) with
  | .ok validated =>
    Call.observe (.validation entityType true)
    return validated
  | .error e =>
    match e with
    | .validation l =>
      Call.observe (.validation entityType false)
      l.issues.forM fun i => Call.observe (.issue i.kind.name)
    | .schema _ => pure ()
    throw (.ofEngine e)

/-- Validates and stores a new record. -/
def create (tenantId : Uuid) (entityType : String) (customData : Json.Object) (m : Moment) :
    Call Record := do
  checkEntityType entityType
  let validated ← validate tenantId entityType customData m
  Call.store (.insertRecord (.new m.freshId tenantId entityType validated m.now))

/-- Replaces the values of a record if there are new ones, else returns it as it is. -/
def update (id : Uuid) (customData : Option Json.Object) (m : Moment) : Call Record := do
  match ← Call.store (.getRecord id) with
  | none => throw (.store (.recordNotFound id))
  | some record =>
    match customData with
    | none => return record
    | some customData =>
      let validated ← validate record.tenantId record.entityType customData m
      Call.store (.updateRecord (record.replaceData validated m.now))

/-- The record with an id. -/
def get (id : Uuid) : Call (Option Record) :=
  Call.store (.getRecord id)

/-- A page of the records that a filter asks for. -/
def list (filter : RecordFilter) : Call (List Record) :=
  Call.store (.listRecords filter)

/-- What the validation of values would find. Nothing is stored or counted. -/
def dryRun (tenantId : Uuid) (entityType : String) (payload : Json.Object) (m : Moment) :
    Call ValidationReport := do
  match ← resolveSchema tenantId entityType with
  | none => return { valid := true, issues := [], fieldsChecked := 0, rulesApplied := 0 }
  | some schema =>
    match ← Call.access (.dryRun schema payload m.today) with
    | .ok report => return report
    | .error e => throw (.schema e)

end CustomFields.Records
