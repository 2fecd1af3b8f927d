import CustomFields.Json.Printer
import CustomFields.Schema.Document
import CustomFields.Store.Filter

/-!
# Stored things as JSON documents
-/

namespace CustomFields

open Json (Decoder)

/-- An id is given by a text. -/
def Uuid.decode : Decoder Uuid :=
  Decoder.ofText "UUID" Uuid.parse?

/-- A time is given by a text. -/
def Calendar.Timestamp.decode : Decoder Calendar.Timestamp :=
  Decoder.ofText "timestamp" Calendar.Timestamp.parse?

/-- A config as it is stored and shown. -/
def EntityConfig.toJson (c : EntityConfig) : Json.Value :=
  .object <|
    [("id", .string c.id.text), ("tenant_id", .string c.tenantId.text),
      ("entity_type", .string c.entityType)] ++
    Json.memberIf "name" (c.name.map .string) ++
    [("config", c.schema.toJson), ("created_at", .string c.createdAt.text),
      ("updated_at", .string c.updatedAt.text)]

/-- A config, from its document. -/
def EntityConfig.decode : Decoder EntityConfig := fun t => do
  let (id, tenantId, entityType, name, schema, createdAt, updatedAt, ()) ←
    Decoder.record "EntityConfig"
      (.cons (.required "id" Uuid.decode) <|
        .cons (.required "tenant_id" Uuid.decode) <|
        .cons (.required "entity_type" .string) <|
        .cons (.optional "name" .string) <|
        .cons (.required "config" Schema.decode) <|
        .cons (.required "created_at" Calendar.Timestamp.decode) <|
        .cons (.required "updated_at" Calendar.Timestamp.decode) .nil) t
  return { id, tenantId, entityType, name, schema, createdAt, updatedAt }

/-- A record as it is stored and shown. -/
def Record.toJson (r : Record) : Json.Value :=
  .object [("id", .string r.id.text), ("tenant_id", .string r.tenantId.text),
    ("entity_type", .string r.entityType), ("custom_data", .object r.customData),
    ("created_at", .string r.createdAt.text), ("updated_at", .string r.updatedAt.text)]

/-- A record, from its document. -/
def Record.decode : Decoder Record := fun t => do
  let (id, tenantId, entityType, customData, createdAt, updatedAt, ()) ← Decoder.record "Record"
    (.cons (.required "id" Uuid.decode) <|
      .cons (.required "tenant_id" Uuid.decode) <|
      .cons (.required "entity_type" .string) <|
      .cons (.withDefault "custom_data" .object []) <|
      .cons (.required "created_at" Calendar.Timestamp.decode) <|
      .cons (.required "updated_at" Calendar.Timestamp.decode) .nil) t
  return { id, tenantId, entityType, customData, createdAt, updatedAt }

/-- A filter as it is shown. -/
def RecordFilter.toJson (f : RecordFilter) : Json.Value :=
  .object [("tenant_id", f.tenantId.elim .null (.string ·.text)),
    ("entity_type", f.entityType.elim .null .string), ("skip", .nat f.skip),
    ("limit", .nat f.limit)]

/-- A filter, from its document. -/
def RecordFilter.decode : Decoder RecordFilter := fun t => do
  let (tenantId, entityType, skip, limit, ()) ← Decoder.record "RecordFilter"
    (.cons (.optional "tenant_id" Uuid.decode) <|
      .cons (.optional "entity_type" .string) <|
      .cons (.withDefault "skip" .size RecordFilter.all.skip) <|
      .cons (.withDefault "limit" .size RecordFilter.all.limit) .nil) t
  return { tenantId, entityType, skip, limit }

end CustomFields
