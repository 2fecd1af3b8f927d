import CustomFields.Decimal.Numeral
import CustomFields.Http.MediaType
import CustomFields.Http.Message
import CustomFields.Json.Reader
import CustomFields.Store.Document

/-!
# What requests carry

The bodies of writes are JSON documents, and a listing takes its filter from the query. In a body
only the first value of the text counts, and what follows it is not read.
-/

namespace CustomFields.Http

open Json (Decoder DecodeError Tree)

/-! ## Bodies -/

/-- What a config is created from. -/
structure ConfigCreation where
  tenantId : Uuid
  entityType : String
  name : Option String
  schema : Schema

/-- What a config is changed by. -/
structure ConfigChange where
  name : Option String
  schema : Schema

/-- What a record is created from. -/
structure RecordCreation where
  tenantId : Uuid
  entityType : String
  customData : Json.Object

/-- What a config is created from, as a body tells it. -/
def ConfigCreation.decode : Decoder ConfigCreation := fun t => do
  let (tenantId, entityType, name, schema, ()) ← Decoder.record "CreateEntityConfigRequest"
    (.cons (.required "tenant_id" Uuid.decode) <|
      .cons (.required "entity_type" .string) <|
      .cons (.optional "name" .string) <|
      .cons (.required "config" Schema.decode) .nil) t
  return { tenantId, entityType, name, schema }

/-- What a config is changed by, as a body tells it. -/
def ConfigChange.decode : Decoder ConfigChange := fun t => do
  let (name, schema, ()) ← Decoder.record "UpdateEntityConfigRequest"
    (.cons (.optional "name" .string) <|
      .cons (.required "config" Schema.decode) .nil) t
  return { name, schema }

/-- What a record is created from, as a body tells it. -/
def RecordCreation.decode : Decoder RecordCreation := fun t => do
  let (tenantId, entityType, customData, ()) ← Decoder.record "CreateRecordRequest"
    (.cons (.required "tenant_id" Uuid.decode) <|
      .cons (.required "entity_type" .string) <|
      .cons (.withDefault "custom_data" .object []) .nil) t
  return { tenantId, entityType, customData }

/-- The new values of a record, if there are any. -/
def decodeChange : Decoder (Option Json.Object) := fun t => do
  let (customData, ()) ← Decoder.record "UpdateRecordRequest"
    (.cons (.optional "custom_data" .object) .nil) t
  return customData

/-- The values for a dry run. -/
def decodeTrial : Decoder Json.Object := fun t => do
  let (customData, ()) ← Decoder.record "ValidateRequest"
    (.cons (.withDefault "custom_data" .object []) .nil) t
  return customData

/-! ## Reading them -/

/-- Why the body or the query of a request cannot be used. -/
inductive Rejection where
  | notJson
  | tooLong
  /-- The body is not a JSON text. -/
  | broken (e : DecodeError)
  /-- The body is a JSON text of another form. -/
  | form (e : DecodeError)
  | query (e : DecodeError)

/-- What is said of a body or a query that cannot be used. -/
def Rejection.message : Rejection → String
  | .notJson => "Expected request with \x60Content-Type: application/json\x60"
  | .tooLong => "Failed to buffer the request body: length limit exceeded"
  | .broken e => "Failed to parse the request body as JSON: " ++ e.message
  | .form e => "Failed to deserialize the JSON body into the target type: " ++ e.message
  | .query e => "Failed to deserialize query string: " ++ e.message

namespace Request

/-- Whether a request says that its body is JSON. -/
def hasJson (r : Request) : Bool :=
  match r.contentType with
  | none => false
  | some t => isReadable t && (MediaType.parse? t).any (·.isJson)

/-- The longest body that is read, in bytes. -/
def bodyLimit : Nat := 2097152

/-- Reads the body of a request. -/
def decodeBody {α : Type} (r : Request) (d : Decoder α) : Except Rejection α :=
  if !r.hasJson then throw .notJson
  else if bodyLimit < r.body.utf8ByteSize then throw .tooLong
  else
    match d (Json.readTree r.body.toList).1 with
    | .ok a => return a
    | .error e => throw (if e.isSyntactic then .broken e else .form e)

/-- Reads the query of a request. Its values are texts, numbers included. -/
def filter (r : Request) : Except Rejection RecordFilter :=
  let tree : Tree := .object ((parameters r.target.query).map fun (name, value) =>
    (some name, .string value)) true
  let count : Decoder Nat := .ofText "number" (Decimal.natBelow? UInt64.size)
  let decoded := Decoder.record "RecordFilter"
    (.cons (.optional "tenant_id" Uuid.decode) <|
      .cons (.optional "entity_type" .string) <|
      .cons (.withDefault "skip" count RecordFilter.all.skip) <|
      .cons (.withDefault "limit" count RecordFilter.all.limit) .nil) tree
  match decoded with
  | .ok (tenantId, entityType, skip, limit, ()) => return { tenantId, entityType, skip, limit }
  | .error e => throw (.query e)

end Request

end CustomFields.Http
