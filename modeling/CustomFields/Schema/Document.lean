import CustomFields.Schema.Basic
import CustomFields.Json.Decoder

/-!
# Schemas as JSON documents

The members of a document stand in the order of the declarations. Options and a pattern are left
out where a field has none, and so are its rules.
-/

namespace CustomFields

open Json (Decoder Field Fields)

/-! ## Writing -/

/-- The value of an option as it is stored and shown. -/
def OptionValue.toJson : OptionValue → Json.Value
  | .integer n => .int n.toInt
  | .text s => .string s

/-- An option as it is stored and shown. -/
def FieldOption.toJson (o : FieldOption) : Json.Value :=
  .object [("label", .string o.label), ("value", o.value.toJson)]

/-- An invocation of a rule as it is stored and shown. -/
def RuleInvocation.toJson (r : RuleInvocation) : Json.Value :=
  .object [("action", .string r.action), ("params", .object r.params),
    ("error_message", .string r.errorMessage)]

/-- A field as it is stored and shown. What it does not have is left out. -/
def FieldDefinition.toJson (f : FieldDefinition) : Json.Value :=
  .object <|
    [("name", .string f.name), ("label", .string f.label), ("type", .string f.type.name),
      ("required", .bool f.required)] ++
    Json.memberIf "options" (f.options.map fun os => .array (os.map (·.toJson))) ++
    Json.memberIf "regex" (f.pattern.map .string) ++
    if f.rules.isEmpty then [] else [("validations", .array (f.rules.map (·.toJson)))]

/-- A schema as it is stored and shown. -/
def Schema.toJson (s : Schema) : Json.Value :=
  .object [("fields", .array (s.fields.map (·.toJson)))]

/-! ## Reading -/

/-- A type, from its name. -/
def FieldType.decode : Decoder FieldType :=
  Decoder.oneOf (FieldType.all.map fun t => (t.name, t))

/-- An integer of 64 bits, or a string. -/
def OptionValue.decode : Decoder OptionValue := fun t =>
  match t with
  | .string s => return .text s
  | _ => do
    match ← Decoder.value t with
    | .number n =>
      match n.toInt64? with
      | some i => return .integer (Int64.ofInt i)
      | none => throw (.noMatch "OptionValue")
    | _ => throw (.noMatch "OptionValue")

/-- An option, from its document. -/
def FieldOption.decode : Decoder FieldOption := fun t => do
  let (label, value, ()) ← Decoder.record "FieldOption"
    (.cons (.required "label" .string) <|
      .cons (.required "value" OptionValue.decode) .nil) t
  return { label, value }

/-- An invocation of a rule, from its document. -/
def RuleInvocation.decode : Decoder RuleInvocation := fun t => do
  let (action, params, errorMessage, ()) ← Decoder.record "RuleInvocation"
    (.cons (.required "action" .string) <|
      .cons (.withDefault "params" .object []) <|
      .cons (.required "error_message" .string) .nil) t
  return { action, params, errorMessage }

/-- A field, from its document. -/
def FieldDefinition.decode : Decoder FieldDefinition := fun t => do
  let (name, label, type, required, options, pattern, rules, ()) ←
    Decoder.record "FieldDefinition"
      (.cons (.required "name" .string) <|
        .cons (.required "label" .string) <|
        .cons (.required "type" FieldType.decode) <|
        .cons (.withDefault "required" .bool false) <|
        .cons (.optional "options" (.list FieldOption.decode)) <|
        .cons (.optional "regex" .string) <|
        .cons (.withDefault "validations" (.list RuleInvocation.decode) []) .nil) t
  return { name, label, type, required, options, pattern, rules }

/-- A schema, from its document. -/
def Schema.decode : Decoder Schema := fun t => do
  let (fields, ()) ← Decoder.record "ConfigSchema"
    (.cons (.required "fields" (.list FieldDefinition.decode)) .nil) t
  return ⟨fields⟩

/-- Reads a schema from a JSON value. -/
def Schema.ofJson (v : Json.Value) : Except Json.DecodeError Schema :=
  Schema.decode (.ofValue v)

end CustomFields
