import CustomFields.Schema.Fingerprint
import CustomFields.Validation.Shape

/-!
# Compiled schemas

A schema that satisfies its check, with the pattern of every field read once. A compiled field
judges the form of its value in a payload; its rules are left to the engine.
-/

namespace CustomFields

/-- What became of a field of a payload. -/
inductive FieldOutcome where
  /-- An optional value that is missing. -/
  | skipped
  | invalid (kind : IssueKind) (message : String)
  | valid (value : Json.Value)

/-- The message about a required value that is missing. -/
def requiredMessage : String := "Field required"

/-- A field in the form that validation works with. -/
structure CompiledField where
  name : String
  label : String
  required : Bool
  shape : Shape
  rules : List RuleInvocation

namespace CompiledField

/-- Compiles a field. -/
def ofDefinition (f : FieldDefinition) : Except SchemaError CompiledField := do
  let shape ← Shape.ofField f
  return { name := f.name, label := f.label, required := f.required, shape, rules := f.rules }

/-- Judges the value of the field in a payload. A null counts as missing. -/
def check (f : CompiledField) (payload : Json.Object) : FieldOutcome :=
  match Entries.get? f.name payload with
  | none | some .null =>
    if f.required then .invalid .requiredError requiredMessage else .skipped
  | some v =>
    match f.shape.check v with
    | .ok () => .valid v
    | .error (kind, message) => .invalid kind message

end CompiledField

/-- A schema in the form that validation works with. -/
structure CompiledSchema where
  fields : List CompiledField
  fingerprint : String

namespace CompiledSchema

/-- Checks a schema, and compiles its fields. -/
def compile (s : Schema) : Except SchemaError CompiledSchema := do
  s.check
  let fields ← s.fields.mapM CompiledField.ofDefinition
  return { fields, fingerprint := s.fingerprint }

/-- How many invocations of rules the fields have. -/
def ruleCount (c : CompiledSchema) : Nat :=
  (c.fields.flatMap (·.rules)).length

/-- The issues about the form of values, without any rule. -/
def structuralErrors (c : CompiledSchema) (payload : Json.Object) (container : String) :
    List Issue :=
  c.fields.filterMap fun f =>
    match f.check payload with
    | .invalid kind message => some (.new container f.name kind message)
    | _ => none

end CompiledSchema

end CustomFields
