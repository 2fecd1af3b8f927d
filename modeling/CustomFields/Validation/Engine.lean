import CustomFields.Rule.Registry
import CustomFields.Validation.Cache

/-!
# The validation engine

The engine judges payloads by a schema: first the form of each field, and then, for a value that
is well formed, its business rules. It goes through all fields before it answers, so that an
answer has every issue. Rules see the date of the day of the call.
-/

namespace CustomFields

/-- The key of the custom fields in a record, unless another one is configured. -/
def defaultContainerKey : String := "custom_data"

/-- What judges payloads: the rules, and the key that stands in the paths of issues. -/
structure Engine where
  registry : Rule.Registry
  containerKey : String

namespace Engine

/-- The engine with some rules and the default container key. -/
def new (registry : Rule.Registry) : Engine :=
  ⟨registry, defaultContainerKey⟩

/-- What has been found on the way through a payload. -/
structure Progress where
  issues : List Issue
  rulesApplied : Nat

/-- Runs one rule on the value of a field. -/
def applyRule (e : Engine) (today : Calendar.Date) (field : String) (value : Json.Value)
    (p : Progress) (r : RuleInvocation) : Progress :=
  let issue (kind : IssueKind) (message : String) (cause : Option String) : List Issue :=
    [{ Issue.new e.containerKey field kind message with rule := some r.action, cause }]
  let found : List Issue :=
    match e.registry.execute r.action value r.params today with
    | .ok true => []
    | .ok false => issue .businessRuleError r.errorMessage none
    | .error err =>
      match err with
      | .unknown _ => issue .unknownRuleError err.message none
      | .execution _ failure => issue .businessRuleError err.message (some failure.message)
  ⟨p.issues ++ found, p.rulesApplied + 1⟩

/-- Judges one field of a payload. -/
def checkField (e : Engine) (today : Calendar.Date) (payload : Json.Object) (p : Progress)
    (f : CompiledField) : Progress :=
  match f.check payload with
  | .skipped => p
  | .invalid kind message =>
    { p with issues := p.issues ++ [.new e.containerKey f.name kind message] }
  | .valid v => f.rules.foldl (e.applyRule today f.name v) p

/-- Judges all fields of a payload, in order. -/
def collectIssues (e : Engine) (c : CompiledSchema) (payload : Json.Object)
    (today : Calendar.Date) : Progress :=
  c.fields.foldl (e.checkField today payload) ⟨[], 0⟩

/-- The payload itself, if it has no issue. -/
def validateCompiled (e : Engine) (c : CompiledSchema) (payload : Json.Object)
    (today : Calendar.Date) : Except IssueList Json.Object :=
  match (e.collectIssues c payload today).issues with
  | [] => .ok payload
  | issues => .error ⟨issues⟩

/-- What a validation by a compiled schema finds and does. -/
def report (e : Engine) (c : CompiledSchema) (payload : Json.Object) (today : Calendar.Date) :
    ValidationReport :=
  let p := e.collectIssues c payload today
  { valid := p.issues.isEmpty, issues := p.issues, fieldsChecked := c.fields.length,
    rulesApplied := p.rulesApplied }

end Engine

/-- Why an engine did not accept a payload. -/
inductive EngineError where
  | schema (e : SchemaError)
  | validation (l : IssueList)

namespace EngineError

/-- What is said where a validation fails. -/
def message : EngineError → String
  | .schema e => "Schema error: " ++ e.message
  | .validation l => l.message

/-- Whether the payload is at fault, and not the schema. -/
def isUserError : EngineError → Bool
  | .schema _ => false
  | .validation _ => true

end EngineError

namespace Engine

/-- Validates a payload by a schema that is compiled on first use. -/
def validate (e : Engine) (cache : SchemaCache) (s : Schema) (payload : Json.Object)
    (today : Calendar.Date) : Except EngineError Json.Object × SchemaCache :=
  match cache.getOrCompile s with
  | (.error err, cache) => (.error (.schema err), cache)
  | (.ok c, cache) =>
    match e.validateCompiled c.schema payload today with
    | .ok payload => (.ok payload, cache)
    | .error issues => (.error (.validation issues), cache)

/-- Without a schema every payload passes. -/
def validateOptional (e : Engine) (cache : SchemaCache) (s : Option Schema)
    (payload : Json.Object) (today : Calendar.Date) :
    Except EngineError Json.Object × SchemaCache :=
  match s with
  | some s => e.validate cache s payload today
  | none => (.ok payload, cache)

/-- What a validation by a schema would find. -/
def dryRun (e : Engine) (cache : SchemaCache) (s : Schema) (payload : Json.Object)
    (today : Calendar.Date) : Except SchemaError ValidationReport × SchemaCache :=
  match cache.getOrCompile s with
  | (.error err, cache) => (.error err, cache)
  | (.ok c, cache) => (.ok (e.report c.schema payload today), cache)

end Engine

end CustomFields
