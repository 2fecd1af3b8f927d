import CustomFields.Json.Decoder

/-!
# Issues of payloads

An issue says what is wrong with the value of one field, or with the attempt to judge it. A
validation ends with all issues of a payload, in the order of the fields.
-/

namespace CustomFields

open Json (Decoder)

/-- What an issue is about. -/
inductive IssueKind where
  /-- The value has the wrong type. -/
  | typeError
  /-- A required value is missing. -/
  | requiredError
  /-- The text does not match the pattern. -/
  | patternError
  /-- The value is none of the options. -/
  | enumError
  /-- A business rule does not hold or could not run. -/
  | businessRuleError
  /-- A business rule is not registered. -/
  | unknownRuleError
deriving DecidableEq, Repr

namespace IssueKind

/-- The name of a kind in documents and metrics. -/
def name : IssueKind → String
  | .typeError => "type_error"
  | .requiredError => "required_error"
  | .patternError => "pattern_error"
  | .enumError => "enum_error"
  | .businessRuleError => "business_rule_error"
  | .unknownRuleError => "unknown_rule_error"

/-- All kinds. -/
def all : List IssueKind :=
  [.typeError, .requiredError, .patternError, .enumError, .businessRuleError, .unknownRuleError]

/-- Whether the issue is about the form of a value, and not about a rule. -/
def isStructural : IssueKind → Bool
  | .typeError | .requiredError | .patternError | .enumError => true
  | .businessRuleError | .unknownRuleError => false

/-- A kind, from its name. -/
def decode : Decoder IssueKind :=
  Decoder.oneOf (all.map fun k => (k.name, k))

end IssueKind

/-- One thing that is wrong with a payload. -/
structure Issue where
  /-- The key of the container and the name of the field. -/
  fieldPath : List String
  message : String
  kind : IssueKind
  /-- The rule that the issue is about. -/
  rule : Option String := none
  /-- Why the rule could not run. -/
  cause : Option String := none
deriving DecidableEq, Repr

namespace Issue

/-- An issue of a field that no rule has raised. -/
def new (container field : String) (kind : IssueKind) (message : String) : Issue :=
  { fieldPath := [container, field], message, kind }

/-- The name of the field. -/
def field (i : Issue) : String :=
  i.fieldPath.getLastD ""

/-- The path of a field in one text. -/
def path (i : Issue) : String :=
  ".".intercalate i.fieldPath

/-- An issue on one line. -/
def display (i : Issue) : String :=
  "[" ++ i.kind.name ++ "] " ++ i.path ++ ": " ++ i.message

/-- An issue as it is shown. -/
def toJson (i : Issue) : Json.Value :=
  .object <|
    [("field_path", .strings i.fieldPath), ("message", .string i.message),
      ("kind", .string i.kind.name)] ++
    Json.memberIf "rule" (i.rule.map .string) ++
    Json.memberIf "cause" (i.cause.map .string)

/-- An issue, from its document. -/
def decode : Decoder Issue := fun t => do
  let (fieldPath, message, kind, rule, cause, ()) ← Decoder.record "ValidationIssue"
    (.cons (.required "field_path" (.list .string)) <|
      .cons (.required "message" .string) <|
      .cons (.required "kind" IssueKind.decode) <|
      .cons (.optional "rule" .string) <|
      .cons (.optional "cause" .string) .nil) t
  return { fieldPath, message, kind, rule, cause }

end Issue

/-- All issues of a payload that did not pass. -/
structure IssueList where
  issues : List Issue
deriving DecidableEq, Repr

namespace IssueList

/-- What is said of a payload with issues. -/
def message (l : IssueList) : String :=
  "Validation failed with " ++ toString l.issues.length ++ " issue(s)"

/-- The issues of one field. -/
def forField (l : IssueList) (field : String) : List Issue :=
  l.issues.filter (·.field == field)

/-- Issues as they are shown. -/
def toJson (l : IssueList) : Json.Value :=
  .object [("issues", .array (l.issues.map (·.toJson)))]

end IssueList

/-- What a validation found and did. -/
structure ValidationReport where
  valid : Bool
  issues : List Issue
  fieldsChecked : Nat
  rulesApplied : Nat
deriving DecidableEq, Repr

namespace ValidationReport

/-- A report as it is shown. -/
def toJson (r : ValidationReport) : Json.Value :=
  .object [("valid", .bool r.valid), ("issues", .array (r.issues.map (·.toJson))),
    ("fields_checked", .nat r.fieldsChecked), ("rules_applied", .nat r.rulesApplied)]

/-- A report, from its document. -/
def decode : Decoder ValidationReport := fun t => do
  let (valid, issues, fieldsChecked, rulesApplied, ()) ← Decoder.record "ValidationReport"
    (.cons (.required "valid" .bool) <|
      .cons (.withDefault "issues" (.list Issue.decode) []) <|
      .cons (.required "fields_checked" .size) <|
      .cons (.required "rules_applied" .size) .nil) t
  return { valid, issues, fieldsChecked, rulesApplied }

end ValidationReport

end CustomFields
