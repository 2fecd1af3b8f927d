import CustomFields.CommandLine.Error
import CustomFields.CommandLine.Invocation
import CustomFields.Json.Printer
import CustomFields.Text.Styled
import CustomFields.Validation.Engine
import CustomFields.Yaml.Printer

/-!
# Reports of commands

A command that does its work reports what it found: the issues of a payload, the state of a
schema, or the rules that there are. A report is written as a table for readers or as a document
for programs, and the exit code follows from the report alone.
-/

namespace CustomFields.CommandLine

open Json (Decoder)
open Text (Line styled)

/-- A line across a table. -/
private def ruler (c : Char) : Text.Span :=
  String.ofList (List.replicate 60 c)

/-- A title with a line under it. -/
private def heading (title : String) : List Line :=
  [[], [styled .boldCyan title], [ruler '='], []]

/-- A line that is left out where there is no value. -/
private def lineIf {α : Type} (a? : Option α) (line : α → Line) : List Line :=
  a?.toList.map line

/-! ## Validations -/

/-- What came of validating a payload, and how many milliseconds it took. -/
structure ValidationResult where
  report : ValidationReport
  duration : Option Nat
deriving DecidableEq, Repr

namespace ValidationResult

/-- A result in one sentence. -/
def summary (r : ValidationResult) : String :=
  if r.report.valid then "Payload is valid"
  else
    let (structural, business) := r.report.issues.partition (·.kind.isStructural)
    "Payload has " ++ toString r.report.issues.length ++ " issue(s): " ++
      toString structural.length ++ " structural, " ++ toString business.length ++ " business rule"

/-- A result as a document. -/
def toJson (r : ValidationResult) : Json.Value :=
  .object <|
    [("valid", .bool r.report.valid), ("issue_count", .nat r.report.issues.length),
      ("fields_checked", .nat r.report.fieldsChecked),
      ("rules_applied", .nat r.report.rulesApplied),
      ("issues", .array (r.report.issues.map (·.toJson))), ("summary", .string r.summary)] ++
    Json.memberIf "duration_ms" (r.duration.map .nat)

/-- The lines about an issue at a place. -/
private def issueLines (place : Nat) (i : Issue) : List Line :=
  let kind := styled (if i.kind.isStructural then .red else .yellow) i.kind.name
  let first : List Line :=
    [[toString (place + 1) ++ ". [", kind, "] ", styled .bold i.path], ["   " ++ i.message]]
  first ++
  lineIf i.rule (fun rule => ["   Rule: ", styled .dimmed rule]) ++
  lineIf i.cause (fun cause => ["   Cause: ", styled .dimmed cause])

/-- A result as lines for a terminal. -/
def table (r : ValidationResult) : List Line :=
  let mark := if r.report.valid then styled .green "+" else styled .red "x"
  let counts := "  Fields checked: " ++ toString r.report.fieldsChecked ++ "  Rules applied: " ++
    toString r.report.rulesApplied
  let issues : List Line :=
    if r.report.issues.isEmpty then []
    else
      [styled .boldCyan "Issues:"] :: [ruler '-'] :: (r.report.issues.mapIdx issueLines).flatten ++
        [[]]
  heading "Validation Results" ++ [[mark, " " ++ r.summary], [counts]] ++
    lineIf r.duration (fun ms => ["  Duration: " ++ toString ms ++ "ms"]) ++ [[]] ++ issues

end ValidationResult

/-! ## Checks of schemas -/

/-- What came of checking a schema. -/
structure SchemaCheck where
  valid : Bool
  fieldCount : Nat
  ruleCount : Nat
  error : Option String
  /-- The rules that the schema names and that there are not. -/
  unknownRules : List String
  fingerprint : Option String
deriving DecidableEq, Repr

namespace SchemaCheck

/-- The result of a check as a document. -/
def toJson (c : SchemaCheck) : Json.Value :=
  .object <|
    [("valid", .bool c.valid), ("field_count", .nat c.fieldCount),
      ("rule_count", .nat c.ruleCount)] ++
    Json.memberIf "error" (c.error.map .string) ++
    [("unknown_rules", .strings c.unknownRules)] ++
    Json.memberIf "fingerprint" (c.fingerprint.map .string)

/-- The result of a check, from its document. -/
def decode : Decoder SchemaCheck := fun t => do
  let (valid, fieldCount, ruleCount, error, unknownRules, fingerprint, ()) ←
    Decoder.record "SchemaCheckOutput"
      (.cons (.required "valid" .bool) <|
        .cons (.required "field_count" .size) <|
        .cons (.required "rule_count" .size) <|
        .cons (.optional "error" .string) <|
        .cons (.withDefault "unknown_rules" (.list .string) []) <|
        .cons (.nullable "fingerprint" .string) .nil) t
  return { valid, fieldCount, ruleCount, error, unknownRules, fingerprint }

/-- The result of a check as lines for a terminal. -/
def table (c : SchemaCheck) : List Line :=
  let state : Line := match c.error with
    | some error => [styled .red "x", " " ++ error]
    | none => [styled .green "+", " Schema is valid (" ++ toString c.fieldCount ++ " fields, " ++
        toString c.ruleCount ++ " rule invocations)"]
  let unknown (name : String) : Line :=
    [styled .yellow "!", " Rule '" ++ name ++ "' is not registered"]
  heading "Schema Check" ++ [state] ++ c.unknownRules.map unknown ++
    lineIf c.fingerprint (fun f => ["  Fingerprint: ", styled .dimmed f]) ++ [[]]

end SchemaCheck

/-! ## Lists of rules -/

/-- The rules that there are, names in order. -/
structure RuleList where
  rules : List (String × Rule.Metadata)
deriving DecidableEq, Repr

namespace RuleList

/-- The descriptions of the rules by their names. -/
def rulesJson (l : RuleList) : Json.Value :=
  .object (l.rules.map fun (name, m) => (name, m.toJson))

/-- The rules as a document. -/
def toJson (l : RuleList) : Json.Value :=
  .object [("rules", l.rulesJson)]

/-- The rules, from their document. -/
def decode : Decoder RuleList := fun t => do
  let (rules, ()) ← Decoder.record "RulesOutput"
    (.cons (.required "rules" (.entries Rule.Metadata.decode)) .nil) t
  return ⟨rules⟩

/-- A parameter of a rule on one line. -/
private def parameterLine (p : Rule.ParameterSpec) : Line :=
  let options := p.options.elim "" fun os => " [" ++ ", ".intercalate os ++ "]"
  ["  ", styled .cyan p.name, " (" ++ p.type ++ "): " ++ p.label ++ options]

/-- A rule with its parameters. -/
private def ruleLines (name : String) (m : Rule.Metadata) : List Line :=
  let types : List Line :=
    if m.applicableTypes.isEmpty then []
    else [["  Applies to: " ++ ", ".intercalate m.applicableTypes]]
  [styled .bold name, " - " ++ m.label] :: types ++ m.params.map parameterLine ++ [[]]

/-- The rules as lines for a terminal. -/
def table (l : RuleList) : List Line :=
  heading "Validation Rules" ++ l.rules.flatMap fun (name, m) => ruleLines name m

end RuleList

/-! ## Reports -/

/-- What a command has to show. -/
inductive Report where
  | validation (r : ValidationResult)
  | schemaCheck (c : SchemaCheck)
  | rules (l : RuleList)
deriving DecidableEq, Repr

namespace Report

/-- What a command has to show, as lines for a terminal. -/
def table : Report → List Line
  | .validation r => r.table
  | .schemaCheck c => c.table
  | .rules l => l.table

/-- What a program reads in place of the table. -/
def document : Report → Json.Value
  | .validation r => r.toJson
  | .schemaCheck c => c.toJson
  | .rules l => l.rulesJson

/-- A report as it is written. Documents have a break behind them. -/
def write (colored : Bool) (r : Report) : OutputFormat → String
  | .table => Text.render colored r.table
  | .json => r.document.pretty ++ "\n"
  | .yaml => Yaml.print r.document ++ "\n"

/-- The exit code of a command that reports. A schema with a fault is an error of the schema, and
rules that there are not are a warning. -/
def exitCode : Report → ExitCode
  | .validation r => .ofFindings (!r.report.valid) false
  | .schemaCheck c =>
    if c.error.isSome then .schemaError else .ofFindings false (!c.unknownRules.isEmpty)
  | .rules _ => .success

end Report

end CustomFields.CommandLine
