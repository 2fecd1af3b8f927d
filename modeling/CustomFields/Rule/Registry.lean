import CustomFields.Json.Decoder
import CustomFields.Rule.Date
import CustomFields.Rule.Numeric

/-!
# The registry of rules

A registry knows rules by their names, each with a description for those who write schemas. A
name that is registered again gets the new rule and the new description. The rules are kept in no
order that means anything; where they are listed, they are put in the order of their names.
-/

namespace CustomFields.Rule

open Json (Decoder)

/-! ## Descriptions -/

/-- What a rule asks for under a name. -/
structure ParameterSpec where
  name : String
  type : String
  options : Option (List String) := none
  label : String
deriving DecidableEq, Repr

/-- What a rule is called, what it asks for and what it is meant for. -/
structure Metadata where
  label : String
  params : List ParameterSpec := []
  /-- The types of fields that the rule is meant for. -/
  applicableTypes : List String := []
deriving DecidableEq, Repr

/-- The document of what a rule asks for. -/
def ParameterSpec.toJson (p : ParameterSpec) : Json.Value :=
  .object <|
    [("name", .string p.name), ("type", .string p.type)] ++
    Json.memberIf "options" (p.options.map .strings) ++
    [("label", .string p.label)]

/-- The document of a description. -/
def Metadata.toJson (m : Metadata) : Json.Value :=
  .object [("label", .string m.label), ("params", .array (m.params.map (·.toJson))),
    ("applicable_types", .strings m.applicableTypes)]

/-- Reads what a rule asks for; options may be left out. -/
def ParameterSpec.decode : Decoder ParameterSpec := fun t => do
  let (name, type, options, label, ()) ← Decoder.record "ParamSpec"
    (.cons (.required "name" .string) <|
      .cons (.required "type" .string) <|
      .cons (.optional "options" (.list .string)) <|
      .cons (.required "label" .string) .nil) t
  return { name, type, options, label }

/-- Reads a description; both lists may be left out. -/
def Metadata.decode : Decoder Metadata := fun t => do
  let (label, params, applicableTypes, ()) ← Decoder.record "RuleMetadata"
    (.cons (.required "label" .string) <|
      .cons (.withDefault "params" (.list ParameterSpec.decode) []) <|
      .cons (.withDefault "applicable_types" (.list .string) []) .nil) t
  return { label, params, applicableTypes }

/-! ## Registries -/

/-- A rule with its description. -/
structure Registered where
  function : Function
  metadata : Metadata

/-- Rules by their names, each name once. How they are arranged does not show. -/
structure Registry where
  rules : List (String × Registered)

namespace Registry

/-- A registry that knows no rule. -/
def empty : Registry := ⟨[]⟩

/-- Adds a rule, or replaces the one with its name. -/
def register (r : Registry) (name : String) (function : Function) (metadata : Metadata) :
    Registry :=
  ⟨Entries.assign name ⟨function, metadata⟩ r.rules⟩

/-- The function of the rule with a name. -/
def lookup? (r : Registry) (name : String) : Option Function :=
  (Entries.get? name r.rules).map (·.function)

/-- Whether there is a rule with a name. -/
def contains (r : Registry) (name : String) : Bool :=
  Entries.contains name r.rules

/-- Runs the rule with a name. -/
def execute (r : Registry) (name : String) (value : Json.Value) (params : Parameters)
    (today : Calendar.Date) : Except Error Bool :=
  match r.lookup? name with
  | none => throw (.unknown name)
  | some function =>
    match function value params today with
    | .ok b => return b
    | .error failure => throw (.execution name failure)

/-- The descriptions of all rules, in the order of their names. -/
def listMetadata (r : Registry) : List (String × Metadata) :=
  Entries.ofBindings (r.rules.map fun (name, rule) => (name, rule.metadata))

/-- The names of all rules, sorted. -/
def names (r : Registry) : List String :=
  (Entries.keys r.rules).mergeSort fun a b => decide (a ≤ b)

/-- How many rules there are. -/
def size (r : Registry) : Nat :=
  r.rules.length

/-- Whether there is no rule. -/
def isEmpty (r : Registry) : Bool :=
  r.rules.isEmpty

/-- A registry as it is shown to those who look for faults. -/
def display (r : Registry) : String :=
  "RuleRegistry \x7B rules: [" ++ ", ".intercalate (r.names.map Text.quote) ++ "] \x7D"

/-- The document of all descriptions. -/
def metadataJson (r : Registry) : Json.Value :=
  .object (r.listMetadata.map fun (name, m) => (name, m.toJson))

end Registry

/-! ## Built-in rules -/

/-- The description of the rule for numbers. -/
def Numeric.metadata : Metadata where
  label := "Min/Max/Equivalencia"
  params := [
    { name := "operator", type := "select", options := some Operator.names, label := "Operador" },
    { name := "threshold", type := "number", label := "Valor límite" }]
  applicableTypes := ["integer", "float"]

/-- The description of the rule for dates. -/
def Date.metadata : Metadata where
  label := "Fecha relativa"
  params := [
    { name := "operator", type := "select", options := some Operator.names, label := "Operador" },
    { name := "reference_date", type := "select",
      options := some (relativeReferences ++ ["custom"]), label := "Fecha referencia" }]
  applicableTypes := ["date", "datetime"]

/-- Registers the two rules that are built in. -/
def Registry.registerBuiltins (r : Registry) : Registry :=
  (r.register Numeric.name Numeric.rule Numeric.metadata).register Date.name Date.rule Date.metadata

/-- The registry of the rules that are built in. -/
def Registry.builtins : Registry := Registry.empty.registerBuiltins

end CustomFields.Rule
