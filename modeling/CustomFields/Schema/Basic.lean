import CustomFields.Json.Value

/-!
# Schemas of custom fields

A schema lists the custom fields of an entity type: each has a name, a label, a type, and what
more is asked of its values. A select field names the options that its values can take, a string
field may have a pattern, and any field may invoke business rules by their names. Nothing here
says that a schema makes sense; `Schema.check` does.
-/

namespace CustomFields

/-- The primitive types of custom fields. -/
inductive FieldType where
  | string
  | integer
  | boolean
  /-- One of a closed list of options. -/
  | select
deriving DecidableEq, Repr

namespace FieldType

/-- The name of a type in documents and messages. -/
def name : FieldType → String
  | .string => "string"
  | .integer => "integer"
  | .boolean => "boolean"
  | .select => "select"

/-- All types. -/
def all : List FieldType := [.string, .integer, .boolean, .select]

end FieldType

/-- The value of an option. An integer and a text never equal each other. -/
inductive OptionValue where
  | integer (value : Int64)
  | text (value : String)
deriving DecidableEq, Repr

namespace OptionValue

/-- Whether a JSON value is this option: it has the same type and the same value. -/
def isMatch : OptionValue → Json.Value → Bool
  | .integer expected, .number n => n.toInt64? == some expected.toInt
  | .text expected, .string s => expected == s
  | _, _ => false

/-- How an option is shown: texts stand in quotes. -/
def display : OptionValue → String
  | .integer n => toString n.toInt
  | .text s => "'" ++ s ++ "'"

end OptionValue

/-- An option of a field, with what is shown for it. -/
structure FieldOption where
  label : String
  value : OptionValue
deriving DecidableEq, Repr

/-- The invocation of a business rule on the value of a field. -/
structure RuleInvocation where
  /-- The name of the rule. -/
  action : String
  /-- What the rule is told, keys in order. -/
  params : Json.Object := []
  /-- What is reported when the rule does not hold. -/
  errorMessage : String

/-- A field: what its values are to be like. -/
structure FieldDefinition where
  /-- The key of the field in a payload. -/
  name : String
  label : String
  type : FieldType
  required : Bool := false
  options : Option (List FieldOption) := none
  pattern : Option String := none
  rules : List RuleInvocation := []

/-- The fields of an entity type, in order. -/
structure Schema where
  fields : List FieldDefinition

/-! ## Building schemas -/

namespace RuleInvocation

/-- A rule without parameters. -/
def new (action errorMessage : String) : RuleInvocation :=
  { action, errorMessage }

/-- Adds a parameter, or gives it another value. -/
def withParam (r : RuleInvocation) (key : String) (value : Json.Value) : RuleInvocation :=
  { r with params := Entries.put key value r.params }

end RuleInvocation

namespace FieldDefinition

/-- A field that is asked for nothing but its type. -/
def new (name label : String) (type : FieldType) : FieldDefinition :=
  { name, label, type }

/-- A field with options. -/
def select (name label : String) (options : List FieldOption) : FieldDefinition :=
  { new name label .select with options := some options }

/-- The field, which must have a value. -/
def asRequired (f : FieldDefinition) : FieldDefinition :=
  { f with required := true }

/-- The field, whose texts must match a pattern. -/
def withPattern (f : FieldDefinition) (pattern : String) : FieldDefinition :=
  { f with pattern := some pattern }

/-- The field, with one rule more. -/
def withRule (f : FieldDefinition) (r : RuleInvocation) : FieldDefinition :=
  { f with rules := f.rules ++ [r] }

end FieldDefinition

/-! ## Questions about schemas -/

namespace Schema

/-- The schema without fields. -/
def empty : Schema := ⟨[]⟩

/-- The schema with one field more. -/
def withField (s : Schema) (f : FieldDefinition) : Schema :=
  ⟨s.fields ++ [f]⟩

/-- The first field with a name. -/
def field? (s : Schema) (name : String) : Option FieldDefinition :=
  s.fields.find? (·.name == name)

/-- Whether a schema has no fields. -/
def isEmpty (s : Schema) : Bool :=
  s.fields.isEmpty

/-- The elements of a list without those that came before. -/
def distinctBeyond (seen : List String) : List String → List String
  | [] => []
  | x :: xs => if x ∈ seen then distinctBeyond seen xs else x :: distinctBeyond (x :: seen) xs

/-- The names of all rules that the schema invokes, each once, in the order of their first use. -/
def referencedRules (s : Schema) : List String :=
  distinctBeyond [] (s.fields.flatMap fun f => f.rules.map (·.action))

end Schema

end CustomFields
