import CustomFields.Schema.Check
import CustomFields.Validation.Issue

/-!
# Shapes of values

The part of a field definition that decides about one value that is present: its type, and the
pattern or the options that go with it.
-/

namespace CustomFields

/-- What the value of a field is to be like. -/
inductive Shape where
  | string
  /-- A text with a match of the pattern somewhere. -/
  | pattern (p : Pattern)
  | integer
  | boolean
  /-- One of some options, by type and value. -/
  | oneOf (options : List OptionValue)

namespace Shape

/-- The options as they are listed in a message: `'a'`, `'a' or 'b'`, `'a', 'b' or 'c'`. -/
def describeOptions (options : List OptionValue) : String :=
  let shown := options.map (·.display)
  match shown.getLast? with
  | none => ""
  | some last =>
    if shown.length = 1 then last
    else ", ".intercalate shown.dropLast ++ " or " ++ last

/-- What is wrong with a value, if anything is. -/
def check (shape : Shape) (v : Json.Value) : Except (IssueKind × String) Unit :=
  match shape, v with
  | .string, .string _ => return ()
  | .string, _ => throw (.typeError, "Input should be a valid string")
  | .pattern p, .string s =>
    if p.isMatch s then return ()
    else throw (.patternError, "String should match pattern '" ++ p.source ++ "'")
  | .pattern _, _ => throw (.typeError, "Input should be a valid string")
  | .integer, .number n =>
    if n.isInteger then return () else throw (.typeError, "Input should be a valid integer")
  | .integer, _ => throw (.typeError, "Input should be a valid integer")
  | .boolean, .bool _ => return ()
  | .boolean, _ => throw (.typeError, "Input should be a valid boolean")
  | .oneOf options, v =>
    if options.any (·.isMatch v) then return ()
    else throw (.enumError, "Input should be " ++ describeOptions options)

/-- The shape that a field asks for. -/
def ofField (f : FieldDefinition) : Except SchemaError Shape :=
  match f.type with
  | .string =>
    match f.pattern with
    | none => return .string
    | some source =>
      match Pattern.parse source with
      | .ok p => return .pattern p
      | .error reason => throw (.invalidPattern f.name reason)
  | .integer => return .integer
  | .boolean => return .boolean
  | .select =>
    match f.options with
    | some (o :: os) => return .oneOf ((o :: os).map (·.value))
    | _ => throw (.missingOptions f.name)

end Shape

end CustomFields
