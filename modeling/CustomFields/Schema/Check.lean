import CustomFields.Schema.Basic
import CustomFields.Pattern.Matcher

/-!
# What a schema has to satisfy

Names are not blank and differ from each other, options stand on select fields and only there,
and a pattern stands on string fields only and is well formed. `Schema.check` reports the first
fault in the order of the fields; on one field the name comes first, then the options, then the
pattern, and last the question whether an earlier field has the name. Names of rules are not
looked up here.
-/

namespace CustomFields

/-- What can be wrong with a schema. -/
inductive SchemaError where
  | emptyFieldName
  | duplicateField (name : String)
  | missingOptions (field : String)
  | optionsNotAllowed (field : String) (type : FieldType)
  | patternNotAllowed (field : String) (type : FieldType)
  | invalidPattern (field : String) (reason : Pattern.Error)
deriving DecidableEq, Repr

/-- What is said of a schema that is at fault. -/
def SchemaError.message : SchemaError → String
  | .emptyFieldName => "Field name must not be empty"
  | .duplicateField name => "Duplicate field name '" ++ name ++ "'"
  | .missingOptions field => "Select field '" ++ field ++ "' must declare at least one option"
  | .optionsNotAllowed field type =>
    "Field '" ++ field ++ "' of type " ++ type.name ++ " cannot declare options"
  | .patternNotAllowed field type =>
    "Field '" ++ field ++ "' of type " ++ type.name ++ " cannot declare a regex"
  | .invalidPattern field reason =>
    "Invalid regex for field '" ++ field ++ "': " ++ reason.message

namespace FieldDefinition

/-- Options stand on select fields, at least one, and nowhere else. -/
def checkOptions (f : FieldDefinition) : Except SchemaError Unit :=
  match f.type, f.options with
  | .select, none => throw (.missingOptions f.name)
  | .select, some [] => throw (.missingOptions f.name)
  | .select, some (_ :: _) => return ()
  | type, some _ => throw (.optionsNotAllowed f.name type)
  | _, none => return ()

/-- A pattern stands on string fields only and is well formed. -/
def checkPattern (f : FieldDefinition) : Except SchemaError Unit :=
  match f.pattern with
  | none => return ()
  | some source =>
    if f.type ≠ .string then throw (.patternNotAllowed f.name f.type)
    else
      match Pattern.parse source with
      | .ok _ => return ()
      | .error reason => throw (.invalidPattern f.name reason)

/-- What a field has to satisfy on its own. -/
def check (f : FieldDefinition) : Except SchemaError Unit := do
  if Text.isBlankText f.name then throw .emptyFieldName
  f.checkOptions
  f.checkPattern

end FieldDefinition

namespace Schema

/-- Checks fields that stand behind fields with the names `seen`. -/
def checkFields (seen : List String) : List FieldDefinition → Except SchemaError Unit
  | [] => return ()
  | f :: fs => do
    f.check
    if f.name ∈ seen then throw (.duplicateField f.name)
    checkFields (f.name :: seen) fs

/-- Checks the fields of a schema, one after the other. The first fault counts. -/
def check (s : Schema) : Except SchemaError Unit :=
  checkFields [] s.fields

end Schema

end CustomFields
