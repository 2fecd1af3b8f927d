import CustomFields.Json.Reader
import CustomFields.Text.Split
import CustomFields.Toml.Reader
import CustomFields.Unicode.LetterCase
import CustomFields.Yaml.Value

/-!
# Documents in files

The extension of a file says how its document is written. The name of a file is the last part of
its path, and its extension is what stands behind the last dot of the name, unless nothing stands
in front of that dot.
-/

namespace CustomFields

/-- A format that documents are read in. -/
inductive DocumentFormat where
  | json
  | yaml
  | toml
deriving DecidableEq, Repr

/-- Why a file holds no document. -/
inductive DocumentError where
  | unsupported (extension : String)
  | malformed (format : DocumentFormat)
deriving DecidableEq, Repr

namespace DocumentFormat

/-- The name of a format in messages. -/
def name : DocumentFormat → String
  | .json => "JSON"
  | .yaml => "YAML"
  | .toml => "TOML"

/-- The extensions with their formats. -/
def extensions : List (String × DocumentFormat) :=
  [("json", .json), ("yaml", .yaml), ("yml", .yaml), ("toml", .toml)]

/-- The name of the file that a path leads to. -/
def fileName? (path : String) : Option (List Char) :=
  let parts := (Text.split '/' path.toList).filter fun part => !part.isEmpty && part != ['.']
  parts.getLast?.filter (· != ['.', '.'])

/-- The extension of a path, in lower case; empty if there is none. -/
def extension (path : String) : String :=
  match fileName? path with
  | none => ""
  | some name =>
    let (reversed, before) := name.reverse.span (· != '.')
    match before with
    | _ :: _ :: _ => Unicode.lowerCaseText (String.ofList reversed.reverse)
    | _ => ""

/-- The value of a text, if it is well formed. -/
def read? (text : String) : DocumentFormat → Option Json.Value
  | .json => Json.Value.parse? text
  | .yaml => Yaml.parse? text
  | .toml => Toml.parse? text

end DocumentFormat

/-- What is said of a document that cannot be read. -/
def DocumentError.message : DocumentError → String
  | .unsupported extension =>
    "Unsupported file format: " ++ extension ++ ". Supported formats: " ++
      ", ".intercalate (Entries.keys DocumentFormat.extensions)
  | .malformed format => "Invalid " ++ format.name ++ ": the text is not well formed"

/-- Reads the document of a file. -/
def readDocument (path text : String) : Except DocumentError Json.Value :=
  let extension := DocumentFormat.extension path
  match Entries.get? extension DocumentFormat.extensions with
  | none => throw (.unsupported extension)
  | some format =>
    match format.read? text with
    | some v => return v
    | none => throw (.malformed format)

end CustomFields
