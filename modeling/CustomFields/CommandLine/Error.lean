import CustomFields.Documents.Format
import CustomFields.Schema.Check
import CustomFields.Settings.Basic

/-!
# Failures and exit codes of commands

A command that cannot do its work fails with an error of one of seven kinds. The exit code tells
what came of a command: whether it found something, or how it failed.
-/

namespace CustomFields.CommandLine

/-- The kinds of errors of a command. -/
inductive ErrorKind where
  | invalidInput
  | file
  | parse
  | schema
  | serialization
  | server
  | internal
deriving DecidableEq, Repr

/-- Why a command fails. -/
structure Error where
  kind : ErrorKind
  text : String
deriving DecidableEq, Repr

/-- How a message starts. -/
def ErrorKind.label : ErrorKind → String
  | .invalidInput => "Invalid input"
  | .file => "File error"
  | .parse => "Parse error"
  | .schema => "Schema error"
  | .serialization => "Serialization error"
  | .server => "Server error"
  | .internal => "Internal error"

namespace Error

/-- What is said of a command that fails. -/
def message (e : Error) : String :=
  e.kind.label ++ ": " ++ e.text

/-- Whether the error lies in what the user gave. -/
def isUserError (e : Error) : Bool :=
  match e.kind with
  | .invalidInput | .file | .parse | .schema => true
  | .serialization | .server | .internal => false

/-- Why a command fails that cannot read a document. -/
def ofDocument (e : DocumentError) : Error :=
  match e with
  | .unsupported _ => ⟨.invalidInput, e.message⟩
  | .malformed _ => ⟨.parse, e.message⟩

/-- Why a command fails whose schema is at fault. -/
def ofSchema (e : SchemaError) : Error := ⟨.schema, e.message⟩

/-- Why a command fails that has no settings. -/
def ofSettings (e : SettingsError) : Error :=
  match e with
  | .unreadable _ _ => ⟨.file, e.message⟩
  | .malformed _ => ⟨.parse, e.message⟩
  | .invalid _ => ⟨.invalidInput, e.message⟩

end Error

/-- How a command ends. -/
inductive ExitCode where
  | success
  /-- A payload has issues. -/
  | issues
  /-- A schema names rules that there are not. -/
  | unknownRules
  | invalidInput
  | fileError
  | schemaError
  | internalError
deriving DecidableEq, Repr

namespace ExitCode

/-- The number that a command ends with. -/
def number : ExitCode → Nat
  | .success => 0
  | .issues => 1
  | .unknownRules => 2
  | .invalidInput => 3
  | .fileError => 4
  | .schemaError => 5
  | .internalError => 10

/-- The exit code of what has been found; errors go before warnings. -/
def ofFindings (hasErrors hasWarnings : Bool) : ExitCode :=
  if hasErrors then .issues else if hasWarnings then .unknownRules else .success

/-- The exit code of a command that failed. -/
def ofError (e : Error) : ExitCode :=
  match e.kind with
  | .file => .fileError
  | .schema => .schemaError
  | .invalidInput | .parse => .invalidInput
  | .serialization | .server | .internal => .internalError

end ExitCode

end CustomFields.CommandLine
