import CustomFields.CommandLine.Files
import CustomFields.CommandLine.Report
import CustomFields.Schema.Document

/-!
# Running commands

`validate` judges a payload by a schema as the server does, with the rules that are built in.
`check` looks at a schema alone: whether it satisfies its check, and which of the rules that it
names there are. `rules` lists the rules. `serve` gathers the settings that a server starts with.
-/

namespace CustomFields.CommandLine

/-- Work that reads files, and reports or fails. -/
abbrev Task (α : Type) := ExceptT Error (Program fileInterface) α

namespace Task

/-- Reads a file. -/
def read (path : String) : Task (Except FileFault String) :=
  ExceptT.lift (Program.perform (I := fileInterface) path)

/-- Runs a task among the files of a directory. -/
def run {α : Type} (t : Task α) (d : Directory) : Except Error α :=
  (Program.run Directory.serve (ExceptT.run t) d).1

end Task

/-! ## Documents -/

/-- Reads the document of a file that is used for something. -/
def readDocumentFile (use path : String) : Task Json.Value := do
  match ← Task.read path with
  | .error fault =>
    throw ⟨.file, "Failed to read " ++ use ++ " file '" ++ path ++ "': " ++ fault.message⟩
  | .ok text => ofExcept ((readDocument path text).mapError .ofDocument)

/-- Reads a schema from a file. -/
def readSchema (path : String) : Task Schema := do
  match Schema.ofJson (← readDocumentFile "schema" path) with
  | .ok s => return s
  | .error e => throw ⟨.schema, "Invalid schema '" ++ path ++ "': " ++ e.message⟩

/-- Reads a payload from a file, which has to hold an object. -/
def readPayload (path : String) : Task Json.Object := do
  match ← readDocumentFile "payload" path with
  | .object members => return members
  | v =>
    throw ⟨.invalidInput,
      "Payload '" ++ path ++ "' must be an object, found " ++ v.kindName⟩

/-! ## Commands -/

/-- Judges a payload by a schema on a day. -/
def validatePayload (schema : Schema) (payload : Json.Object) (containerKey : Option String)
    (today : Calendar.Date) : Except Error ValidationReport :=
  let engine : Engine := ⟨.builtins, containerKey.getD defaultContainerKey⟩
  let cache := SchemaCache.new SchemaCache.defaultCapacity
  (engine.dryRun cache schema payload today).1.mapError .ofSchema

/-- Looks at a schema alone. -/
def checkSchema (schema : Schema) : SchemaCheck :=
  let registry := Rule.Registry.builtins
  let unknownRules := schema.referencedRules.filter (!registry.contains ·)
  let ruleCount := (schema.fields.flatMap (·.rules)).length
  match CompiledSchema.compile schema with
  | .ok c =>
    { valid := true, fieldCount := c.fields.length, ruleCount, error := none, unknownRules,
      fingerprint := some c.fingerprint }
  | .error e =>
    { valid := false, fieldCount := schema.fields.length, ruleCount, error := some e.message,
      unknownRules, fingerprint := none }

/-- The rules that are built in. -/
def listRules : RuleList :=
  ⟨Rule.Registry.builtins.listMetadata⟩

/-- The settings that a server starts with. -/
def serverSettings (config : Option String) (e : Settings.Environment) (flags : Settings.Flags) :
    Task Settings := do
  let file ← match config with
    | none => pure none
    | some path => do
      let content := (← Task.read path).mapError FileFault.message
      pure (some (⟨path, content⟩ : Settings.File))
  ofExcept ((Settings.resolve file e flags).mapError .ofSettings)

/-! ## Invocations -/

/-- What a command comes to: a report, written in a format, or settings to serve with. -/
inductive Outcome where
  | report (r : Report) (format : OutputFormat)
  | serve (s : Settings)

namespace Command

/-- Runs a command on a day; a validation takes so many milliseconds. -/
def task (c : Command) (e : Settings.Environment) (today : Calendar.Date) (duration : Nat) :
    Task Outcome := do
  match c with
  | .serve config flags => return .serve (← serverSettings config e flags)
  | .validate schemaPath payloadPath containerKey format =>
    let schema ← readSchema schemaPath
    let payload ← readPayload payloadPath
    let report ← ofExcept (validatePayload schema payload containerKey today)
    return .report (.validation ⟨report, some duration⟩) format
  | .check schemaPath format =>
    let schema ← readSchema schemaPath
    return .report (.schemaCheck (checkSchema schema)) format
  | .rules format => return .report (.rules listRules) format

end Command

/-- What a run writes, and the exit code that it ends with. -/
structure RunResult where
  exit : ExitCode
  output : String
  errors : String
deriving DecidableEq, Repr

/-- Ends the run of a command with what it came to. A quiet run writes errors only, and a server
that has stopped has nothing to write. -/
def Invocation.finish (i : Invocation) (colored : Bool) : Except Error Outcome → RunResult
  | .ok (.report r format) => ⟨r.exitCode, if i.quiet then "" else r.write colored format, ""⟩
  | .ok (.serve _) => ⟨.success, "", ""⟩
  | .error e => ⟨.ofError e, "", "Error: " ++ e.message ++ "\n"⟩

end CustomFields.CommandLine
