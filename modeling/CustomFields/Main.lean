import CustomFields.CommandLine.Run
import CustomFields.Http.Message
import Std.Time.DateTime.Timestamp

/-!
# The command line

The outer layer: it hands the arguments, the variables and the texts of files to the library, and
writes what comes back. `serve` shows the settings that a server starts with.
-/

namespace CustomFields.CommandLine

/-- What is shown to whoever asks for help. -/
def helpText : String :=
  "Usage: entity-config [-v] [-q] <COMMAND>\n\n" ++
  "Commands:\n" ++
  "  serve     Show the settings of the server\n" ++
  "  validate  Validate a payload file against a schema file\n" ++
  "  check     Check a schema file without validating a payload\n" ++
  "  rules     List the registered validation rules\n" ++
  "  help      Print this message\n"

/-- Writes what is answered where no command is to be run. -/
def answerUsage : Usage → IO UInt32
  | .help => do
    IO.print helpText
    return 0
  | .version => do
    IO.println ("entity-config " ++ Http.version)
    return 0
  | _ => do
    IO.eprint helpText
    return 2

/-- The text of a file, or why there is none. -/
def readText (path : String) : IO (Except FileFault String) := do
  try
    return decodeFile (← IO.FS.readBinFile path).toList
  catch
    | .noFileOrDirectory _ _ _ => return .error .notFound
    | e => return .error (.other (toString e))

/-- Runs a program among the files of the machine. -/
def perform {α : Type} : Program fileInterface α → IO α
  | .done a => return a
  | .access path next => do perform (next (← readText path))

/-- The variables of the environment that give settings. -/
def environment : IO Settings.Environment := do
  let names := Settings.variableNames.map (Settings.variableStart ++ ·)
  let values ← names.mapM fun name => do return (← IO.getEnv name).map (name, ·)
  return values.filterMap id

/-- The date of the day in UTC. -/
def today : IO Calendar.Date := do
  let now ← Std.Time.Timestamp.now
  let seconds := now.toSecondsSinceUnixEpoch.val
  return .ofDayNumber (seconds / 86400 + Calendar.Timestamp.epochDay)

end CustomFields.CommandLine

open CustomFields.CommandLine

/-- Runs the command that the arguments name, and ends with its code. -/
def main (args : List String) : IO UInt32 := do
  let e ← environment
  match Invocation.parse e args with
  | .error u => answerUsage u
  | .ok i =>
    let isTerminal ← (← IO.getStdout).isTty
    let colored := isTerminal && (← IO.getEnv "NO_COLOR").isNone
    let outcome ← perform (ExceptT.run (i.command.task e (← today) 0))
    if let .ok (.serve s) := outcome then
      IO.println s.toJson.pretty
    let result := i.finish colored outcome
    IO.print result.output
    IO.eprint result.errors
    return result.exit.number.toUInt32
