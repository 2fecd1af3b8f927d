import CustomFields.CommandLine.Scan

/-!
# Invocations

A command line names a command. Flags may stand before the name and behind it; what stands behind
it belongs to the command, and so do parameters.

## Main definitions

* `Command`: what a command line asks for
* `Invocation`: a command with what has been said about its output
* `Invocation.parse`: reads the arguments
-/

namespace CustomFields.CommandLine

/-! ## Commands -/

/-- The commands. -/
inductive CommandName where
  | serve
  | validate
  | check
  | rules
deriving DecidableEq, Repr

namespace CommandName

/-- All commands. -/
def all : List CommandName := [.serve, .validate, .check, .rules]

/-- The name of a command in the command line. -/
def name : CommandName → String
  | .serve => "serve"
  | .validate => "validate"
  | .check => "check"
  | .rules => "rules"

/-- The command with a name. -/
def ofName? (s : String) : Option CommandName :=
  all.find? (·.name == s)

/-- What can be said to a command. -/
def parameters : CommandName → List Parameter
  | .serve => [.config, .host, .port, .storage, .dataDir]
  | .validate => [.schema, .payload, .containerKey, .format]
  | .check => [.schema, .format]
  | .rules => [.format]

/-- What may be named behind the command. -/
def keys (c : CommandName) : List Key :=
  [Flag.verbose, .quiet, .help].map .flag ++ c.parameters.map .parameter

end CommandName

/-- What may be named before a command. -/
def leadingKeys : List Key :=
  [Flag.verbose, .quiet, .help, .version].map .flag

/-- The word in the place of a command that asks for help. -/
def helpWord : String := "help"

/-- What a command line asks for. -/
inductive Command where
  | serve (config : Option String) (flags : Settings.Flags)
  | validate (schema payload : String) (containerKey : Option String) (format : OutputFormat)
  | check (schema : String) (format : OutputFormat)
  | rules (format : OutputFormat)
deriving DecidableEq, Repr

/-- Looks for an argument that has to be there. -/
private def require (found : Option String) : Except Usage String :=
  match found with
  | some value => return value
  | none => throw .missingArgument

/-- The variable that names the file of settings where no argument does. -/
def configVariable : String := Settings.variableStart ++ "FILE"

/-- The command with a name and its arguments. -/
def CommandName.command (c : CommandName) (e : Settings.Environment) (arguments : List Argument) :
    Except Usage Command := do
  let schema? := arguments.findSome? fun | .schema path => some path | _ => none
  let format := (arguments.findSome? fun | .format f => some f | _ => none).getD .default
  match c with
  | .serve =>
    let given := arguments.findSome? fun | .config path => some path | _ => none
    let config := given.or (Entries.get? configVariable e)
    if config = some "" then throw .invalidValue
    return .serve config {
      host := arguments.findSome? fun | .host name => some name | _ => none
      port := arguments.findSome? fun | .port number => some number | _ => none
      storage := arguments.findSome? fun | .storage kind => some kind | _ => none
      dataDir := arguments.findSome? fun | .dataDir path => some path | _ => none }
  | .validate =>
    let schema ← require schema?
    let payload ← require (arguments.findSome? fun | .payload path => some path | _ => none)
    let containerKey := arguments.findSome? fun | .containerKey key => some key | _ => none
    return .validate schema payload containerKey format
  | .check => return .check (← require schema?) format
  | .rules => return .rules format

/-! ## Invocations -/

/-- How much is written about a run. -/
inductive LogLevel where
  | error
  | warn
  | info
  | debug
  | trace
deriving DecidableEq, Repr

/-- The name of a level. -/
def LogLevel.name : LogLevel → String
  | .error => "error"
  | .warn => "warn"
  | .info => "info"
  | .debug => "debug"
  | .trace => "trace"

/-- A command with what has been said about its output. -/
structure Invocation where
  verbosity : Nat
  quiet : Bool
  command : Command
deriving DecidableEq, Repr

namespace Invocation

/-- How much is logged: more with each flag that asks for it, and only errors where quiet is asked
for. -/
def logLevel (i : Invocation) : LogLevel :=
  if i.quiet then .error
  else
    match i.verbosity with
    | 0 => .warn
    | 1 => .info
    | 2 => .debug
    | _ => .trace

/-- Reads what stands behind the name of a command, after the flags before it. What has been said
behind the name goes before what has been said in front of it. -/
def ofCommand (before : Scan) (c : CommandName) (e : Settings.Environment) (args : List String) :
    Except Usage Invocation := do
  let (s, ending) ← Scan.run c.keys {} args
  match ending with
  | .finished | .atSeparator [] =>
    let s ← s.settle
    let command ← c.command e s.arguments
    return { verbosity := if s.verbosity = 0 then before.verbosity else s.verbosity,
             quiet := before.quiet || s.quiet, command }
  | .atWord _ _ | .atSeparator (_ :: _) => throw .unknownArgument

/-- Answers a request for help about the commands with given names. -/
def help : List String → Usage
  | [] => .help
  | [name] => if name = helpWord ∨ (CommandName.ofName? name).isSome then .help else .unknownCommand
  | _ :: _ :: _ => .unknownCommand

/-- Reads a command line. -/
def parse (e : Settings.Environment) (args : List String) : Except Usage Invocation := do
  let (s, ending) ← Scan.run leadingKeys {} args
  match ending with
  | .finished | .atSeparator [] =>
    if s.verbosity = 0 ∧ !s.quiet then throw .nothingGiven else throw .missingCommand
  | .atSeparator (word :: _) =>
    if word = helpWord ∨ (CommandName.ofName? word).isSome then throw .unknownArgument
    else throw .unknownCommand
  | .atWord word rest =>
    match CommandName.ofName? word with
    | some c => ofCommand s c e rest
    | none => if word = helpWord then throw (help rest) else throw .unknownCommand

end Invocation

end CustomFields.CommandLine
