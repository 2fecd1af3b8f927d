import CustomFields.Settings.Layers

/-!
# Flags and parameters

What may be named on a command line: flags, which stand alone, and parameters, each with a value.
A name has two dashes in front of it, and for some names a letter with one dash stands too. The
value of a parameter is read into an `Argument`.
-/

namespace CustomFields.CommandLine

/-- What is answered where no command is to be run. -/
inductive Usage where
  | help
  | version
  /-- Nothing is said at all. -/
  | nothingGiven
  | missingCommand
  | unknownCommand
  | unknownArgument
  /-- A value is missing, or none of those that are possible. -/
  | invalidValue
  /-- A value is not of the form that its parameter asks for. -/
  | malformedValue
  /-- A value is attached to a flag. -/
  | valueForFlag
  | repeatedArgument
  | missingArgument
deriving DecidableEq, Repr

/-- How results are written. -/
inductive OutputFormat where
  | table
  | json
  | yaml
deriving DecidableEq, Repr

namespace OutputFormat

/-- All forms. -/
def all : List OutputFormat := [.table, .json, .yaml]

/-- The name of a form. -/
def name : OutputFormat → String
  | .table => "table"
  | .json => "json"
  | .yaml => "yaml"

/-- The form that is used unless another one is named. -/
def default : OutputFormat := .table

/-- The form with a name. -/
def ofName? (s : String) : Option OutputFormat :=
  all.find? (·.name == s)

end OutputFormat

/-! ## Names -/

/-- What is said in the command line without a value. -/
inductive Flag where
  | verbose
  | quiet
  | help
  | version
deriving DecidableEq, Repr

/-- What is said in the command line with a value. -/
inductive Parameter where
  | config
  | host
  | port
  | storage
  | dataDir
  | schema
  | payload
  | containerKey
  | format
deriving DecidableEq, Repr

/-- What an argument may name. -/
inductive Key where
  | flag (f : Flag)
  | parameter (p : Parameter)
deriving DecidableEq, Repr

namespace Key

/-- The long name of what can be said. -/
def name : Key → String
  | .flag .verbose => "verbose"
  | .flag .quiet => "quiet"
  | .flag .help => "help"
  | .flag .version => "version"
  | .parameter .config => "config"
  | .parameter .host => "host"
  | .parameter .port => "port"
  | .parameter .storage => "storage"
  | .parameter .dataDir => "data-dir"
  | .parameter .schema => "schema"
  | .parameter .payload => "payload"
  | .parameter .containerKey => "container-key"
  | .parameter .format => "format"

/-- The letter that stands for a name. -/
def letter? : Key → Option Char
  | .flag .verbose => some 'v'
  | .flag .quiet => some 'q'
  | .flag .help => some 'h'
  | .flag .version => some 'V'
  | .parameter .config => some 'c'
  | .parameter .port => some 'p'
  | .parameter .schema => some 's'
  | .parameter .payload => some 'p'
  | .parameter .host | .parameter .storage | .parameter .dataDir | .parameter .containerKey
  | .parameter .format => none

end Key

/-! ## Values -/

/-- A parameter with its value. -/
inductive Argument where
  | config (path : String)
  | host (name : String)
  | port (number : Nat)
  | storage (kind : StorageKind)
  | dataDir (path : String)
  | schema (path : String)
  | payload (path : String)
  | containerKey (key : String)
  | format (format : OutputFormat)
deriving DecidableEq, Repr

/-- The parameter that an argument is for. -/
def Argument.parameter : Argument → Parameter
  | .config _ => .config
  | .host _ => .host
  | .port _ => .port
  | .storage _ => .storage
  | .dataDir _ => .dataDir
  | .schema _ => .schema
  | .payload _ => .payload
  | .containerKey _ => .containerKey
  | .format _ => .format

/-- A port: digits, with or without a sign. -/
def port? (s : String) : Option Nat :=
  let (negative, digits) := Decimal.splitSign s.toList
  if digits.isEmpty || !digits.all Char.isDigit then none
  else
    let n := Nat.ofDigitChars 10 digits 0
    if n < UInt16.size ∧ (negative → n = 0) then some n else none

/-- Reads the value of a parameter. A path is not empty. -/
def Parameter.read (p : Parameter) (s : String) : Except Usage Argument :=
  let path (f : String → Argument) : Except Usage Argument :=
    if s.isEmpty then throw .invalidValue else return f s
  match p with
  | .config => path .config
  | .dataDir => path .dataDir
  | .schema => path .schema
  | .payload => path .payload
  | .host => return .host s
  | .containerKey => return .containerKey s
  | .port =>
    match port? s with
    | some n => return .port n
    | none => throw .malformedValue
  | .storage =>
    match StorageKind.parse s with
    | .ok kind => return .storage kind
    | .error _ => throw .malformedValue
  | .format =>
    match OutputFormat.ofName? s with
    | some f => return .format f
    | none => throw .invalidValue

end CustomFields.CommandLine
