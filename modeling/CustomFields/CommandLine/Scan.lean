import CustomFields.CommandLine.Parameter
import CustomFields.Text.Split

/-!
# Reading arguments from left to right

The first fault wins, with one exception: a parameter whose value is not attached to its name is
looked at only when the next flag or parameter comes, or when the arguments end, so that an
argument that nobody knows comes before a fault of the parameter in front of it.

## Main definitions

* `Word`: an argument as it is written
* `Scan`: what has been read so far
* `Scan.run`: reads flags and parameters up to the first argument that is neither
-/

namespace CustomFields.CommandLine

/-! ## Words -/

/-- A word of the command line. -/
inductive Word where
  | plain (text : String)
  /-- A name, and the value that is attached to it. -/
  | long (name : String) (value : Option String)
  /-- Letters, and perhaps a value behind them. -/
  | short (letters : List Char)
  /-- Behind a separator, everything is plain. -/
  | separator
deriving DecidableEq, Repr

/-- What a word is by its hyphens. -/
def Word.ofText (s : String) : Word :=
  match s.toList with
  | ['-', '-'] => .separator
  | '-' :: '-' :: cs =>
    match Text.splitFirst? '=' cs with
    | some (name, value) => .long (String.ofList name) (some (String.ofList value))
    | none => .long (String.ofList cs) none
  | '-' :: c :: cs => .short (c :: cs)
  | _ => .plain s

/-! ## Scans -/

/-- What has been read so far. -/
structure Scan where
  verbosity : Nat := 0
  quiet : Bool := false
  arguments : List Argument := []
  /-- A parameter that has not been looked at yet, with its value if that has come. -/
  pending : Option (Parameter × Option String) := none
deriving DecidableEq, Repr

namespace Scan

/-- Takes the value of a parameter. -/
def take (s : Scan) (p : Parameter) (value : String) : Except Usage Scan := do
  if s.arguments.any (·.parameter == p) then throw .repeatedArgument
  return { s with arguments := s.arguments ++ [← p.read value] }

/-- Looks at the parameter that has not been looked at yet. -/
def settle (s : Scan) : Except Usage Scan :=
  match s.pending with
  | none => return s
  | some (_, none) => throw .invalidValue
  | some (p, some value) => take { s with pending := none } p value

/-- Takes a flag. Only one of them may be said more than once. -/
def flag (s : Scan) (f : Flag) : Except Usage Scan := do
  let s ← s.settle
  match f with
  | .verbose => return { s with verbosity := s.verbosity + 1 }
  | .quiet => if s.quiet then throw .repeatedArgument else return { s with quiet := true }
  | .help => throw .help
  | .version => throw .version

/-- A parameter, with its value if that is attached. -/
def parameter (s : Scan) (p : Parameter) (value : Option String) : Except Usage Scan := do
  let s ← s.settle
  match value with
  | some v => s.take p v
  | none => return { s with pending := some (p, none) }

/-- A name with what is attached to it, of keys that are known. -/
def long (keys : List Key) (s : Scan) (name : String) (value : Option String) :
    Except Usage Scan :=
  match keys.find? (·.name == name), value with
  | none, _ => throw .unknownArgument
  | some (.parameter p), _ => s.parameter p value
  | some (.flag f), none => s.flag f
  | some (.flag _), some _ => throw .valueForFlag

/-- Letters, of keys that are known. What stands behind the letter of a parameter is its value,
with or without an equals sign. -/
def short (keys : List Key) (s : Scan) : List Char → Except Usage Scan
  | [] => return s
  | c :: cs =>
    match keys.find? (·.letter? == some c) with
    | none => throw .unknownArgument
    | some (.flag f) => do short keys (← s.flag f) cs
    | some (.parameter p) =>
      s.parameter p <| match cs with
        | [] => none
        | '=' :: value => some (String.ofList value)
        | value => some (String.ofList value)

/-- Where flags and parameters end. -/
inductive Ending where
  | finished
  /-- At an argument that is no value, with those behind it. -/
  | atWord (text : String) (rest : List String)
  /-- At a separator, with the arguments behind it. -/
  | atSeparator (rest : List String)
deriving DecidableEq, Repr

/-- Reads flags and parameters, of keys that are known. -/
def run (keys : List Key) (s : Scan) : List String → Except Usage (Scan × Ending)
  | [] => return (s, .finished)
  | arg :: rest =>
    match Word.ofText arg with
    | .separator => return (s, .atSeparator rest)
    | .long name value => do run keys (← s.long keys name value) rest
    | .short letters => do run keys (← s.short keys letters) rest
    | .plain text =>
      match s.pending with
      | some (p, none) => run keys { s with pending := some (p, some text) } rest
      | _ => return (s, .atWord text rest)

end Scan

end CustomFields.CommandLine
