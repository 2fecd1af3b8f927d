import CustomFields.Data.Entries
import CustomFields.Data.Program
import CustomFields.Text.Split
import CustomFields.Text.Utf8

/-!
# Files

Commands read files and leave all else around them alone. What a command does is a program over
the one access of reading a text, so it can be run in a `Directory`, which is a value, as well as
among the files of a machine.
-/

namespace CustomFields.CommandLine

/-- Why the text of a file cannot be read. -/
inductive FileFault where
  | notFound
  | notADirectory
  | isADirectory
  | notText
  | other (reason : String)
deriving DecidableEq, Repr

/-- What is said of a file that cannot be read. -/
def FileFault.message : FileFault → String
  | .notFound => "No such file or directory (os error 2)"
  | .notADirectory => "Not a directory (os error 20)"
  | .isADirectory => "Is a directory (os error 21)"
  | .notText => "stream did not contain valid UTF-8"
  | .other reason => reason

/-- Reading the text of the file that a path leads to. -/
def fileInterface : Interface where
  Access := String
  Answer _ := Except FileFault String

/-- The text of a file with given bytes. -/
def decodeFile (bytes : List UInt8) : Except FileFault String :=
  match Utf8.decode? bytes with
  | some text => return text
  | none => throw .notText

/-- Files in one place, by their names. -/
structure Directory where
  files : List (String × List UInt8)

namespace Directory

/-- Reads the file that a path leads to. Empty parts of a path and single dots stay where they
are, which is possible in a directory only. -/
def read (d : Directory) (path : String) : Except FileFault String :=
  let parts := (Text.split '/' path.toList).map String.ofList
  let isStep (part : String) : Bool := part != "" && part != "."
  if path.startsWith "/" then throw .notFound
  else
    match parts.dropWhile (!isStep ·) with
    | [] => throw .isADirectory
    | name :: rest =>
      match Entries.get? name d.files with
      | none => throw .notFound
      | some bytes => if rest.isEmpty then decodeFile bytes else throw .notADirectory

/-- A directory is read, and stays as it is. -/
def serve : fileInterface.Server Directory
  | path, d => (d.read path, d)

end Directory

end CustomFields.CommandLine
