import CustomFields.Text.Percent
import CustomFields.Text.Split

/-!
# Request targets

The target of a request is a path with a query, the address of a server with a path and a query
behind it, an address alone, or an asterisk. What follows a number sign is not part of it. The
parts of a path and the parameters of a query are percent-encoded; in a query a plus sign stands
for a blank.
-/

namespace CustomFields.Http

/-- What a request asks for: a path, and a query behind it. -/
structure Target where
  path : String
  query : String
deriving DecidableEq, Repr

namespace Target

/-- The longest target, in bytes. -/
def maxSize : Nat := 65534

/-- Blanks, controls and angle brackets have to be encoded everywhere. -/
private def isPlain (c : Char) : Bool :=
  c.toNat > 0x20 && c != '<' && c != '>'

/-- A character that a path may have. -/
def isPathChar (c : Char) : Bool :=
  isPlain c && c != '\x60'

/-- A character that a query may have. -/
def isQueryChar (c : Char) : Bool :=
  isPlain c && c != '"'

/-- Reads a path and a query; an empty path is the root. -/
def readPath? (cs : List Char) : Option Target :=
  let cs := cs.takeWhile (· != '#')
  let (path, query) := cs.span (· != '?')
  let query := query.drop 1
  if path.all isPathChar && query.all isQueryChar then
    some ⟨if path.isEmpty then "/" else .ofList path, .ofList query⟩
  else none

/-- The characters of the address of a server. -/
def isAuthorityChar (c : Char) : Bool :=
  c.isAlphanum || "-._~!$&'()*+,;=:@[]%".toList.contains c

/-- A character of the name of a scheme. -/
def isSchemeChar (c : Char) : Bool :=
  c.isAlphanum || c == '+' || c == '-' || c == '.'

/-- Splits a target behind its scheme. -/
def afterScheme? (cs : List Char) : Option (List Char) :=
  match cs.span isSchemeChar with
  | (_ :: _, ':' :: '/' :: '/' :: rest) => some rest
  | _ => none

/-- The target that a text is, which may be a path or name a host before it. -/
def parse? (s : String) : Option Target :=
  let cs := s.toList
  if maxSize < s.utf8ByteSize then none
  else
    match cs with
    | [] => none
    | ['*'] => some ⟨"*", ""⟩
    | '/' :: _ => readPath? cs
    | _ =>
      match afterScheme? cs with
      | none => if cs.all isAuthorityChar then some ⟨"", ""⟩ else none
      | some rest =>
        let (address, path) := rest.span isAuthorityChar
        if address.isEmpty || !path.head?.all (['/', '?', '#'].contains ·) then none
        else readPath? path

/-- The parts of the path between its slashes. -/
def segments (t : Target) : List String :=
  (Text.split '/' t.path.toList).map .ofList

end Target

/-- The text of a percent-encoded part of a path, if it is well formed. -/
def segmentText? (segment : String) : Option String :=
  Utf8.decode? (Percent.decode (Utf8.encode segment))

/-- The text of a name or a value in a query. -/
def parameterText (cs : List Char) : String :=
  let plain := cs.map fun c => if c = '+' then ' ' else c
  Utf8.decodeLossy (Percent.decode (Utf8.encode (.ofList plain)))

/-- The names of a query with their values, in order. -/
def parameters (query : String) : List (String × String) :=
  ((Text.split '&' query.toList).filter (!·.isEmpty)).map fun part =>
    match Text.splitFirst? '=' part with
    | some (name, value) => (parameterText name, parameterText value)
    | none => (parameterText part, "")

end CustomFields.Http
