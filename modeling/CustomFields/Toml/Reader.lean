import CustomFields.Decimal.Numeral
import CustomFields.Text.Digit
import CustomFields.Toml.Moment
import CustomFields.Toml.Table

/-!
# Reading TOML documents

A document is a row of lines: a header, a key with a value, or neither, each with a comment or
without. Every reader takes the characters from its place on and returns what follows. Dates and
times become objects with one key, and numbers that JSON does not have become null.
-/

namespace CustomFields.Toml

/-! ## Blanks, lines and comments -/

/-- A blank within a line; a line break is none. -/
def isBlank (c : Char) : Bool :=
  c == ' ' || c == '\t'

/-- What is left behind the blanks. -/
def skipBlanks (cs : List Char) : List Char :=
  cs.dropWhile isBlank

/-- A character that may stand in a comment or a string, a line end apart. -/
def isText (c : Char) : Bool :=
  c == '\t' || (0x20 ≤ c.toNat && c.toNat != 0x7F)

/-- Reads a line end. -/
def newline? : List Char → Option (List Char)
  | '\n' :: rest => some rest
  | '\r' :: '\n' :: rest => some rest
  | _ => none

/-- Skips a comment up to the end of its line. -/
def skipComment : List Char → List Char
  | '#' :: rest => rest.dropWhile isText
  | cs => cs

/-- Reads what may follow on a line: blanks, a comment, and the end of the line or of all. -/
def endLine? (cs : List Char) : Option (List Char) :=
  match skipComment (skipBlanks cs) with
  | [] => some []
  | cs => newline? cs

/-- Skips blanks, comments and line ends. -/
def skipLines : Nat → List Char → List Char
  | 0, cs => cs
  | fuel + 1, cs =>
    let cs := skipComment (skipBlanks cs)
    match newline? cs with
    | some rest => skipLines fuel rest
    | none => cs

/-- Skips blanks and line ends. -/
def skipEmptyLines : Nat → List Char → List Char
  | 0, cs => cs
  | fuel + 1, cs =>
    match newline? (skipBlanks cs) with
    | some rest => skipEmptyLines fuel rest
    | none => skipBlanks cs

/-! ## Strings -/

/-- Reads a character given by a number of hexadecimal digits. -/
def readCodePoint? (width : Nat) (cs : List Char) : Option (Char × List Char) := do
  if cs.length < width then none
  let n ← Digit.number? 16 (cs.take width)
  if n.isValidChar then some (Char.ofNat n, cs.drop width) else none

/-- Reads an escape behind its backslash. -/
def readEscape? : List Char → Option (Char × List Char)
  | 'b' :: rest => some ('\x08', rest)
  | 't' :: rest => some ('\t', rest)
  | 'n' :: rest => some ('\n', rest)
  | 'f' :: rest => some ('\x0c', rest)
  | 'r' :: rest => some ('\r', rest)
  | '"' :: rest => some ('"', rest)
  | '\\' :: rest => some ('\\', rest)
  | 'u' :: rest => readCodePoint? 4 rest
  | 'U' :: rest => readCodePoint? 8 rest
  | _ => none

/-- A character put in front of a text that has been read. -/
private def consText (c : Char) : Option (List Char × List Char) → Option (List Char × List Char) :=
  Option.map fun (text, rest) => (c :: text, rest)

/-- Reads a string of one line behind its quote. -/
def readBasic : Nat → List Char → Option (List Char × List Char)
  | 0, _ => none
  | _ + 1, [] => none
  | _ + 1, '"' :: rest => some ([], rest)
  | fuel + 1, '\\' :: rest => do
    let (c, rest) ← readEscape? rest
    consText c (readBasic fuel rest)
  | fuel + 1, c :: rest => if isText c then consText c (readBasic fuel rest) else none

/-- Reads a string of several lines behind its three quotes. A backslash at the end of a line
takes the blanks and line ends behind it away, and up to two quotes may stand before the three
that end the string. -/
def readLines : Nat → List Char → Option (List Char × List Char)
  | 0, _ => none
  | _ + 1, '"' :: '"' :: '"' :: rest =>
    match rest with
    | '"' :: '"' :: rest => some (['"', '"'], rest)
    | '"' :: rest => some (['"'], rest)
    | rest => some ([], rest)
  | fuel + 1, '\\' :: rest =>
    match newline? (skipBlanks rest) with
    | some rest => readLines fuel (skipEmptyLines fuel rest)
    | none => do
      let (c, rest) ← readEscape? rest
      consText c (readLines fuel rest)
  | fuel + 1, cs =>
    match newline? cs, cs with
    | some rest, _ => consText '\n' (readLines fuel rest)
    | none, c :: rest => if isText c then consText c (readLines fuel rest) else none
    | none, [] => none

/-- Reads a literal string of several lines behind its three quotes. -/
def readLiteralLines : Nat → List Char → Option (List Char × List Char)
  | 0, _ => none
  | _ + 1, '\'' :: '\'' :: '\'' :: rest =>
    match rest with
    | '\'' :: '\'' :: rest => some (['\'', '\''], rest)
    | '\'' :: rest => some (['\''], rest)
    | rest => some ([], rest)
  | fuel + 1, cs =>
    match newline? cs, cs with
    | some rest, _ => consText '\n' (readLiteralLines fuel rest)
    | none, c :: rest => if isText c then consText c (readLiteralLines fuel rest) else none
    | none, [] => none

/-- Reads a literal string of one line behind its quote. -/
def readLiteral (cs : List Char) : Option (List Char × List Char) :=
  match cs.span fun c => isText c && c != '\'' with
  | (text, '\'' :: rest) => some (text, rest)
  | _ => none

/-- A line end right behind the quotes that open a string is not part of it. -/
private def skipFirstLineEnd (cs : List Char) : List Char :=
  (newline? cs).getD cs

/-- Reads a string of any of the four kinds. -/
def readString (cs : List Char) : Option (String × List Char) :=
  let read? := match cs with
    | '"' :: '"' :: '"' :: rest => readLines (rest.length + 1) (skipFirstLineEnd rest)
    | '"' :: rest => readBasic (rest.length + 1) rest
    | '\'' :: '\'' :: '\'' :: rest => readLiteralLines (rest.length + 1) (skipFirstLineEnd rest)
    | '\'' :: rest => readLiteral rest
    | _ => none
  read?.map fun (text, rest) => (.ofList text, rest)

/-! ## Keys -/

/-- A character of a key that needs no quotes. -/
def isKeyChar (c : Char) : Bool :=
  c.isAlphanum || c == '-' || c == '_'

/-- Reads one part of a key. -/
def readKeyPart (cs : List Char) : Option (String × List Char) :=
  match cs with
  | '"' :: rest => (readBasic (rest.length + 1) rest).map fun (text, rest) => (.ofList text, rest)
  | '\'' :: rest => (readLiteral rest).map fun (text, rest) => (.ofList text, rest)
  | _ =>
    let (name, rest) := cs.span isKeyChar
    if name.isEmpty then none else some (.ofList name, rest)

/-- Reads the parts of a key, and the blanks around them. -/
def readKeyParts : Nat → List Char → Option (List String × List Char)
  | 0, _ => none
  | fuel + 1, cs => do
    let (part, rest) ← readKeyPart (skipBlanks cs)
    match skipBlanks rest with
    | '.' :: rest =>
      let (parts, rest) ← readKeyParts fuel rest
      return (part :: parts, rest)
    | rest => return ([part], rest)

/-- How deep keys and values may nest. -/
def maxNesting : Nat := 79

/-- Reads a key. -/
def readPath (cs : List Char) : Option (Path × List Char) := do
  let (parts, rest) ← readKeyParts (maxNesting + 1) cs
  if maxNesting < parts.length then none
  let key ← parts.getLast?
  return (⟨parts.dropLast, key⟩, rest)

/-! ## Numbers and times -/

/-- Whether single underscores stand between digits only. -/
def areDigits (isDigit : Char → Bool) (cs : List Char) : Bool :=
  cs.head?.any isDigit && go cs
where
  go : List Char → Bool
    | '_' :: c :: rest => isDigit c && go (c :: rest)
    | c :: rest => isDigit c && go rest
    | [] => true

/-- Digits may be grouped by underscores, which mean nothing. -/
private def withoutUnderscores (cs : List Char) : List Char :=
  cs.filter (· != '_')

/-- Digits that have no zero in front, unless there is only one. -/
def areWholeDigits (cs : List Char) : Bool :=
  areDigits Char.isDigit cs && (cs.head? != some '0' || cs.length = 1)

/-- The number of digits that may have underscores between them, unless it is out of range. -/
private def integerOf? (negative : Bool) (radix : Nat) (cs : List Char) : Option Json.Value := do
  let n ← Digit.number? radix (withoutUnderscores cs)
  let i : Int := if negative then -n else n
  (Json.Number.integer i).toInt64?.map .int

/-- The integer of a token. -/
def integer? : List Char → Option Json.Value
  | '0' :: 'x' :: ds =>
    if areDigits (fun c => c.isDigit || ('a' ≤ c.toLower && c.toLower ≤ 'f')) ds then
      integerOf? false 16 ds
    else none
  | '0' :: 'o' :: ds =>
    if areDigits (fun c => '0' ≤ c && c ≤ '7') ds then integerOf? false 8 ds else none
  | '0' :: 'b' :: ds =>
    if areDigits (fun c => c == '0' || c == '1') ds then integerOf? false 2 ds else none
  | cs =>
    let (negative, ds) := Decimal.splitSign cs
    if areWholeDigits ds then integerOf? negative 10 ds else none

/-- The fractional number of a token. -/
def float? (cs : List Char) : Option Json.Value :=
  let (negative, ds) := Decimal.splitSign cs
  if ds = ['i', 'n', 'f'] ∨ ds = ['n', 'a', 'n'] then some .null
  else
    let (whole, rest) := ds.span fun (c : Char) => c.isDigit || c == '_'
    let (fraction, rest) := match rest with
      | '.' :: rest =>
        let (ds, rest) := rest.span fun (c : Char) => c.isDigit || c == '_'
        (some ds, rest)
      | rest => (none, rest)
    let exponent := match rest with
      | [] => none
      | _ :: rest => some (Decimal.splitSign rest).2
    if areWholeDigits whole && fraction.all (areDigits Char.isDigit) &&
        exponent.all (areDigits Char.isDigit) && (fraction.isSome || exponent.isSome) then
      match Decimal.digitsNumber? negative (withoutUnderscores ds) with
      | none => none
      | some x =>
        if x.isFinite then some (.number (.float x)) else if negative then some .null else none
    else none

/-- The key of the object that a date or a time becomes. -/
def momentKey : String := "$__toml_private_datetime"

/-- A character of a value without quotes or brackets: of a number, a date or a name. -/
private def isTokenChar (c : Char) : Bool :=
  isKeyChar c || c == '+' || c == '.' || c == ':'

/-- Splits off a number, a word, or a date or time, which may have a blank between its parts. -/
def splitToken (cs : List Char) : List Char × List Char :=
  let (token, rest) := cs.span isTokenChar
  match Moment.readDate? token, rest with
  | some (_, []), ' ' :: d :: _ =>
    if d.isDigit then
      let (time, rest) := (rest.drop 1).span isTokenChar
      (token ++ ' ' :: time, rest)
    else (token, rest)
  | _, _ => (token, rest)

/-- The value of a token. -/
def tokenValue? (token : List Char) : Option Json.Value :=
  if token = ['t', 'r', 'u', 'e'] then some (.bool true)
  else if token = ['f', 'a', 'l', 's', 'e'] then some (.bool false)
  else
    match Moment.parse? token with
    | some text => some (.object [(momentKey, .string text)])
    | none => (float? token).or (integer? token)

/-! ## Values -/

/-- Reads a value at the start of some characters, and leaves the rest. -/
abbrev Reader (α : Type) := List Char → Option (α × List Char)

/-- Reads a key with its value. -/
def readBinding (readValue : Reader Json.Value) : Reader (Path × Json.Value) := fun cs => do
  let (path, rest) ← readPath cs
  let '=' :: rest := rest | none
  let (v, rest) ← readValue (skipBlanks rest)
  return ((path, v), rest)

/-- Reads the items of an array behind its bracket or a comma. -/
def readItems (readValue : Reader Json.Value) : Nat → Reader (List Json.Value)
  | 0, _ => none
  | fuel + 1, cs =>
    match skipLines (cs.length + 1) cs with
    | ']' :: rest => some ([], rest)
    | cs => do
      let (v, rest) ← readValue cs
      match skipLines (rest.length + 1) rest with
      | ']' :: rest => return ([v], rest)
      | ',' :: rest =>
        let (vs, rest) ← readItems readValue fuel rest
        return (v :: vs, rest)
      | _ => none

/-- Reads the bindings of a table on one line, from a binding on. -/
def readBindings (readValue : Reader Json.Value) : Nat → Reader (List (Path × Json.Value))
  | 0, _ => none
  | fuel + 1, cs => do
    let (b, rest) ← readBinding readValue cs
    match skipBlanks rest with
    | '}' :: rest => return ([b], rest)
    | ',' :: rest =>
      let (bs, rest) ← readBindings readValue fuel rest
      return (b :: bs, rest)
    | _ => none

/-- Reads a value with at most `levels` arrays and tables inside one another. -/
def readValue : Nat → Reader Json.Value
  | levels, cs =>
    match cs with
    | '"' :: _ | '\'' :: _ => (readString cs).map fun (s, rest) => (.string s, rest)
    | '[' :: rest =>
      match levels with
      | 0 => none
      | levels + 1 => (readItems (readValue levels) (rest.length + 1) rest).map fun (vs, rest) =>
        (.array vs, rest)
    | '{' :: rest =>
      match levels, skipBlanks rest with
      | 0, _ => none
      | _ + 1, '}' :: rest => some (.object [], rest)
      | levels + 1, cs => do
        let (bindings, rest) ← readBindings (readValue levels) (cs.length + 1) cs
        let entries ← bindings.foldlM setKey []
        return ((Item.table .header entries).toJson, rest)
    | _ =>
      let (token, rest) := splitToken cs
      (tokenValue? token).map (·, rest)

/-! ## Documents -/

/-- What a line says. -/
inductive Line where
  | blank
  | binding (b : Path × Json.Value)
  | header (path : Path) (isRow : Bool)

/-- Reads a line up to its end. -/
def readLine (cs : List Char) : Option (Line × List Char) :=
  match skipBlanks cs with
  | '[' :: '[' :: rest => do
    let (path, rest) ← readPath rest
    let ']' :: ']' :: rest := rest | none
    return (.header path true, ← endLine? rest)
  | '[' :: rest => do
    let (path, rest) ← readPath rest
    let ']' :: rest := rest | none
    return (.header path false, ← endLine? rest)
  | cs =>
    match endLine? cs with
    | some rest => some (.blank, rest)
    | none => do
      let (b, rest) ← readBinding (readValue maxNesting) cs
      return (.binding b, ← endLine? rest)

/-- Reads all lines of a text. -/
def readAll : Nat → List Char → Option (List Line)
  | _, [] => some []
  | 0, _ => none
  | fuel + 1, cs => do
    let (line, rest) ← readLine cs
    return line :: (← readAll fuel rest)

/-- The bindings in front of all headers, and the sections. -/
def sections : List Line → List (Path × Json.Value) × List Section
  | [] => ([], [])
  | line :: lines =>
    let (bindings, rest) := sections lines
    match line with
    | .blank => (bindings, rest)
    | .binding b => (b :: bindings, rest)
    | .header path isRow => ([], ⟨path, isRow, bindings⟩ :: rest)

/-- The content of a document. -/
def parse? (text : String) : Option Json.Value := do
  let cs := match text.toList with
    | '\uFEFF' :: rest => rest
    | cs => cs
  let (bindings, rest) := sections (← readAll (cs.length + 1) cs)
  return (Item.table .header (← build bindings rest)).toJson

end CustomFields.Toml
