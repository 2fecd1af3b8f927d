import CustomFields.Json.Literal
import CustomFields.Json.Tree
import CustomFields.Text.Digit

/-!
# Reading JSON texts

`readTree` reads the value at the front of a text as a tree, and says what is left of the text
unless it broke off. Every step of the recursion consumes a character or passes from a
container to its first element, so twice the length of the text bounds its depth.
`Value.parse?` asks for a whole text: one value without a break, then only blanks.
-/

namespace CustomFields.Json

/-- The four blank characters of JSON. -/
def isSpace (c : Char) : Bool :=
  c == ' ' || c == '\n' || c == '\t' || c == '\r'

/-- What is left behind the white space. -/
def skipSpace (cs : List Char) : List Char :=
  cs.dropWhile isSpace

/-- The code unit of four hexadecimal digits. -/
def codeUnit? (a b c d : Char) : Option Nat :=
  Digit.number? 16 [a, b, c, d]

/-- The character that a letter stands for behind a backslash. -/
def unescape? : Char → Option Char
  | '"' => some '"'
  | '\\' => some '\\'
  | '/' => some '/'
  | 'b' => some '\x08'
  | 'f' => some '\x0c'
  | 'n' => some '\n'
  | 'r' => some '\r'
  | 't' => some '\t'
  | _ => none

/-- A piece of a quoted string: a character, or a code unit given by its digits. -/
inductive StringPart where
  | char (c : Char)
  | codeUnit (u : Nat)

/-- The pieces of a string behind its opening quote, and what follows its closing one. -/
def readParts : List Char → Option (List StringPart × List Char)
  | [] => none
  | '"' :: rest => some ([], rest)
  | '\\' :: 'u' :: a :: b :: c :: d :: rest =>
    match codeUnit? a b c d with
    | none => none
    | some u => (readParts rest).map fun (ps, r) => (.codeUnit u :: ps, r)
  | '\\' :: c :: rest =>
    match unescape? c with
    | none => none
    | some c' => (readParts rest).map fun (ps, r) => (.char c' :: ps, r)
  | c :: rest =>
    if c = '\\' ∨ c.toNat < 0x20 then none
    else (readParts rest).map fun (ps, r) => (.char c :: ps, r)

/-- The characters of the pieces: a high surrogate goes with the low one behind it, and a
surrogate that stands alone leaves the string without a value. -/
def joinParts : List StringPart → Option (List Char)
  | [] => some []
  | .char c :: ps => (joinParts ps).map (c :: ·)
  | .codeUnit u :: .codeUnit u' :: ps =>
    if 0xD800 ≤ u ∧ u < 0xDC00 then
      if 0xDC00 ≤ u' ∧ u' < 0xE000 then
        (joinParts ps).map (Char.ofNat (0x10000 + (u - 0xD800) * 1024 + (u' - 0xDC00)) :: ·)
      else none
    else if 0xDC00 ≤ u ∧ u < 0xE000 then none
    else (joinParts (.codeUnit u' :: ps)).map (Char.ofNat u :: ·)
  | .codeUnit u :: ps =>
    if 0xD800 ≤ u ∧ u < 0xE000 then none else (joinParts ps).map (Char.ofNat u :: ·)

/-- Reads a string behind its opening quote; its end may be known though it has no value. -/
def readString (cs : List Char) : Option (Option String × List Char) :=
  (readParts cs).map fun (ps, rest) => ((joinParts ps).map String.ofList, rest)

/-- Reads a given word. -/
def readWord (word : List Char) (cs : List Char) : Option (List Char) :=
  if word.isPrefixOf cs then some (cs.drop word.length) else none

/-- The tree of a word, if the word could be read. -/
def leaf (t : Tree) : Option (List Char) → Tree × Option (List Char)
  | none => (.broken, none)
  | some rest => (t, some rest)

mutual

/-- Reads a value, blanks in front of it included. -/
def readValue : Nat → List Char → Tree × Option (List Char)
  | 0, _ => (.broken, none)
  | fuel + 1, cs =>
    match skipSpace cs with
    | [] => (.broken, none)
    | 'n' :: rest => leaf .null (readWord ['u', 'l', 'l'] rest)
    | 't' :: rest => leaf (.bool true) (readWord ['r', 'u', 'e'] rest)
    | 'f' :: rest => leaf (.bool false) (readWord ['a', 'l', 's', 'e'] rest)
    | '"' :: rest =>
      match readString rest with
      | none => (.broken, none)
      | some (s, rest) => (s.elim .unreadable .string, some rest)
    | '[' :: rest =>
      match skipSpace rest with
      | ']' :: rest => (.array [] true, some rest)
      | rest =>
        let (items, rest) := readItems fuel rest
        (.array items rest.isSome, rest)
    | '{' :: rest =>
      match skipSpace rest with
      | '}' :: rest => (.object [] true, some rest)
      | rest =>
        let (members, rest) := readMembers fuel rest
        (.object members rest.isSome, rest)
    | cs =>
      match NumberLiteral.read cs with
      | none => (.broken, none)
      | some (l, rest) => (l.number?.elim .unreadable .number, some rest)

/-- Reads the items of an array from an item on, and its bracket. -/
def readItems : Nat → List Char → List Tree × Option (List Char)
  | 0, _ => ([], none)
  | fuel + 1, cs =>
    match readValue fuel cs with
    | (t, none) => ([t], none)
    | (t, some rest) =>
      match skipSpace rest with
      | ']' :: rest => ([t], some rest)
      | ',' :: rest =>
        let (ts, rest) := readItems fuel rest
        (t :: ts, rest)
      | _ => ([t], none)

/-- Reads the members of an object from a member on, and its brace. -/
def readMembers : Nat → List Char → List (Option String × Tree) × Option (List Char)
  | 0, _ => ([], none)
  | fuel + 1, cs =>
    match skipSpace cs with
    | '"' :: rest =>
      match readString rest with
      | none => ([], none)
      | some (key, rest) =>
        match skipSpace rest with
        | ':' :: rest =>
          match readValue fuel rest with
          | (t, none) => ([(key, t)], none)
          | (t, some rest) =>
            match skipSpace rest with
            | '}' :: rest => ([(key, t)], some rest)
            | ',' :: rest =>
              let (ms, rest) := readMembers fuel rest
              ((key, t) :: ms, rest)
            | _ => ([(key, t)], none)
        | _ => ([(key, .broken)], none)
    | _ => ([], none)

end

/-- The tree of the value at the front of a text, and what follows it. Containers that nest too
deep are unreadable. -/
def readTree (cs : List Char) : Tree × Option (List Char) :=
  let (t, rest) := readValue (2 * cs.length + 2) cs
  (t.cut Tree.maxNesting, rest)

/-- The value of a text that holds nothing else. -/
def Value.parse? (text : String) : Option Value :=
  match readTree text.toList with
  | (_, none) => none
  | (t, some rest) => if (skipSpace rest).isEmpty then t.toValue? else none

end CustomFields.Json
