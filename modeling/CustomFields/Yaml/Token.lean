/-!
# Tokens of YAML texts

The marks and the scalars of a text, in order, with marks for what indentation opens and closes.
Here is also which characters are line breaks and blanks; five characters end a line.
-/

namespace CustomFields.Yaml

/-- The tokens of a document. -/
inductive Token where
  | versionDirective (major minor : Nat)
  /-- A handle for tags, and what it stands for. -/
  | tagDirective (handle : String) (meaning : String)
  | documentStart
  | documentEnd
  | streamEnd
  | blockSequenceStart
  | blockMappingStart
  | blockEnd
  | flowSequenceStart
  | flowSequenceEnd
  | flowMappingStart
  | flowMappingEnd
  /-- The dash in front of an item. -/
  | blockEntry
  /-- The comma between items. -/
  | flowEntry
  | key
  | value
  | alias (name : String)
  | anchor (name : String)
  | tag (handle suffix : String)
  /-- A plain scalar has no quotes and is not a block of lines. -/
  | scalar (text : String) (isPlain : Bool)
deriving DecidableEq, Repr

/-! ## Characters -/

/-- A character that ends a line. -/
def isBreak (c : Char) : Bool :=
  c == '\n' || c == '\r' || c == '\u0085' || c == '\u2028' || c == '\u2029'

/-- A blank within a line. -/
def isBlank (c : Char) : Bool :=
  c == ' ' || c == '\t'

/-- Whether a text ends, or goes on with a blank or a line break. -/
def endsWord : List Char → Bool
  | [] => true
  | c :: _ => isBlank c || isBreak c

/-- A character of names and handles. -/
def isWordChar (c : Char) : Bool :=
  c.isAlphanum || c == '-' || c == '_'

/-- Whether a character may stand in a text. -/
def isAllowed (c : Char) : Bool :=
  let n := c.toNat
  c == '\t' || c == '\n' || c == '\r' || (0x20 ≤ n && n ≤ 0x7E) || n == 0x85 ||
    (0xA0 ≤ n && n != 0xFFFE && n != 0xFFFF)

/-- Whether a text begins with a mark between documents, at the start of a line. -/
def isDocumentMark (mark : Char) : List Char → Bool
  | a :: b :: c :: rest => a == mark && b == mark && c == mark && endsWord rest
  | _ => false

/-! ## Places -/

/-- What is left of a text, and where it begins. -/
structure Cursor where
  rest : List Char
  index : Nat
  line : Nat
  column : Nat

namespace Cursor

/-- The start of a text. -/
def start (cs : List Char) : Cursor :=
  ⟨cs, 0, 0, 0⟩

/-- Passes characters that are not line breaks. -/
def skip (n : Nat) (c : Cursor) : Cursor :=
  { c with rest := c.rest.drop n, index := c.index + n, column := c.column + n }

/-- Passes a line break if there is one, and returns the character that it counts as. A carriage
return with a line feed behind it is one break. -/
def skipBreak (c : Cursor) : Option (Char × Cursor) :=
  let past (length : Nat) (b : Char) : Option (Char × Cursor) :=
    some (b, ⟨c.rest.drop length, c.index + length, c.line + 1, 0⟩)
  match c.rest with
  | '\r' :: '\n' :: _ => past 2 '\n'
  | b :: _ =>
    if b == '\u2028' || b == '\u2029' then past 1 b
    else if isBreak b then past 1 '\n'
    else none
  | [] => none

/-- Passes the longest row of characters with a property, none of which is a line break. -/
def skipWhile (p : Char → Bool) (c : Cursor) : Cursor :=
  c.skip (c.rest.takeWhile p).length

/-- Passes a line up to its break. -/
def skipLine (c : Cursor) : Cursor :=
  c.skipWhile (!isBreak ·)

/-- Whether a mark between documents stands here. -/
def isAtDocumentMark (c : Cursor) : Bool :=
  c.column == 0 && (isDocumentMark '-' c.rest || isDocumentMark '.' c.rest)

end Cursor

end CustomFields.Yaml
