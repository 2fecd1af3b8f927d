import CustomFields.Decimal.Notation
import CustomFields.Text.Digit
import CustomFields.Yaml.Value

/-!
# Writing YAML texts

Members and items stand on lines of their own, members of an object two blanks deeper than what
holds it and items of an array no deeper. A text is written plainly if it reads back as that text,
else between quotes, and with a line break in it as a block of lines. What cannot stand for itself
is escaped between double quotes.
-/

namespace CustomFields.Yaml

/-! ## What a text allows -/

/-- Whether a character may stand for itself. -/
def isPrintable (c : Char) : Bool :=
  let n := c.toNat
  n == 0x0A || (0x20 ≤ n && n ≤ 0x7E) || (0xA0 ≤ n && n != 0xFEFF && n != 0xFFFE && n != 0xFFFF)

/-- Whether two characters with given properties stand next to each other. -/
def hasPair (p q : Char → Bool) : List Char → Bool
  | a :: b :: rest => (p a && q b) || hasPair p q (b :: rest)
  | _ => false

/-- Whether a mark in the text behind a character could be taken for syntax. -/
def hasInnerMark : (before : Char) → List Char → Bool
  | _, [] => false
  | before, c :: rest =>
    (c == ':' && endsWord rest) || (c == '#' && endsWord [before]) || hasInnerMark c rest

/-- Whether a plain text could be taken for syntax. -/
def hasMark : List Char → Bool
  | [] => false
  | c :: rest =>
    ['-', '-', '-'].isPrefixOf (c :: rest) || ['.', '.', '.'].isPrefixOf (c :: rest) ||
      "#,[]\x7b\x7d&*!|>'\"%@\x60".contains c ||
      ((c == '?' || c == ':' || c == '-') && endsWord rest) || hasInnerMark c rest

/-- Whether a text keeps its blanks and breaks only if they are escaped. -/
def needsEscapes (cs : List Char) : Bool :=
  hasPair (· == ' ') isBreak cs || !cs.all isPrintable

/-- White space that a plain text may not start or end with. -/
def isSpaceOrBreak (c : Char) : Bool := c == ' ' || isBreak c

/-- Whether a text may be written plainly. -/
def allowsPlain (cs : List Char) : Bool :=
  !cs.head?.any isSpaceOrBreak && !cs.getLast?.any isSpaceOrBreak && !cs.any isBreak &&
    !needsEscapes cs && !hasMark cs

/-- Whether a text may be written between single quotes. -/
def allowsSingleQuotes (cs : List Char) : Bool :=
  !hasPair isBreak (· == ' ') cs && !needsEscapes cs

/-- Whether a text may be written as a block. -/
def allowsBlock (cs : List Char) : Bool :=
  cs.getLast? != some ' ' && !needsEscapes cs

/-- Words that some readers take for truth values. -/
def truthWords : List String :=
  ["y", "Y", "yes", "Yes", "YES", "n", "N", "no", "No", "NO", "on", "On", "ON", "off", "Off", "OFF"]

/-- Whether a plain text would read back as something else, or look as if it did. -/
def looksTyped (s : String) : Bool :=
  if s ∈ truthWords || isZeroPadded s.toList then true
  else
    match plainValue? s with
    | some (.string _) => false
    | _ => true

/-! ## Styles -/

/-- A number in so many upper-case hexadecimal digits. -/
private def upperHexadecimal (width n : Nat) : List Char :=
  (Digit.hexadecimal width n).map Char.toUpper

/-- A character between double quotes. -/
def escapeChar (c : Char) : List Char :=
  let n := c.toNat
  if isPrintable c && !isBreak c && c != '"' && c != '\\' then [c]
  else
    '\\' :: match n with
      | 0x00 => ['0']
      | 0x07 => ['a']
      | 0x08 => ['b']
      | 0x09 => ['t']
      | 0x0A => ['n']
      | 0x0B => ['v']
      | 0x0C => ['f']
      | 0x0D => ['r']
      | 0x1B => ['e']
      | 0x22 => ['"']
      | 0x5C => ['\\']
      | 0x85 => ['N']
      | 0xA0 => ['_']
      | 0x2028 => ['L']
      | 0x2029 => ['P']
      | _ =>
        if n ≤ 0xFF then 'x' :: upperHexadecimal 2 n
        else if n ≤ 0xFFFF then 'u' :: upperHexadecimal 4 n
        else 'U' :: upperHexadecimal 8 n

/-- A text in double quotes, in which every character can be written. -/
def doubleQuoted (cs : List Char) : List Char :=
  '"' :: cs.flatMap escapeChar ++ ['"']

/-- The blanks in front of a line. -/
private def indentation (indent : Nat) : List Char := List.replicate indent ' '

/-- The characters between single quotes. Lines behind a break are indented. -/
def singleQuotedChars (indent : Nat) : (isAtStart : Bool) → List Char → List Char
  | isAtStart, [] => if isAtStart then indentation indent else []
  | isAtStart, c :: rest =>
    if isBreak c then c :: singleQuotedChars indent true rest
    else
      (if isAtStart then indentation indent else []) ++ (if c == '\'' then ['\'', '\''] else [c]) ++
        singleQuotedChars indent false rest

/-- A text in single quotes. -/
def singleQuoted (indent : Nat) (cs : List Char) : List Char :=
  '\'' :: singleQuotedChars indent false cs ++ ['\'']

/-- The lines of a block. -/
def blockChars (indent : Nat) : (isAtStart : Bool) → List Char → List Char
  | _, [] => []
  | isAtStart, c :: rest =>
    if isBreak c then c :: blockChars indent true rest
    else (if isAtStart then indentation indent else []) ++ c :: blockChars indent false rest

/-- The marks of a block: whether its first line hides its indentation, and how it ends. -/
def blockMarks (cs : List Char) : List Char :=
  let depth := if cs.head?.any isSpaceOrBreak then ['2'] else []
  let ending := match cs.reverse with
    | [] => ['-']
    | last :: before =>
      if !isBreak last then ['-']
      else if before.head?.all isBreak then ['+']
      else []
  depth ++ ending

/-- A text of several lines, as a literal block. -/
def block (indent : Nat) (cs : List Char) : List Char :=
  '|' :: blockMarks cs ++ '\n' :: blockChars indent true cs

/-- A text under an indentation. -/
def textChars (indent : Nat) (s : String) : List Char :=
  let cs := s.toList
  if cs.contains '\n' then
    if allowsBlock cs then block indent cs else doubleQuoted cs
  else if !looksTyped s && allowsPlain cs then cs
  else if allowsSingleQuotes cs then singleQuoted indent cs
  else doubleQuoted cs

/-! ## Documents -/

/-- A number as it is printed. -/
def numberChars : Json.Number → List Char
  | .integer n => (if n < 0 then ['-'] else []) ++ Nat.toDigits 10 n.natAbs
  | .float x => (Decimal.compact x).toList

/-- Ends a line that has not ended yet. -/
def endLine (cs : List Char) : List Char :=
  if cs.getLast? = some '\n' then cs else cs ++ ['\n']

/-- The lines of a value under an indentation, of which the first one has been indented. A value
that is a member has what stands behind its colon, and begins a line of its own where it has
lines of its own. -/
def lines (isMember : Bool) (indent : Nat) : Json.Value → List Char
  | .null => endLine (gap ++ ['n', 'u', 'l', 'l'])
  | .bool true => endLine (gap ++ ['t', 'r', 'u', 'e'])
  | .bool false => endLine (gap ++ ['f', 'a', 'l', 's', 'e'])
  | .number n => endLine (gap ++ numberChars n)
  | .string s => endLine (gap ++ textChars (if isMember then indent + 2 else indent) s)
  | .array [] => endLine (gap ++ ['[', ']'])
  | .object [] => endLine (gap ++ ['{', '}'])
  | .array (v :: vs) =>
    (if isMember then '\n' :: indentation indent else []) ++ '-' :: ' ' ::
      lines false (indent + 2) v ++ itemLines indent vs
  | .object ((k, v) :: ms) =>
    if isMember then
      '\n' :: indentation (indent + 2) ++ textChars (indent + 4) k ++ ':' ::
        lines true (indent + 2) v ++ memberLines (indent + 2) ms
    else
      textChars (indent + 2) k ++ ':' :: lines true indent v ++ memberLines indent ms
where
  gap : List Char := if isMember then [' '] else []
  itemLines (indent : Nat) : List Json.Value → List Char
    | [] => []
    | v :: vs =>
      indentation indent ++ '-' :: ' ' :: lines false (indent + 2) v ++ itemLines indent vs
  memberLines (indent : Nat) : List (String × Json.Value) → List Char
    | [] => []
    | (k, v) :: ms =>
      indentation indent ++ textChars (indent + 2) k ++ ':' :: lines true indent v ++
        memberLines indent ms

/-- The text of a value. -/
def print (v : Json.Value) : String :=
  String.ofList <| match v with
    | .array _ | .object _ => lines false 0 v
    | _ => lines false 2 v

end CustomFields.Yaml
