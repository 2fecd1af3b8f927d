import CustomFields.Json.Value
import CustomFields.Decimal.Notation

/-!
# Writing JSON texts

Two layouts of the same tokens: `compact` has no blanks and `pretty` puts each member and item
on a line of its own, two blanks deeper than what encloses it. In a string, quotes, backslashes
and control characters are escaped and all else stands for itself.
-/

namespace CustomFields.Json

/-- The digit of a number below sixteen, in lower case. -/
def hexDigit (n : Nat) : Char := Nat.digitChar n

/-- A character inside a quoted string. -/
def escapeChar (c : Char) : List Char :=
  if c = '"' then ['\\', '"']
  else if c = '\\' then ['\\', '\\']
  else if c = '\x08' then ['\\', 'b']
  else if c = '\x0c' then ['\\', 'f']
  else if c = '\n' then ['\\', 'n']
  else if c = '\r' then ['\\', 'r']
  else if c = '\t' then ['\\', 't']
  else if c.toNat < 0x20 then
    ['\\', 'u', '0', '0', hexDigit (c.toNat / 16), hexDigit (c.toNat % 16)]
  else [c]

/-- A quoted string. -/
def quoted (s : String) : List Char :=
  '"' :: s.toList.flatMap escapeChar ++ ['"']

/-- A number as it is printed. -/
def Number.chars : Number → List Char
  | .integer n => (if n < 0 then ['-'] else []) ++ Nat.toDigits 10 n.natAbs
  | .float x => (Decimal.compact x).toList

namespace Value

/-- The text of a value without blanks. -/
def chars : Value → List Char
  | .null => ['n', 'u', 'l', 'l']
  | .bool true => ['t', 'r', 'u', 'e']
  | .bool false => ['f', 'a', 'l', 's', 'e']
  | .number n => n.chars
  | .string s => quoted s
  | .array [] => ['[', ']']
  | .array (v :: vs) => '[' :: v.chars ++ itemChars vs
  | .object [] => ['{', '}']
  | .object ((k, v) :: ms) => '{' :: quoted k ++ ':' :: v.chars ++ memberChars ms
where
  /-- What follows an item of an array. -/
  itemChars : List Value → List Char
    | [] => [']']
    | v :: vs => ',' :: v.chars ++ itemChars vs
  /-- What follows a member of an object. -/
  memberChars : List (String × Value) → List Char
    | [] => ['}']
    | (k, v) :: ms => ',' :: quoted k ++ ':' :: v.chars ++ memberChars ms

/-- A value on one line, without blanks. -/
def compact (v : Value) : String :=
  String.ofList v.chars

/-- The end of a line, and the indentation of the next one. -/
private def newLine (depth : Nat) : List Char :=
  '\n' :: List.replicate (2 * depth) ' '

/-- The text of a value with one member or item a line, at a depth. -/
def prettyChars : Nat → Value → List Char
  | d, .array (v :: vs) => '[' :: newLine (d + 1) ++ prettyChars (d + 1) v ++ itemChars d vs
  | d, .object ((k, v) :: ms) =>
    '{' :: newLine (d + 1) ++ quoted k ++ ':' :: ' ' :: prettyChars (d + 1) v ++ memberChars d ms
  | _, v => v.chars
where
  itemChars (d : Nat) : List Value → List Char
    | [] => newLine d ++ [']']
    | v :: vs => ',' :: newLine (d + 1) ++ prettyChars (d + 1) v ++ itemChars d vs
  memberChars (d : Nat) : List (String × Value) → List Char
    | [] => newLine d ++ ['}']
    | (k, v) :: ms =>
      ',' :: newLine (d + 1) ++ quoted k ++ ':' :: ' ' :: prettyChars (d + 1) v ++ memberChars d ms

/-- A value on several lines. -/
def pretty (v : Value) : String :=
  String.ofList (prettyChars 0 v)

end Value

end CustomFields.Json
