import CustomFields.Unicode.Property

/-!
# Quoted text for messages

A text in double quotes in which every character can be seen: quotes, backslashes and the usual
control characters have an escape of two characters, and what cannot be printed, or would join
the character before it, is written by its code.
-/

namespace CustomFields.Text

/-- What cannot be seen on its own: controls, blanks but the plain one, what is not assigned to a
character, and what extends the character before it. -/
def invisibleCharacters : CodePoints :=
  let printable := CodePoints.ofRanges <|
    (Unicode.Category.all.filter fun c =>
      !(c.shortName.startsWith "C" || c.shortName.startsWith "Z")).flatMap (·.codePoints.ranges)
  (printable.union (.single ' ')).complement.union Unicode.Property.graphemeExtend.codePoints

/-- A number in hexadecimal digits. -/
private def hexText (n : Nat) : List Char :=
  Nat.toDigits 16 n

/-- A character between quotes. -/
def escapeVisibly (invisible : CodePoints) (c : Char) : List Char :=
  match c with
  | '"' => ['\\', '"']
  | '\\' => ['\\', '\\']
  | '\x00' => ['\\', '0']
  | '\t' => ['\\', 't']
  | '\n' => ['\\', 'n']
  | '\r' => ['\\', 'r']
  | _ =>
    if 0x20 ≤ c.toNat ∧ c.toNat < 0x7F then [c]
    else if invisible.contains c then ['\\', 'u', '\x7B'] ++ hexText c.toNat ++ ['\x7D']
    else [c]

/-- The quoted form of a text. -/
def quote (s : String) : String :=
  let cs := s.toList
  let invisible :=
    if cs.all fun c => 0x20 ≤ c.toNat && c.toNat < 0x7F then CodePoints.empty
    else invisibleCharacters
  String.ofList ('"' :: cs.flatMap (escapeVisibly invisible) ++ ['"'])

end CustomFields.Text
