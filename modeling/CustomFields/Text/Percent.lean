import CustomFields.Text.Utf8

/-!
# Percent encoding

A percent sign with two hexadecimal digits stands for a byte. A percent sign without them stands
for itself. `decode` inverts `encode`, which writes each byte but letters, digits and the marks
`-._~` in that form.
-/

namespace CustomFields.Percent

/-- The value of a hexadecimal digit. -/
def digitValue? (b : UInt8) : Option UInt8 :=
  if 0x30 ≤ b ∧ b ≤ 0x39 then some (b - 0x30)
  else if 0x41 ≤ b ∧ b ≤ 0x46 then some (b - 0x41 + 10)
  else if 0x61 ≤ b ∧ b ≤ 0x66 then some (b - 0x61 + 10)
  else none

/-- The byte of two hexadecimal digits. -/
def byte? (high low : UInt8) : Option UInt8 := do
  return (← digitValue? high) * 16 + (← digitValue? low)

/-- The bytes that a text stands for. What is no escape stands for itself. -/
def decode : List UInt8 → List UInt8
  | 0x25 :: high :: low :: rest =>
    match byte? high low with
    | some b => b :: decode rest
    | none => 0x25 :: decode (high :: low :: rest)
  | b :: rest => b :: decode rest
  | [] => []

/-- Whether a byte is written as it is. -/
def isUnreserved (b : UInt8) : Bool :=
  (0x30 ≤ b && b ≤ 0x39) || (0x41 ≤ b && b ≤ 0x5A) || (0x61 ≤ b && b ≤ 0x7A) ||
    b == 0x2D || b == 0x2E || b == 0x5F || b == 0x7E

/-- The hexadecimal digit of a number below sixteen. -/
def digit (n : UInt8) : UInt8 :=
  if n < 10 then n + 0x30 else n - 10 + 0x41

/-- A byte, which is escaped unless it may stand for itself. -/
def encodeByte (b : UInt8) : List UInt8 :=
  if isUnreserved b then [b] else [0x25, digit (b / 16), digit (b % 16)]

/-- The bytes of a text, which are escaped where needed. -/
def encode (bytes : List UInt8) : List UInt8 :=
  bytes.flatMap encodeByte

end CustomFields.Percent
