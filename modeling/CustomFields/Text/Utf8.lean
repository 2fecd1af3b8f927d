/-!
# Text as bytes

Texts travel as bytes in UTF-8. `decode?` takes bytes that are well formed and inverts `encode`;
`decodeLossy` takes any bytes and puts a replacement character where a sequence is ill formed:
one for each byte that cannot start a sequence, and one for each sequence that breaks off.
-/

namespace CustomFields.Utf8

/-- The bytes of a text. -/
def encode (s : String) : List UInt8 :=
  s.toByteArray.data.toList

/-- The text of bytes that are well formed. -/
def decode? (bytes : List UInt8) : Option String :=
  String.fromUTF8? ⟨bytes.toArray⟩

theorem decode?_encode (s : String) : decode? (encode s) = some s := by
  have h : (⟨(encode s).toArray⟩ : ByteArray) = s.toByteArray := by simp [encode]
  rw [decode?, h]
  exact dif_pos s.isValidUTF8

/-- A first byte: the value of its own bits, and the bounds of the bytes that have to follow. -/
def lead? (b : UInt8) : Option (Nat × List (UInt8 × UInt8)) :=
  let n := b.toNat
  if n < 0x80 then some (n, [])
  else if n < 0xC2 then none
  else if n < 0xE0 then some (n - 0xC0, [(0x80, 0xBF)])
  else if n = 0xE0 then some (0, [(0xA0, 0xBF), (0x80, 0xBF)])
  else if n = 0xED then some (0xD, [(0x80, 0x9F), (0x80, 0xBF)])
  else if n < 0xF0 then some (n - 0xE0, [(0x80, 0xBF), (0x80, 0xBF)])
  else if n = 0xF0 then some (0, [(0x90, 0xBF), (0x80, 0xBF), (0x80, 0xBF)])
  else if n < 0xF4 then some (n - 0xF0, [(0x80, 0xBF), (0x80, 0xBF), (0x80, 0xBF)])
  else if n = 0xF4 then some (4, [(0x80, 0x8F), (0x80, 0xBF), (0x80, 0xBF)])
  else none

/-- Reads the bytes that have to follow, as far as they do; the value is there if all of them
are. -/
def follow (value : Nat) : List (UInt8 × UInt8) → List UInt8 → Option Nat × List UInt8
  | [], rest => (some value, rest)
  | (low, high) :: bounds, b :: rest =>
    if low ≤ b ∧ b ≤ high then follow (value * 64 + (b.toNat - 0x80)) bounds rest
    else (none, b :: rest)
  | _ :: _, [] => (none, [])

/-- What stands for a sequence that is ill formed. -/
def replacement : Char := '\uFFFD'

/-- The characters of bytes of which at most `fuel` sequences are read. -/
def lossyChars : Nat → List UInt8 → List Char
  | 0, _ => []
  | _ + 1, [] => []
  | fuel + 1, b :: rest =>
    match lead? b with
    | none => replacement :: lossyChars fuel rest
    | some (value, bounds) =>
      let (c?, rest) := follow value bounds rest
      c?.elim replacement Char.ofNat :: lossyChars fuel rest

/-- The text of some bytes, in which what is no text is replaced. -/
def decodeLossy (bytes : List UInt8) : String :=
  String.ofList (lossyChars bytes.length bytes)

end CustomFields.Utf8
