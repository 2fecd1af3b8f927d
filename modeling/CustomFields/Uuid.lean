import CustomFields.Text.Digit

/-!
# Unique identifiers

A UUID is a number of 128 bits. It is written as 32 lower-case hexadecimal digits in five groups;
it is read in that form, without the hyphens, in braces, or behind `urn:uuid:`, with letters of
either case.
-/

namespace CustomFields

-- Powers are those of the core library, whatever else is imported.
attribute [local instance (high)] instPowNat

/-- An id of 128 bits. -/
structure Uuid where
  value : Fin (2 ^ (128 : Nat))
deriving DecidableEq, Repr

namespace Uuid

/-- The id of a number, up to what 128 bits hold. -/
def ofNat (n : Nat) : Uuid := ⟨⟨n % 2 ^ (128 : Nat), Nat.mod_lt _ (by decide)⟩⟩

/-- The order of the byte forms. -/
instance : LT Uuid := ⟨fun a b => a.value < b.value⟩

instance : LE Uuid := ⟨fun a b => a.value ≤ b.value⟩

instance (a b : Uuid) : Decidable (a < b) := inferInstanceAs (Decidable (a.value < b.value))

instance (a b : Uuid) : Decidable (a ≤ b) := inferInstanceAs (Decidable (a.value ≤ b.value))

/-! ## Writing -/

/-- The characters of the text: groups of 8, 4, 4, 4 and 12 digits. -/
def chars (u : Uuid) : List Char :=
  let n := u.value.val
  let group (width place : Nat) : List Char := Digit.hexadecimal width (n / 2 ^ place)
  group 8 96 ++ '-' :: group 4 80 ++ '-' :: group 4 64 ++ '-' :: group 4 48 ++ '-' :: group 12 0

/-- An id in lower-case hexadecimal digits, in five groups with hyphens. -/
def text (u : Uuid) : String := String.ofList u.chars

theorem length_chars (u : Uuid) : u.chars.length = 36 := by
  simp [chars, Digit.length_hexadecimal]

/-- The last `count` bytes of a number, the highest first. -/
def bytesOf : Nat → Nat → List UInt8
  | 0, _ => []
  | count + 1, n => bytesOf count (n / 256) ++ [UInt8.ofNat (n % 256)]

/-- The sixteen bytes, the highest first. -/
def bytes (u : Uuid) : List UInt8 := bytesOf 16 u.value.val

/-! ## Reading -/

/-- Reads the form with hyphens. -/
def readHyphenated? (cs : List Char) : Option Nat :=
  let isHyphen (i : Nat) : Bool := cs[i]? == some '-'
  if cs.length = 36 && isHyphen 8 && isHyphen 13 && isHyphen 18 && isHyphen 23 then
    Digit.number? 16 <| cs.take 8 ++ (cs.drop 9).take 4 ++ (cs.drop 14).take 4 ++
      (cs.drop 19).take 4 ++ cs.drop 24
  else none

/-- What may stand before the form with hyphens. -/
def namespaceLabel : List Char := "urn:uuid:".toList

/-- Reads any of the four forms. -/
def parse? (s : String) : Option Uuid :=
  let cs := s.toList
  let number? :=
    if cs.length = 32 then Digit.number? 16 cs
    else if cs.length = 38 && cs.head? == some '{' && cs.getLast? == some '}' then
      readHyphenated? ((cs.drop 1).take 36)
    else if cs.length = 45 && namespaceLabel.isPrefixOf (cs.map Char.toLower) then
      readHyphenated? (cs.drop namespaceLabel.length)
    else readHyphenated? cs
  number?.map ofNat

end Uuid

end CustomFields
