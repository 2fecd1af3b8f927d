import CustomFields.Json.Value

/-!
# Number literals

How the digits of a literal become a number. An integer literal of the 64-bit ranges is an
integer; every other literal is a binary64 number, computed from as many leading digits as fit
64 bits and a power of ten, with one rounding for the digits and one for the power. A literal
that is too large for the format has no number.
-/

namespace CustomFields.Json

-- Powers are those of the core library, whatever else is imported.
attribute [local instance (high)] instPowNat

/-- The digits of a literal: the significand that was kept, the power of ten it counts, and
whether a digit has been left out because it did not fit 64 bits. -/
structure Significand where
  value : Nat
  exponent : Int
  full : Bool

namespace Significand

/-- The largest significand that is kept. -/
def maximum : Nat := UInt64.size - 1

/-- What a digit counts. -/
def digitValue (c : Char) : Nat := c.toNat - '0'.toNat

/-- Takes one more digit in front of the point; a digit that does not fit scales the rest. -/
def pushInteger (s : Significand) (c : Char) : Significand :=
  let v := s.value * 10 + digitValue c
  if s.full || maximum < v then ⟨s.value, s.exponent + 1, true⟩ else ⟨v, s.exponent, false⟩

/-- Takes one more digit behind the point; a digit that does not fit is left out. -/
def pushFraction (s : Significand) (c : Char) : Significand :=
  let v := s.value * 10 + digitValue c
  if s.full || maximum < v then ⟨s.value, s.exponent, true⟩ else ⟨v, s.exponent - 1, false⟩

/-- The significand of the digits in front of the point. -/
def ofInteger (digits : List Char) : Significand :=
  digits.foldl pushInteger ⟨0, 0, false⟩

/-- Goes on with the digits behind the point. -/
def addFraction (s : Significand) (digits : List Char) : Significand :=
  digits.foldl pushFraction { s with full := false }

end Significand

/-- The power of ten as a binary64 number. -/
def powerOfTen (n : Nat) : Binary64 := .ofDecimal false 1 n

/-- Divides by a power of ten of any size, at most `10 ^ 308` at a time. Three steps take every
significand to zero. -/
def divideByPower : Nat → Binary64 → Nat → Binary64
  | 0, x, _ => x
  | fuel + 1, x, n =>
    if n ≤ 308 then x.div (powerOfTen n)
    else if x.magnitude = 0 then x
    else divideByPower fuel (x.div (powerOfTen 308)) (n - 308)

/-- A significand times a power of ten, or nothing when that is too large. -/
def scaled? (significand : Nat) (exponent : Int) : Option Binary64 :=
  let x := Binary64.ofInt significand
  if 0 ≤ exponent then
    if 308 < exponent then if x.magnitude = 0 then some x else none
    else
      let y := x.mul (powerOfTen exponent.toNat)
      if y.isInfinite then none else some y
  else some (divideByPower 4 x exponent.natAbs)

/-- An exponent is read up to 32 bits. Beyond them only zero has a number when the exponent is
positive, and everything is zero when it is negative. -/
def scaledByText? (s : Significand) (negativeExponent : Bool) (digits : List Char) :
    Option Binary64 :=
  let e := Nat.ofDigitChars 10 digits 0
  if 2 ^ (31 : Nat) ≤ e then
    if s.value ≠ 0 ∧ ¬negativeExponent then none else some .zero
  else scaled? s.value (s.exponent + if negativeExponent then -(e : Int) else e)

/-- The parts of a number literal. -/
structure NumberLiteral where
  negative : Bool
  integer : List Char
  fraction : Option (List Char)
  /-- Whether the exponent is negative, and its digits. -/
  exponent : Option (Bool × List Char)

/-- The number that a literal stands for. -/
def NumberLiteral.number? (l : NumberLiteral) : Option Number :=
  let s := Significand.ofInteger l.integer
  let float (x? : Option Binary64) : Option Number :=
    x?.map fun x => .float (if l.negative then x.negate else x)
  match l.fraction, l.exponent with
  | none, none =>
    if s.full then float (scaled? s.value s.exponent)
    else if !l.negative then some (.integer s.value)
    else if s.value = 0 ∨ 2 ^ (63 : Nat) < s.value then
      some (.float (Binary64.ofInt s.value).negate)
    else some (.integer (-s.value))
  | some f, none =>
    let s := s.addFraction f
    float (scaled? s.value s.exponent)
  | none, some (n, e) => float (scaledByText? s n e)
  | some f, some (n, e) => float (scaledByText? (s.addFraction f) n e)

/-- The digits at the front of a text, and the rest. -/
def spanDigits (cs : List Char) : List Char × List Char :=
  cs.span Char.isDigit

namespace NumberLiteral

/-- Reads a fraction, if there is a point: a point has a digit behind it. -/
def readFraction : List Char → Option (Option (List Char) × List Char)
  | '.' :: cs =>
    match spanDigits cs with
    | ([], _) => none
    | (ds, cs) => some (some ds, cs)
  | cs => some (none, cs)

/-- Reads the digits of an exponent, of which there is one. -/
def readExponentDigits (negative : Bool) (cs : List Char) :
    Option (Option (Bool × List Char) × List Char) :=
  match spanDigits cs with
  | ([], _) => none
  | (ds, cs) => some (some (negative, ds), cs)

/-- Reads an exponent, if there is a letter for one. -/
def readExponent (cs : List Char) : Option (Option (Bool × List Char) × List Char) :=
  match cs with
  | 'e' :: cs | 'E' :: cs =>
    match cs with
    | '+' :: cs => readExponentDigits false cs
    | '-' :: cs => readExponentDigits true cs
    | cs => readExponentDigits false cs
  | cs => some (none, cs)

/-- Reads what stands behind the sign of a number literal. A leading zero stands alone. -/
def readUnsigned (negative : Bool) (cs : List Char) : Option (NumberLiteral × List Char) :=
  match spanDigits cs with
  | ([], _) => none
  | ('0' :: _ :: _, _) => none
  | (integer, cs) => do
    let (fraction, cs) ← readFraction cs
    let (exponent, cs) ← readExponent cs
    return (⟨negative, integer, fraction, exponent⟩, cs)

/-- Reads the number literal at the front of a text, with a minus sign or none. -/
def read : List Char → Option (NumberLiteral × List Char)
  | '-' :: cs => readUnsigned true cs
  | cs => readUnsigned false cs

end NumberLiteral

end CustomFields.Json
