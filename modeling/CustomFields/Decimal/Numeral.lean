import CustomFields.Decimal.Binary64

/-!
# Reading numerals

A numeral is a sign, which may be missing, and then digits with at most one point and at most one
exponent, or the name of an infinity or of what is not a number, in letters of either case. There
is at least one digit before or behind the point. The number is the one nearest to the exact
value.
-/

namespace CustomFields.Decimal

/-- Splits off a sign: whether it is a minus, and the rest. -/
def splitSign : List Char → Bool × List Char
  | '-' :: rest => (true, rest)
  | '+' :: rest => (false, rest)
  | rest => (false, rest)

/-- A natural number below a limit: digits, with or without a plus sign. -/
def natBelow? (limit : Nat) (s : String) : Option Nat :=
  let ds := match s.toList with
    | '+' :: rest => rest
    | cs => cs
  if ds.isEmpty || !ds.all Char.isDigit then none
  else
    let n := Nat.ofDigitChars 10 ds 0
    if n < limit then some n else none

/-- The exponent behind its letter: a sign, which may be missing, and digits. -/
def exponent? (cs : List Char) : Option Int :=
  let (negative, ds) := splitSign cs
  if ds.isEmpty || !ds.all Char.isDigit then none
  else
    let e : Int := Nat.ofDigitChars 10 ds 0
    some (if negative then -e else e)

/-- The number of digits with at most one point and at most one exponent. -/
def digitsNumber? (negative : Bool) (cs : List Char) : Option Binary64 := do
  let (whole, rest) := cs.span Char.isDigit
  let (fraction, rest) := match rest with
    | '.' :: rest => rest.span Char.isDigit
    | rest => ([], rest)
  if whole.isEmpty && fraction.isEmpty then none
  let exponent ← match rest with
    | [] => some 0
    | c :: rest => if c = 'e' ∨ c = 'E' then exponent? rest else none
  return .ofDecimal negative (Nat.ofDigitChars 10 (whole ++ fraction) 0)
    (exponent - fraction.length)

/-- The number of a numeral. -/
def numeral? (cs : List Char) : Option Binary64 :=
  let (negative, rest) := splitSign cs
  let name := String.ofList (rest.map Char.toLower)
  if name = "inf" ∨ name = "infinity" then some (.infinity negative)
  else if name = "nan" then some .notANumber
  else digitsNumber? negative rest

end CustomFields.Decimal
