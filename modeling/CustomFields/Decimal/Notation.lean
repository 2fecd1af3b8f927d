import CustomFields.Decimal.Shortest

/-!
# Writing numbers

Two ways to write the shortest digits of a binary64 number. *Compact* notation is the one of
JSON texts: positional with a decimal point while the decimal exponent is between -5 and 15,
else with a signed exponent. *Plain* notation never uses an exponent and writes no point that
is not needed; it is the one of metric samples.
-/

namespace CustomFields.Decimal

/-- A row of zeros. -/
def zeros (n : Nat) : String := String.ofList (List.replicate n '0')

/-- Digits with the point behind the first `point` of them, which may lie outside. -/
def positional (digits : List Char) (point : Int) (wholeSuffix : String) : String :=
  if digits.length ≤ point then
    String.ofList digits ++ zeros (point - digits.length).toNat ++ wholeSuffix
  else if 0 < point then
    String.ofList (digits.take point.toNat) ++ "." ++ String.ofList (digits.drop point.toNat)
  else "0." ++ zeros (-point).toNat ++ String.ofList digits

/-- Digits with the point behind the first of them, and the decimal exponent. -/
def scientific (digits : List Char) (exponent : Int) : String :=
  let mantissa := match digits with
    | [] => "0"
    | [d] => d.toString
    | d :: ds => d.toString ++ "." ++ String.ofList ds
  mantissa ++ "e" ++ (if exponent < 0 then "-" else "+") ++ toString exponent.natAbs

/-- Puts the sign of a number in front of a text. -/
def signed (x : Binary64) (text : String) : String :=
  if x.negative then "-" ++ text else text

/-- Compact notation of a finite number: `1.0`, `0.00001`, `1e-6`, `1e+16`, `-0.0`. -/
def compact (x : Binary64) : String :=
  signed x <|
    if x.magnitude = 0 then "0.0"
    else
      let (d, k) := shortest x
      let digits := Nat.toDigits 10 d
      let point : Int := digits.length + k
      if -5 ≤ point - 1 ∧ point - 1 ≤ 15 then positional digits point ".0"
      else scientific digits (point - 1)

/-- Plain notation: `1`, `0.001`, `1000000000000000000000`; the infinities and what is not a
number have names. -/
def plain (x : Binary64) : String :=
  if x.isNotANumber then "NaN"
  else if x.isInfinite then signed x "inf"
  else signed x <|
    if x.magnitude = 0 then "0"
    else
      let (d, k) := shortest x
      let digits := Nat.toDigits 10 d
      positional digits (digits.length + k) ""

end CustomFields.Decimal
