/-!
# Binary floating point with 64 bits

A number of the IEEE 754 format binary64 is a sign and a *magnitude*: the low 63 bits of its
pattern, read as a natural number. Magnitudes of finite numbers have the order of the numbers
they stand for, so comparing is comparing integers, and every operation is exact arithmetic on
naturals followed by one rounding to nearest, ties to even.

The value of a finite magnitude is `significand * 2 ^ exponent`. Read the other way, a
significand `m` of at most 53 bits with unit `2 ^ q` has the magnitude `(q + 1074) * 2 ^ 52 + m`;
this one formula also covers subnormal numbers and a rounding that carries into the next binade.
-/

namespace CustomFields

-- Powers are those of the core library, whatever else is imported.
attribute [local instance (high)] instPowNat

/-- A number of the format binary64; magnitudes above `infinityMagnitude` are not numbers. -/
structure Binary64 where
  negative : Bool
  magnitude : Nat
deriving DecidableEq, Repr

namespace Binary64

/-- The magnitude of the two infinities. -/
def infinityMagnitude : Nat := 0x7FF0000000000000

/-- The infinity of a sign. -/
def infinity (negative : Bool) : Binary64 := ⟨negative, infinityMagnitude⟩

/-- What is not a number. -/
def notANumber : Binary64 := ⟨false, 0x7FF8000000000000⟩

/-- The positive zero. -/
def zero : Binary64 := ⟨false, 0⟩

/-- Whether a value is none of the numbers. -/
def isNotANumber (x : Binary64) : Bool := infinityMagnitude < x.magnitude

/-- Whether a value is one of the two infinities. -/
def isInfinite (x : Binary64) : Bool := x.magnitude == infinityMagnitude

/-- Whether a value is a finite number. -/
def isFinite (x : Binary64) : Bool := x.magnitude < infinityMagnitude

/-- The number with the other sign. -/
def negate (x : Binary64) : Binary64 := ⟨!x.negative, x.magnitude⟩

/-- The integer significand of a finite number. -/
def significand (x : Binary64) : Nat :=
  if x.magnitude < 2 ^ (52 : Nat) then x.magnitude
  else x.magnitude % 2 ^ (52 : Nat) + 2 ^ (52 : Nat)

/-- The power of two that the significand of a finite number counts. -/
def exponent (x : Binary64) : Int :=
  (max (x.magnitude / 2 ^ (52 : Nat)) 1 : Nat) - 1075

/-! ## Rounding -/

/-- The natural number nearest to `n / d`; of two that are equally near, the even one. -/
def roundDiv (n d : Nat) : Nat :=
  let q := n / d
  let r := n % d
  if 2 * r < d then q else if d < 2 * r then q + 1 else q + q % 2

/-- The exponent `e` with `2 ^ e ≤ n / d < 2 ^ (e + 1)`, for positive `n` and `d`. -/
def floorLog2 (n d : Nat) : Int :=
  let e : Int := (n.log2 : Int) - d.log2
  if d <<< e.toNat ≤ n <<< (-e).toNat then e else e - 1

/-- The magnitude nearest to `n / d`; ratios too large for the format give infinity. -/
def roundRatio (n d : Nat) : Nat :=
  if n = 0 then 0 else
    let q := max (floorLog2 n d - 52) (-1074)
    let m := roundDiv (n <<< (-q).toNat) (d <<< q.toNat)
    min ((q + 1074).toNat * 2 ^ (52 : Nat) + m) infinityMagnitude

/-- The number nearest to an integer. -/
def ofInt (i : Int) : Binary64 :=
  ⟨decide (i < 0), roundRatio i.natAbs 1⟩

/-- The number nearest to `digits * 10 ^ exponent`. An exponent that puts the value outside the
format whatever the digits are is answered without computing the power. -/
def ofDecimal (negative : Bool) (digits : Nat) (exponent : Int) : Binary64 :=
  if digits = 0 then ⟨negative, 0⟩
  else if 400 < exponent then infinity negative
  else if exponent < -(digits.log2 + 401 : Nat) then ⟨negative, 0⟩
  else ⟨negative, roundRatio (digits * 10 ^ exponent.toNat) (10 ^ (-exponent).toNat)⟩

/-! ## Order -/

/-- An integer with the order of the numbers; the two zeros have one key. -/
def key (x : Binary64) : Int :=
  if x.negative then -(x.magnitude : Int) else x.magnitude

/-- Equality of numbers: the zeros are equal, and what is not a number equals nothing. -/
def eq (x y : Binary64) : Bool :=
  !x.isNotANumber && !y.isNotANumber && decide (x.key = y.key)

/-- Less, as it is decided for binary64 numbers: zeros are equal, and what is no number is not less.
-/
def lt (x y : Binary64) : Bool :=
  !x.isNotANumber && !y.isNotANumber && decide (x.key < y.key)

/-- Less or equal; what is no number is neither. -/
def le (x y : Binary64) : Bool :=
  !x.isNotANumber && !y.isNotANumber && decide (x.key ≤ y.key)

/-! ## Arithmetic -/

/-- A finite number as a signed significand. -/
def signedSignificand (x : Binary64) : Int :=
  if x.negative then -(x.significand : Int) else x.significand

/-- Sum: exact over the smaller of the two units, then rounded once. -/
def add (x y : Binary64) : Binary64 :=
  if x.isNotANumber || y.isNotANumber then notANumber
  else if x.isInfinite then
    if y.isInfinite && x.negative != y.negative then notANumber else x
  else if y.isInfinite then y
  else
    let e := min x.exponent y.exponent
    let s := x.signedSignificand * 2 ^ (x.exponent - e).toNat +
      y.signedSignificand * 2 ^ (y.exponent - e).toNat
    if s = 0 then ⟨x.negative && y.negative, 0⟩
    else ⟨decide (s < 0), roundRatio (s.natAbs <<< e.toNat) (1 <<< (-e).toNat)⟩

/-- Product of two finite numbers, rounded once. -/
def mul (x y : Binary64) : Binary64 :=
  let e := x.exponent + y.exponent
  ⟨x.negative != y.negative,
    roundRatio ((x.significand * y.significand) <<< e.toNat) (1 <<< (-e).toNat)⟩

/-- Quotient of two finite numbers, the second not zero, rounded once. -/
def div (x y : Binary64) : Binary64 :=
  let e := x.exponent - y.exponent
  ⟨x.negative != y.negative,
    roundRatio (x.significand <<< e.toNat) (y.significand <<< (-e).toNat)⟩

/-! ## Patterns -/

/-- The 64-bit pattern. -/
def toBits (x : Binary64) : Nat :=
  x.magnitude + if x.negative then 2 ^ (63 : Nat) else 0

end Binary64

end CustomFields
