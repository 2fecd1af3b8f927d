import CustomFields.Decimal.Binary64

/-!
# Shortest decimal digits

Among the decimal numbers that round to a given binary64 number, `shortest` finds one with the
fewest digits, and the nearest of those. The decimals that round to `m * 2 ^ e` are those
between the midpoints to its two neighbours, the midpoints included iff `m` is even. On the
grid `10 ^ k` only the two neighbours of the number itself need a look, so the search goes from
the coarsest grid to finer ones and stops at the first hit.
-/

namespace CustomFields.Decimal

-- Powers are those of the core library, whatever else is imported.
attribute [local instance (high)] instPowNat

/-- How many decimal digits a natural number has. -/
def digitCount (n : Nat) : Nat :=
  (Nat.toDigits 10 n).length

/-- The exponent `e` with `10 ^ e ≤ n / d < 10 ^ (e + 1)`, for positive `n` and `d`. -/
def floorLog10 (n d : Nat) : Int :=
  if d ≤ n then digitCount (n / d) - 1
  else
    let l := digitCount d - digitCount n
    if d ≤ n * 10 ^ l then -l else -(l : Int) - 1

/-- An interval of reals around a binary64 number, over a common denominator: the number is
`value * scale / denominator`, and the decimals that round to it lie between `low` and `high`. -/
structure RoundingInterval where
  low : Nat
  value : Nat
  high : Nat
  scale : Nat
  denominator : Nat
  closed : Bool

/-- The rounding interval of a finite number, in quarters of its unit. -/
def RoundingInterval.of (x : Binary64) : RoundingInterval :=
  let m := x.significand
  let e := x.exponent - 2
  let atBinadeStart := m = 2 ^ (52 : Nat) ∧ -1074 < x.exponent
  { low := if atBinadeStart then 4 * m - 1 else 4 * m - 2
    value := 4 * m
    high := 4 * m + 2
    scale := 2 ^ e.toNat
    denominator := 2 ^ (-e).toNat
    closed := m % 2 == 0 }

/-- The multiple of `10 ^ k` that lies in the interval and is nearest to its value, if the two
neighbours of the value on that grid hold one. -/
def RoundingInterval.onGrid (i : RoundingInterval) (k : Int) : Option Nat :=
  let unit := i.denominator * 10 ^ k.toNat
  let scale := i.scale * 10 ^ (-k).toNat
  let inside (d : Nat) : Bool :=
    if i.closed then i.low * scale ≤ d * unit && d * unit ≤ i.high * scale
    else i.low * scale < d * unit && d * unit < i.high * scale
  let d := i.value * scale / unit
  let below := i.value * scale - d * unit
  let above := (d + 1) * unit - i.value * scale
  match d != 0 && inside d, inside (d + 1) with
  | true, true => if below < above || (below == above && d % 2 == 0) then some d else some (d + 1)
  | true, false => some d
  | false, true => some (d + 1)
  | false, false => none

/-- The first grid from `10 ^ k` downwards that has a hit. -/
def RoundingInterval.search (i : RoundingInterval) : Nat → Int → Nat × Int
  | 0, k => ((i.onGrid k).getD 0, k)
  | fuel + 1, k =>
    match i.onGrid k with
    | some d => (d, k)
    | none => i.search fuel (k - 1)

/-- Moves trailing zeros of the digits into the exponent. -/
def dropTrailingZeros : Nat → Nat → Int → Nat × Int
  | 0, d, k => (d, k)
  | fuel + 1, d, k =>
    if d != 0 && d % 10 == 0 then dropTrailingZeros fuel (d / 10) (k + 1) else (d, k)

/-- The digits `d` and the exponent `k` of the shortest decimal `d * 10 ^ k` that rounds to a
finite number other than zero. -/
def shortest (x : Binary64) : Nat × Int :=
  let i := RoundingInterval.of x
  let (d, k) := i.search 17 (floorLog10 (i.value * i.scale) i.denominator)
  dropTrailingZeros 20 d k

end CustomFields.Decimal
