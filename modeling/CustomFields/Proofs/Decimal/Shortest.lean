import Mathlib.Algebra.Order.Field.Power
import Mathlib.Tactic
import CustomFields.Decimal.Shortest

/-!
# The shortest decimal determines its number

The decimal that `shortest` finds lies in the rounding interval of the number it was asked for,
and the rounding intervals of different magnitudes have no point in common. So a number can be
told from its shortest decimal.

The search always ends with a hit: the eighteenth grid below the leading digit is finer than half a
unit of a significand of 53 bits, so the neighbour above the number lies in the interval.

## Main definitions

* `RoundingInterval.Contains`: the rational numbers of a rounding interval
* `Binary64.edge`: the midpoint between the numbers of a magnitude and of the next one

## Main results

* `contains_shortest`: the shortest decimal lies in the rounding interval
* `magnitude_eq_of_contains`: a rational number lies in one rounding interval at most
-/

namespace CustomFields

namespace Decimal

/-! ## Powers as fractions -/

theorem natCast_zpow (b : ℕ) (k : ℤ) :
    (b : ℚ) ^ k = (b ^ k.toNat : ℕ) / (b ^ (-k).toNat : ℕ) := by
  -- one of the two powers is one
  obtain hk | hk := le_total 0 k
  · obtain ⟨n, rfl⟩ := Int.eq_ofNat_of_zero_le hk
    simp
  · obtain ⟨n, hn⟩ := Int.eq_ofNat_of_zero_le (Int.neg_nonneg.mpr hk)
    obtain rfl : k = -n := by omega
    simp

/-- Comparing fractions is comparing cross products. -/
theorem fraction_le_iff {a s n d p r : ℕ} (hn : 0 < n) (hr : 0 < r) :
    (a : ℚ) * (s / n) ≤ d * (p / r) ↔ a * (s * r) ≤ d * (n * p) := by
  have hn' : (0 : ℚ) < n := by exact_mod_cast hn
  have hr' : (0 : ℚ) < r := by exact_mod_cast hr
  rw [← mul_div_assoc, ← mul_div_assoc, div_le_div_iff₀ hn' hr']
  constructor
  · intro h
    have : ((a * s * r : ℕ) : ℚ) ≤ (d * p * n : ℕ) := by push_cast; exact h
    have := Nat.cast_le.mp this
    calc a * (s * r) = a * s * r := by ring
      _ ≤ d * p * n := this
      _ = d * (n * p) := by ring
  · intro h
    have : ((a * (s * r) : ℕ) : ℚ) ≤ (d * (n * p) : ℕ) := Nat.cast_le.mpr h
    push_cast at this
    calc (a : ℚ) * s * r = a * (s * r) := by ring
      _ ≤ d * (n * p) := this
      _ = d * p * n := by ring

theorem fraction_lt_iff {a s n d p r : ℕ} (hn : 0 < n) (hr : 0 < r) :
    (a : ℚ) * (s / n) < d * (p / r) ↔ a * (s * r) < d * (n * p) := by
  rw [← not_le, fraction_le_iff hr hn, not_le, mul_comm r s, mul_comm p n]

theorem ten_pow_digitCount_le {n : ℕ} (hn : 0 < n) : 10 ^ (digitCount n - 1) ≤ n := by
  unfold digitCount
  obtain hl | hl := Nat.eq_zero_or_pos ((Nat.toDigits 10 n).length - 1)
  · rw [hl]
    exact hn
  · by_contra hlt
    have := (Nat.length_toDigits_le_iff (b := 10) (by decide) hl).mpr (Nat.lt_of_not_le hlt)
    omega

theorem lt_ten_pow_digitCount (n : ℕ) : n < 10 ^ digitCount n :=
  (Nat.length_toDigits_le_iff (by decide) Nat.length_toDigits_pos).mp le_rfl

theorem ten_zpow_floorLog10_le {n d : ℕ} (hn : 0 < n) (hd : 0 < d) :
    (10 : ℚ) ^ floorLog10 n d ≤ n / d := by
  have hd' : (0 : ℚ) < d := by exact_mod_cast hd
  unfold floorLog10
  split
  -- the quotient is at least one: its own digits are counted
  · rename_i hle
    have hq : 0 < n / d := Nat.div_pos hle hd
    have hc : 1 ≤ digitCount (n / d) := Nat.length_toDigits_pos
    have hpow : ((10 ^ (digitCount (n / d) - 1) : ℕ) : ℚ) ≤ (n / d : ℕ) :=
      Nat.cast_le.mpr (ten_pow_digitCount_le hq)
    calc (10 : ℚ) ^ ((digitCount (n / d) : ℤ) - 1)
        = ((10 ^ (digitCount (n / d) - 1) : ℕ) : ℚ) := by
          rw [← Nat.cast_one, ← Nat.cast_sub hc, zpow_natCast]
          push_cast
          rfl
      _ ≤ (n / d : ℕ) := hpow
      _ ≤ n / d := Nat.cast_div_le
  -- it is below one: the digits of the two numbers are compared
  · rename_i hlt
    simp only
    split
    · rename_i hle
      rw [zpow_neg, zpow_natCast, le_div_iff₀ hd', inv_mul_le_iff₀ (by positivity)]
      have : (d : ℚ) ≤ ((n * 10 ^ (digitCount d - digitCount n) : ℕ) : ℚ) := Nat.cast_le.mpr hle
      push_cast at this
      linarith
    · -- one more digit makes the numerator at least as long as the denominator
      have hlong : d ≤ n * 10 ^ (digitCount d - digitCount n + 1) := by
        have hc : 1 ≤ digitCount n := Nat.length_toDigits_pos
        calc d ≤ 10 ^ digitCount d := (lt_ten_pow_digitCount d).le
          _ ≤ 10 ^ ((digitCount n - 1) + (digitCount d - digitCount n + 1)) :=
            Nat.pow_le_pow_right (by decide) (by omega)
          _ = 10 ^ (digitCount n - 1) * 10 ^ (digitCount d - digitCount n + 1) := by rw [pow_add]
          _ ≤ n * 10 ^ (digitCount d - digitCount n + 1) :=
            Nat.mul_le_mul_right _ (ten_pow_digitCount_le hn)
      rw [show -((digitCount d - digitCount n : ℕ) : ℤ) - 1 =
          -((digitCount d - digitCount n + 1 : ℕ) : ℤ) by push_cast; ring,
        zpow_neg, zpow_natCast, le_div_iff₀ hd', inv_mul_le_iff₀ (by positivity)]
      have : (d : ℚ) ≤ ((n * 10 ^ (digitCount d - digitCount n + 1) : ℕ) : ℚ) :=
        Nat.cast_le.mpr hlong
      push_cast at this
      linarith

/-! ## Rounding intervals -/

namespace RoundingInterval

/-- The unit in which the bounds of an interval count. -/
def unit (i : RoundingInterval) : ℚ := i.scale / i.denominator

/-- Whether a rational number lies in an interval. -/
def Contains (i : RoundingInterval) (q : ℚ) : Prop :=
  i.low * i.unit ≤ q ∧ q ≤ i.high * i.unit ∧
    (i.closed = false → q ≠ i.low * i.unit ∧ q ≠ i.high * i.unit)

theorem contains_iff_of_open {i : RoundingInterval} (h : i.closed = false) {q : ℚ} :
    i.Contains q ↔ i.low * i.unit < q ∧ q < i.high * i.unit := by
  constructor
  · rintro ⟨hl, hh, hne⟩
    exact ⟨lt_of_le_of_ne hl (hne h).1.symm, lt_of_le_of_ne hh (hne h).2⟩
  · rintro ⟨hl, hh⟩
    exact ⟨hl.le, hh.le, fun _ => ⟨hl.ne', hh.ne⟩⟩

theorem contains_iff_of_closed {i : RoundingInterval} (h : i.closed = true) {q : ℚ} :
    i.Contains q ↔ i.low * i.unit ≤ q ∧ q ≤ i.high * i.unit := by
  simp [Contains, h]

/-- A point strictly between the bounds lies in the interval, open or not. -/
theorem contains_of_lt {i : RoundingInterval} {q : ℚ} (hl : i.low * i.unit < q)
    (hh : q < i.high * i.unit) : i.Contains q :=
  ⟨hl.le, hh.le, fun _ => ⟨hl.ne', hh.ne⟩⟩

/-- The test of the search, on the common denominator. -/
def inside (i : RoundingInterval) (k : ℤ) (d : ℕ) : Bool :=
  if i.closed then
    i.low * (i.scale * 10 ^ (-k).toNat) ≤ d * (i.denominator * 10 ^ k.toNat) &&
      d * (i.denominator * 10 ^ k.toNat) ≤ i.high * (i.scale * 10 ^ (-k).toNat)
  else
    i.low * (i.scale * 10 ^ (-k).toNat) < d * (i.denominator * 10 ^ k.toNat) &&
      d * (i.denominator * 10 ^ k.toNat) < i.high * (i.scale * 10 ^ (-k).toNat)

section Search

variable {i : RoundingInterval} (hden : 0 < i.denominator)

include hden

theorem le_decimal_iff (a d : ℕ) (k : ℤ) :
    a * i.unit ≤ d * (10 : ℚ) ^ k ↔
      a * (i.scale * 10 ^ (-k).toNat) ≤ d * (i.denominator * 10 ^ k.toNat) := by
  rw [unit, show (10 : ℚ) = (10 : ℕ) by norm_num, natCast_zpow]
  exact fraction_le_iff hden (by positivity)

theorem lt_decimal_iff (a d : ℕ) (k : ℤ) :
    a * i.unit < d * (10 : ℚ) ^ k ↔
      a * (i.scale * 10 ^ (-k).toNat) < d * (i.denominator * 10 ^ k.toNat) := by
  rw [unit, show (10 : ℚ) = (10 : ℕ) by norm_num, natCast_zpow]
  exact fraction_lt_iff hden (by positivity)

theorem decimal_le_iff (a d : ℕ) (k : ℤ) :
    d * (10 : ℚ) ^ k ≤ a * i.unit ↔
      d * (i.denominator * 10 ^ k.toNat) ≤ a * (i.scale * 10 ^ (-k).toNat) := by
  rw [← not_lt, lt_decimal_iff hden, not_lt]

theorem decimal_lt_iff (a d : ℕ) (k : ℤ) :
    d * (10 : ℚ) ^ k < a * i.unit ↔
      d * (i.denominator * 10 ^ k.toNat) < a * (i.scale * 10 ^ (-k).toNat) := by
  rw [← not_le, le_decimal_iff hden, not_le]

theorem inside_iff (k : ℤ) (d : ℕ) :
    i.inside k d = true ↔ i.Contains (d * (10 : ℚ) ^ k) := by
  unfold inside
  split
  · rename_i hc
    rw [contains_iff_of_closed hc, le_decimal_iff hden, decimal_le_iff hden, Bool.and_eq_true,
      decide_eq_true_iff, decide_eq_true_iff]
  · rename_i hc
    rw [contains_iff_of_open (by simpa using hc), lt_decimal_iff hden, decimal_lt_iff hden,
      Bool.and_eq_true, decide_eq_true_iff, decide_eq_true_iff]

/-- A hit on a grid lies in the interval. -/
theorem contains_of_onGrid {k : ℤ} {d : ℕ} (h : i.onGrid k = some d) :
    i.Contains (d * (10 : ℚ) ^ k) := by
  rw [← inside_iff hden]
  unfold onGrid at h
  simp only at h
  split at h
  · rename_i hd hd'
    split at h <;> cases h
    · exact (Bool.and_eq_true_iff.mp hd).2
    · exact hd'
  · rename_i hd _
    cases h
    exact (Bool.and_eq_true_iff.mp hd).2
  · rename_i hd'
    cases h
    exact hd'
  · cases h

/-- A grid that is finer than the upper half of the interval has a hit. -/
theorem onGrid_isSome {k : ℤ} (hlow : i.low ≤ i.value)
    (hfine : i.value * i.unit + (10 : ℚ) ^ k < i.high * i.unit) : (i.onGrid k).isSome := by
  have hten : (0 : ℚ) < (10 : ℚ) ^ k := by positivity
  -- the multiples next to the number, below and above
  let d := i.value * (i.scale * 10 ^ (-k).toNat) / (i.denominator * 10 ^ k.toNat)
  have hpos : 0 < i.denominator * 10 ^ k.toNat := by positivity
  have hbelow : d * (10 : ℚ) ^ k ≤ i.value * i.unit := by
    rw [decimal_le_iff hden]
    exact Nat.div_mul_le_self _ _
  have habove : i.value * i.unit < (d + 1 : ℕ) * (10 : ℚ) ^ k := by
    rw [lt_decimal_iff hden]
    exact (Nat.lt_mul_div_succ _ hpos).trans_eq (mul_comm _ _)
  have hunit : 0 ≤ i.unit := by unfold unit; positivity
  -- the one above is no further from the number than the grid is fine
  have hin : i.inside k (d + 1) = true := by
    rw [inside_iff hden]
    refine contains_of_lt (lt_of_le_of_lt ?_ habove) (lt_of_le_of_lt ?_ hfine)
    · exact mul_le_mul_of_nonneg_right (Nat.cast_le.mpr hlow) hunit
    · push_cast
      linarith
  unfold onGrid
  simp only
  split
  · split <;> rfl
  · rfl
  · rfl
  · rename_i hno
    exact absurd (hin.symm.trans hno) (by decide)

/-- The search ends with a hit if its last grid has one. -/
theorem contains_search {fuel : ℕ} {k : ℤ} (h : (i.onGrid (k - fuel)).isSome) :
    i.Contains ((i.search fuel k).1 * (10 : ℚ) ^ (i.search fuel k).2) := by
  -- on the grids that are left, from the coarse ones to the last
  induction fuel generalizing k with
  | zero =>
    obtain ⟨d, hd⟩ := Option.isSome_iff_exists.mp h
    rw [Nat.cast_zero, sub_zero] at hd
    simpa [search, hd] using contains_of_onGrid hden hd
  | succ fuel ih =>
    unfold search
    cases hk : i.onGrid k with
    | some d => exact contains_of_onGrid hden hk
    | none =>
      refine ih ?_
      rw [show k - 1 - (fuel : ℤ) = k - (fuel + 1 : ℕ) by push_cast; ring]
      exact h

end Search

end RoundingInterval

/-! ## The interval of a number -/

section Numbers

variable (x : Binary64)

theorem significand_lt : x.significand < 2 ^ 53 := by
  unfold Binary64.significand
  split <;> omega

theorem significand_pos (h : x.magnitude ≠ 0) : 0 < x.significand := by
  unfold Binary64.significand
  split <;> omega

theorem unit_of : (RoundingInterval.of x).unit = (2 : ℚ) ^ (x.exponent - 2) := by
  rw [show (2 : ℚ) = (2 : ℕ) by norm_num, natCast_zpow]
  rfl

theorem denominator_of_pos : 0 < (RoundingInterval.of x).denominator := by
  unfold RoundingInterval.of
  positivity

theorem low_of_le : (RoundingInterval.of x).low ≤ (RoundingInterval.of x).value := by
  simp only [RoundingInterval.of]
  split <;> omega

/-- Seventeen grids below the leading digit, the next multiple lies in the interval. -/
theorem onGrid_floorLog10_isSome (h : x.magnitude ≠ 0) :
    ((RoundingInterval.of x).onGrid
      (floorLog10 ((RoundingInterval.of x).value * (RoundingInterval.of x).scale)
        (RoundingInterval.of x).denominator - (17 : ℕ))).isSome := by
  have hden := denominator_of_pos x
  have hunit : 0 < (RoundingInterval.of x).unit := by rw [unit_of]; positivity
  have hm : ((x.significand : ℕ) : ℚ) < 2 ^ 53 := by exact_mod_cast significand_lt x
  have hvalue : 0 < (RoundingInterval.of x).value * (RoundingInterval.of x).scale := by
    have := significand_pos x h
    simp only [RoundingInterval.of]
    positivity
  -- the leading digit is worth no more than the number, which is less than `2 ^ 55` units
  have hlead := ten_zpow_floorLog10_le hvalue hden
  push_cast at hlead
  rw [mul_div_assoc, ← RoundingInterval.unit] at hlead
  refine RoundingInterval.onGrid_isSome hden (low_of_le x) ?_
  rw [zpow_sub₀ (by norm_num), zpow_natCast]
  have hbound : (10 : ℚ) ^ floorLog10 ((RoundingInterval.of x).value *
      (RoundingInterval.of x).scale) (RoundingInterval.of x).denominator / 10 ^ 17 <
      2 * (RoundingInterval.of x).unit := by
    rw [div_lt_iff₀ (by positivity)]
    refine lt_of_le_of_lt hlead ?_
    have hv : ((RoundingInterval.of x).value : ℚ) = 4 * x.significand := by
      simp [RoundingInterval.of]
    rw [hv]
    nlinarith
  have hh : ((RoundingInterval.of x).high : ℚ) = (RoundingInterval.of x).value + 2 := by
    simp [RoundingInterval.of]
  rw [hh]
  linarith

theorem dropTrailingZeros_value (fuel d : ℕ) (k : ℤ) :
    ((dropTrailingZeros fuel d k).1 : ℚ) * 10 ^ (dropTrailingZeros fuel d k).2 = d * 10 ^ k := by
  induction fuel generalizing d k with
  | zero => rfl
  | succ fuel ih =>
    unfold dropTrailingZeros
    split
    · rename_i h
      have hd : d = d / 10 * 10 := by
        simp only [Bool.and_eq_true, bne_iff_ne, ne_eq, beq_iff_eq] at h
        omega
      rw [ih, zpow_add₀ (by norm_num), zpow_one]
      conv_rhs => rw [hd]
      push_cast
      ring
    · rfl

/-- **The shortest decimal of a number lies in its rounding interval.** -/
theorem contains_shortest (h : x.magnitude ≠ 0) :
    (RoundingInterval.of x).Contains ((shortest x).1 * (10 : ℚ) ^ (shortest x).2) := by
  unfold shortest
  rw [dropTrailingZeros_value]
  exact RoundingInterval.contains_search (denominator_of_pos x) (onGrid_floorLog10_isSome x h)

end Numbers

/-! ## Different magnitudes -/

/-- The midpoint between the numbers of a magnitude and of the next one. -/
def edge (n : ℕ) : ℚ :=
  (RoundingInterval.of ⟨false, n⟩).high * (RoundingInterval.of ⟨false, n⟩).unit

/-- The next magnitude has the next significand in the same unit, or it starts a binade and has twice
the unit. -/
theorem parts_succ (n : ℕ) :
    (Binary64.significand ⟨false, n⟩ + 1 = 2 ^ 53 ∧ Binary64.significand ⟨false, n + 1⟩ = 2 ^ 52 ∧
      Binary64.exponent ⟨false, n + 1⟩ = Binary64.exponent ⟨false, n⟩ + 1 ∧
      -1074 < Binary64.exponent ⟨false, n + 1⟩) ∨
    Binary64.significand ⟨false, n + 1⟩ = Binary64.significand ⟨false, n⟩ + 1 ∧
      Binary64.exponent ⟨false, n + 1⟩ = Binary64.exponent ⟨false, n⟩ ∧
      ¬ (Binary64.significand ⟨false, n + 1⟩ = 2 ^ 52 ∧
        -1074 < Binary64.exponent ⟨false, n + 1⟩) := by
  simp only [Binary64.significand, Binary64.exponent]
  by_cases hb : (n + 1) % 2 ^ 52 = 0 ∧ 2 ^ 52 < n + 1
  · refine Or.inl ⟨?_, ?_, ?_, ?_⟩
    · split <;> omega
    · split <;> omega
    · omega
    · omega
  · refine Or.inr ⟨?_, ?_, ?_⟩
    · split <;> split <;> omega
    · omega
    · split <;> omega

/-- The interval of the next magnitude starts where that of a magnitude ends. -/
theorem low_succ_eq_edge (n : ℕ) :
    (RoundingInterval.of ⟨false, n + 1⟩).low * (RoundingInterval.of ⟨false, n + 1⟩).unit =
      edge n := by
  rw [edge, unit_of, unit_of]
  rcases parts_succ n with ⟨hs, hs', he, hstart⟩ | ⟨hs, he, hstart⟩
  -- the next number is the first of a binade
  · have hlow : (RoundingInterval.of ⟨false, n + 1⟩).low = 4 * 2 ^ 52 - 1 := by
      simp only [RoundingInterval.of, hs', hstart, and_self, if_true]
    have hhigh : (RoundingInterval.of ⟨false, n⟩).high = 4 * (2 ^ 53 - 1) + 2 := by
      simp only [RoundingInterval.of]
      omega
    rw [hlow, hhigh, he, add_sub_right_comm, zpow_add₀ (by norm_num), zpow_one]
    norm_num
    ring
  -- it has the next significand and the same exponent
  · have hlow : (RoundingInterval.of ⟨false, n + 1⟩).low =
        4 * Binary64.significand ⟨false, n⟩ + 2 := by
      simp only [RoundingInterval.of, if_neg hstart]
      omega
    rw [hlow, he]
    rfl

theorem low_lt_high (x : Binary64) :
    (RoundingInterval.of x).low * (RoundingInterval.of x).unit <
      (RoundingInterval.of x).high * (RoundingInterval.of x).unit := by
  have hunit : 0 < (RoundingInterval.of x).unit := by rw [unit_of]; positivity
  refine mul_lt_mul_of_pos_right ?_ hunit
  have : (RoundingInterval.of x).low < (RoundingInterval.of x).high :=
    lt_of_le_of_lt (low_of_le x) (by simp [RoundingInterval.of])
  exact_mod_cast this

theorem edge_strictMono : StrictMono edge :=
  strictMono_nat_of_lt_succ fun n => low_succ_eq_edge n ▸ low_lt_high _

theorem closed_of (x : Binary64) : (RoundingInterval.of x).closed = (x.magnitude % 2 == 0) := by
  have h : x.significand % 2 = x.magnitude % 2 := by
    unfold Binary64.significand
    split <;> omega
  simp only [RoundingInterval.of, h]

/-- An interval of a greater magnitude shares at most the edge with that of a magnitude, and one of
the two leaves it out. -/
theorem not_contains_of_lt {a b : ℕ} (hab : a < b) {q : ℚ}
    (ha : (RoundingInterval.of ⟨false, a⟩).Contains q) :
    ¬ (RoundingInterval.of ⟨false, b⟩).Contains q := by
  intro hb
  obtain ⟨c, rfl⟩ : ∃ c, b = c + 1 := ⟨b - 1, by omega⟩
  -- the point is not above the one interval and not below the other, so they are neighbours
  have hle : q ≤ edge a := ha.2.1
  have hge : edge c ≤ q := low_succ_eq_edge c ▸ hb.1
  obtain rfl : a = c := by
    refine le_antisymm (by omega) ?_
    by_contra hlt
    exact absurd (hge.trans hle) (not_le.mpr (edge_strictMono (by omega)))
  -- and then it is the edge between them, which belongs to the even one
  have hq : q = edge a := le_antisymm hle hge
  cases hc : (RoundingInterval.of ⟨false, a⟩).closed with
  | false => exact (ha.2.2 hc).2 hq
  | true =>
    rw [closed_of] at hc
    have hopen : (RoundingInterval.of ⟨false, a + 1⟩).closed = false := by
      rw [closed_of]
      simp only [beq_iff_eq, beq_eq_false_iff_ne] at hc ⊢
      omega
    exact (hb.2.2 hopen).1 (hq.trans (low_succ_eq_edge a).symm)

/-- **A rational number lies in the rounding interval of one magnitude at most.** -/
theorem magnitude_eq_of_contains {x y : Binary64} {q : ℚ}
    (hx : (RoundingInterval.of x).Contains q) (hy : (RoundingInterval.of y).Contains q) :
    x.magnitude = y.magnitude := by
  obtain h | h | h := lt_trichotomy x.magnitude y.magnitude
  · exact absurd hy (not_contains_of_lt h hx)
  · exact h
  · exact absurd hx (not_contains_of_lt h hy)

/-- The rounding interval of a number other than zero has no point below zero, nor zero. -/
theorem pos_of_contains {x : Binary64} (h : x.magnitude ≠ 0) {q : ℚ}
    (hq : (RoundingInterval.of x).Contains q) : 0 < q := by
  have hunit : 0 < (RoundingInterval.of x).unit := by rw [unit_of]; positivity
  have hlow : 0 < (RoundingInterval.of x).low := by
    have := significand_pos x h
    simp only [RoundingInterval.of]
    split <;> omega
  have : (0 : ℚ) < (RoundingInterval.of x).low := by exact_mod_cast hlow
  exact lt_of_lt_of_le (by positivity) hq.1

end Decimal

end CustomFields
