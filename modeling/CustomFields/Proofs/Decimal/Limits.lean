import CustomFields.Proofs.Decimal.Integers

/-!
# Which results are finite

A quotient is rounded to infinity only if it is at least the edge of the largest number of the format.
So a product or a quotient of two numbers is finite if its exact value stays below this limit, however
large the error of the rounding is.

## Main definitions

* `limit`: the least point that is rounded to infinity

## Main results

* `roundRatio_lt_infinity`: what lies below the limit is rounded to a finite number
* `isFinite_mul`, `isFinite_div`: results whose exact values stay below it
-/

namespace CustomFields.Decimal

open Binary64 (roundDiv roundRatio floorLog2 infinityMagnitude)

/-! ## The leading binary digit of a quotient -/

section

variable {n d : ℕ}

/-- The test of `floorLog2`, as a comparison of numbers. -/
theorem two_zpow_le_div_iff (hd : d ≠ 0) (e : ℤ) :
    (2 : ℚ) ^ e ≤ n / d ↔ d <<< e.toNat ≤ n <<< (-e).toNat := by
  have hd' : (0 : ℚ) < d := by exact_mod_cast Nat.pos_of_ne_zero hd
  have hpow : (0 : ℚ) < (2 ^ (-e).toNat : ℕ) := by positivity
  have hzpow := natCast_zpow 2 e
  rw [Nat.cast_ofNat] at hzpow
  rw [hzpow, div_le_div_iff₀ hpow hd', Nat.shiftLeft_eq, Nat.shiftLeft_eq, mul_comm]
  norm_cast

variable (hn : n ≠ 0) (hd : d ≠ 0)

include hn hd

/-- The numbers of digits say a quotient up to a factor of two. -/
theorem div_mem_log2 :
    (2 : ℚ) ^ ((n.log2 : ℤ) - d.log2 - 1) ≤ n / d ∧ (n / d : ℚ) < 2 ^ ((n.log2 : ℤ) - d.log2 + 1) := by
  have hd' : (0 : ℚ) < d := by exact_mod_cast Nat.pos_of_ne_zero hd
  have hnlow : ((2 ^ n.log2 : ℕ) : ℚ) ≤ n := Nat.cast_le.2 (Nat.log2_self_le hn)
  have hnhigh : (n : ℚ) < (2 ^ (n.log2 + 1) : ℕ) := Nat.cast_lt.2 Nat.lt_log2_self
  have hdlow : ((2 ^ d.log2 : ℕ) : ℚ) ≤ d := Nat.cast_le.2 (Nat.log2_self_le hd)
  have hdhigh : (d : ℚ) < (2 ^ (d.log2 + 1) : ℕ) := Nat.cast_lt.2 Nat.lt_log2_self
  push_cast at hnlow hnhigh hdlow hdhigh
  constructor
  · rw [le_div_iff₀ hd']
    calc (2 : ℚ) ^ ((n.log2 : ℤ) - d.log2 - 1) * d
        ≤ 2 ^ ((n.log2 : ℤ) - d.log2 - 1) * 2 ^ (d.log2 + 1) :=
          mul_le_mul_of_nonneg_left hdhigh.le (by positivity)
      _ = 2 ^ n.log2 := by
          rw [← zpow_natCast, ← zpow_natCast, ← zpow_add₀ two_ne_zero]
          congr 1
          push_cast
          ring
      _ ≤ n := hnlow
  · rw [div_lt_iff₀ hd']
    calc (n : ℚ) < 2 ^ (n.log2 + 1) := hnhigh
      _ = 2 ^ ((n.log2 : ℤ) - d.log2 + 1) * 2 ^ d.log2 := by
          rw [← zpow_natCast, ← zpow_natCast, ← zpow_add₀ two_ne_zero]
          congr 1
          push_cast
          ring
      _ ≤ 2 ^ ((n.log2 : ℤ) - d.log2 + 1) * d :=
          mul_le_mul_of_nonneg_left hdlow (by positivity)

theorem two_zpow_floorLog2_le : (2 : ℚ) ^ floorLog2 n d ≤ n / d := by
  simp only [floorLog2]
  split_ifs with h
  · exact (two_zpow_le_div_iff hd _).2 h
  · exact (div_mem_log2 hn hd).1

theorem lt_two_zpow_floorLog2 : (n / d : ℚ) < 2 ^ (floorLog2 n d + 1) := by
  simp only [floorLog2]
  split_ifs with h
  · exact (div_mem_log2 hn hd).2
  · rw [sub_add_cancel]
    exact not_le.1 fun hle => h ((two_zpow_le_div_iff hd _).1 hle)

end

/-! ## The limit of the format -/

/-- The least point that is rounded to infinity: the edge of the largest number of the format. -/
def limit : ℚ :=
  (2 ^ 54 - 1) * 2 ^ 970

theorem limit_lt : limit < 2 ^ 1024 := by
  have hpow : (2 : ℚ) ^ 1024 = 2 ^ 54 * 2 ^ 970 := by rw [← pow_add]
  rw [limit, hpow]
  exact mul_lt_mul_of_pos_right (by norm_num) (by positivity)

/-- The unit of the last binade. -/
theorem last_unit : (2 : ℚ) ^ (971 : ℤ) = 2 * 2 ^ 970 := by
  rw [← zpow_natCast, mul_comm, ← zpow_add_one₀ two_ne_zero]
  rfl

/-- Finite numbers lie below the limit. -/
theorem value_lt_limit {k : ℕ} (h : k < infinityMagnitude) : value k < limit := by
  have hlast : value 0x7FEFFFFFFFFFFFFF < limit := by
    have hsignificand : Binary64.significand ⟨false, 0x7FEFFFFFFFFFFFFF⟩ = 2 ^ 53 - 1 := by decide
    have hexponent : Binary64.exponent ⟨false, 0x7FEFFFFFFFFFFFFF⟩ = 971 := by decide
    rw [value, hsignificand, hexponent, last_unit, limit, ← mul_assoc]
    exact mul_lt_mul_of_pos_right (by norm_num) (by positivity)
  exact (value_strictMono.monotone (Nat.le_of_lt_succ h)).trans_lt hlast

/-- A quotient counted in units of a power of two. -/
theorem shiftLeft_div_shiftLeft (n d : ℕ) (q : ℤ) :
    ((n <<< (-q).toNat : ℕ) : ℚ) / (d <<< q.toNat : ℕ) = n / d / 2 ^ q := by
  have hzpow := natCast_zpow 2 q
  rw [Nat.cast_ofNat] at hzpow
  rw [hzpow, Nat.shiftLeft_eq, Nat.shiftLeft_eq, div_div_div_eq]
  push_cast
  rfl

theorem shiftLeft_ne_zero {n : ℕ} (hn : n ≠ 0) (k : ℕ) : n <<< k ≠ 0 := by
  rw [Nat.shiftLeft_eq]
  exact Nat.mul_ne_zero hn (Nat.two_pow_pos k).ne'

/-- **What lies below the limit is rounded to a finite number.** -/
theorem roundRatio_lt_infinity {n d : ℕ} (hd : d ≠ 0) (h : (n / d : ℚ) < limit) :
    roundRatio n d < infinityMagnitude := by
  rcases eq_or_ne n 0 with rfl | hn
  · exact of_decide_eq_true rfl
  have hhigh := lt_two_zpow_floorLog2 hn hd
  have hexponent : floorLog2 n d < 1024 := by
    have hpow : (2 : ℚ) ^ floorLog2 n d < 2 ^ ((1024 : ℕ) : ℤ) := by
      rw [zpow_natCast]
      exact ((two_zpow_floorLog2_le hn hd).trans_lt h).trans limit_lt
    exact (zpow_lt_zpow_iff_right₀ one_lt_two).1 hpow
  simp only [roundRatio, if_neg hn]
  obtain ⟨q, hq⟩ : ∃ q, q = max (floorLog2 n d - 52) (-1074) := ⟨_, rfl⟩
  rw [← hq]
  have hround := (abs_div_sub_roundDiv_le (n <<< (-q).toNat)
    (Nat.pos_of_ne_zero (shiftLeft_ne_zero hd q.toNat))).1
  rw [shiftLeft_div_shiftLeft, abs_le] at hround
  generalize roundDiv (n <<< (-q).toNat) (d <<< q.toNat) = m at hround
  have hunit : (0 : ℚ) < 2 ^ q := by positivity
  rw [infinityMagnitude]
  by_cases htop : q = 971
  · -- in the last binade the limit lies half a unit below the next power of two
    have hbound : (n / d / 2 ^ q : ℚ) < 2 ^ 53 - 1 / 2 := by
      have hlimit : limit = (2 ^ 53 - 1 / 2) * 2 ^ q := by
        rw [limit, htop, last_unit, ← mul_assoc]
        congr 1
        norm_num
      rw [div_lt_iff₀ hunit, ← hlimit]
      exact h
    have hm : (m : ℚ) < (2 ^ 53 : ℕ) := by
      push_cast
      linarith
    have hm' := Nat.cast_lt.1 hm
    omega
  · have hbound : (n / d / 2 ^ q : ℚ) < 2 ^ 53 := by
      rw [div_lt_iff₀ hunit, ← zpow_natCast, ← zpow_add₀ two_ne_zero]
      refine hhigh.trans_le (zpow_le_zpow_right₀ one_le_two ?_)
      push_cast
      omega
    have hm : (m : ℚ) < (2 ^ 53 + 1 : ℕ) := by
      push_cast
      linarith
    have hm' := Nat.cast_lt.1 hm
    omega

/-- No quotient is rounded to what is not a number. -/
theorem roundRatio_le_infinity (n d : ℕ) : roundRatio n d ≤ infinityMagnitude := by
  unfold roundRatio
  split_ifs
  · exact Nat.zero_le _
  · exact min_le_right _ _

/-! ## Products and quotients -/

/-- The value of a number without its sign. -/
theorem value_magnitude (x : Binary64) :
    value x.magnitude = x.significand * (2 : ℚ) ^ x.exponent := rfl

/-- A product is finite if its exact value lies below the limit. -/
theorem isFinite_mul {x y : Binary64} (h : value x.magnitude * value y.magnitude < limit) :
    (x.mul y).isFinite = true := by
  refine decide_eq_true (roundRatio_lt_infinity (shiftLeft_ne_zero one_ne_zero _) ?_)
  have hquotient := shiftLeft_div_shiftLeft (x.significand * y.significand) 1
    (-(x.exponent + y.exponent))
  rw [neg_neg] at hquotient
  rw [hquotient, zpow_neg, zpow_add₀ two_ne_zero]
  refine lt_of_eq_of_lt ?_ h
  rw [value_magnitude, value_magnitude]
  push_cast
  field_simp

/-- Whether the exact product of two numbers lies below the limit, in whole numbers. -/
def productFits (x y : Binary64) : Bool :=
  x.significand * y.significand * 2 ^ (x.exponent + y.exponent).toNat <
    (2 ^ 54 - 1) * 2 ^ 970 * 2 ^ (-(x.exponent + y.exponent)).toNat

theorem productFits_iff {x y : Binary64} :
    productFits x y = true ↔ value x.magnitude * value y.magnitude < limit := by
  have hproduct : value x.magnitude * value y.magnitude =
      (x.significand * y.significand : ℕ) * (2 : ℚ) ^ (x.exponent + y.exponent) := by
    rw [value_magnitude, value_magnitude, zpow_add₀ two_ne_zero]
    push_cast
    ring
  have hlimit : limit = ((2 ^ 54 - 1) * 2 ^ 970 : ℕ) := by
    rw [limit, Nat.cast_mul, Nat.cast_pow, Nat.cast_ofNat]
    norm_num
  have hzpow := natCast_zpow 2 (x.exponent + y.exponent)
  rw [Nat.cast_ofNat] at hzpow
  have hpos : (0 : ℚ) < (2 ^ (-(x.exponent + y.exponent)).toNat : ℕ) := by positivity
  rw [hproduct, hzpow, mul_div_assoc', div_lt_iff₀ hpos, hlimit, ← Nat.cast_mul, ← Nat.cast_mul,
    Nat.cast_lt, productFits, decide_eq_true_iff]

/-- So is a quotient, if the number is finite that is divided and the other one is not less than
one. -/
theorem isFinite_div {x y : Binary64} (hx : x.isFinite = true) (hy : 1 ≤ value y.magnitude) :
    (x.div y).isFinite = true := by
  have hsignificand : y.significand ≠ 0 := by
    intro hzero
    rw [value_magnitude, hzero, Nat.cast_zero, zero_mul] at hy
    exact absurd hy (by norm_num)
  refine decide_eq_true (roundRatio_lt_infinity (shiftLeft_ne_zero hsignificand _) ?_)
  have hquotient := shiftLeft_div_shiftLeft x.significand y.significand (-(x.exponent - y.exponent))
  rw [neg_neg] at hquotient
  have hvalue : (x.significand / y.significand / 2 ^ (-(x.exponent - y.exponent)) : ℚ) =
      value x.magnitude / value y.magnitude := by
    rw [value_magnitude, value_magnitude, zpow_neg, zpow_sub₀ two_ne_zero]
    field_simp
  rw [hquotient, hvalue]
  have hpos : 0 ≤ value x.magnitude := by
    rw [value_magnitude]
    positivity
  exact (div_le_self hpos hy).trans_lt (value_lt_limit (of_decide_eq_true hx))

end CustomFields.Decimal
