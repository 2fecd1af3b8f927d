import CustomFields.Proofs.Decimal.Shortest

/-!
# Integers as binary64 numbers

The number that an integer is rounded to has the integer in its rounding interval: no other number is
nearer to the integer, and where another one is as near, the number is even. Rounding intervals lie
side by side in the order of their numbers. So rounding never turns the order of two integers round;
all it can do is to make them equal. Up to `2 ^ 53` it does not even do that, since these integers are
numbers of the format themselves.

## Main definitions

* `Decimal.roundedSignificand`: the significand that a natural number is rounded to
* `Decimal.value`: the value of a magnitude
* `Decimal.IsNearest`: a magnitude whose value is nearest to a point

## Main results

* `Decimal.contains_roundRatio_one`: a natural number lies in the interval of its number
* `Decimal.IsNearest.of_contains`: in a rounding interval its number is the nearest one
* `Decimal.roundRatio_one_mono`, `Binary64.key_ofInt_le`: rounding keeps the order
* `Decimal.value_roundRatio_one`, `Binary64.key_ofInt_lt`: up to `2 ^ 53` integers are numbers of the
  format
-/

namespace CustomFields

namespace Decimal

open Binary64 (roundDiv roundRatio floorLog2 infinityMagnitude)

/-! ## Rounding quotients -/

/-- A rounded quotient is off by a half at most, and by a half only if it is even. -/
theorem roundDiv_spec (n : ℕ) {d : ℕ} (hd : 0 < d) :
    2 * (d * roundDiv n d) ≤ 2 * n + d ∧ 2 * n ≤ 2 * (d * roundDiv n d) + d ∧
      (roundDiv n d % 2 = 1 →
        2 * (d * roundDiv n d) < 2 * n + d ∧ 2 * n < 2 * (d * roundDiv n d) + d) := by
  have hdiv := Nat.div_add_mod n d
  have hmod := Nat.mod_lt n hd
  have hsucc : d * (n / d + 1) = d * (n / d) + d := Nat.mul_succ _ _
  simp only [roundDiv]
  -- the remainder is less than a half, more than a half, or a half
  split_ifs
  · omega
  · rw [hsucc]
    omega
  · rcases Nat.mod_two_eq_zero_or_one (n / d) with h | h
    · rw [h, Nat.add_zero]
      omega
    · rw [h, hsucc]
      omega

/-- The same as a fraction. -/
theorem abs_div_sub_roundDiv_le (n : ℕ) {d : ℕ} (hd : 0 < d) :
    |(n / d : ℚ) - roundDiv n d| ≤ 1 / 2 ∧
      (roundDiv n d % 2 = 1 → |(n / d : ℚ) - roundDiv n d| < 1 / 2) := by
  obtain ⟨hbelow, habove, hodd⟩ := roundDiv_spec n hd
  have hd' : (0 : ℚ) < d := by exact_mod_cast hd
  have hfraction : (n / d : ℚ) - roundDiv n d = (2 * n - 2 * (d * roundDiv n d)) / (2 * d) := by
    field_simp
  rw [hfraction, abs_div, abs_of_pos (mul_pos two_pos hd'), div_le_iff₀ (by positivity),
    div_lt_iff₀ (by positivity), abs_le, abs_lt]
  generalize roundDiv n d = r at *
  have hbelow : (2 * (d * r) : ℚ) ≤ 2 * n + d := by exact_mod_cast hbelow
  have habove : (2 * n : ℚ) ≤ 2 * (d * r) + d := by exact_mod_cast habove
  refine ⟨⟨by linarith, by linarith⟩, fun h => ?_⟩
  have hbelow : (2 * (d * r) : ℚ) < 2 * n + d := by exact_mod_cast (hodd h).1
  have habove : (2 * n : ℚ) < 2 * (d * r) + d := by exact_mod_cast (hodd h).2
  exact ⟨by linarith, by linarith⟩

theorem roundDiv_one (n : ℕ) : roundDiv n 1 = n := by
  have hspec := roundDiv_spec n Nat.one_pos
  omega

/-! ## Rounding integers -/

/-- The significand that a natural number is rounded to: its first 53 binary digits. -/
def roundedSignificand (n : ℕ) : ℕ :=
  roundDiv (n * 2 ^ (52 - n.log2)) (2 ^ (n.log2 - 52))

theorem floorLog2_one {n : ℕ} (hn : n ≠ 0) : floorLog2 n 1 = n.log2 := by
  have hpow : 2 ^ n.log2 ≤ n := Nat.log2_self_le hn
  have hone : Nat.log2 1 = 0 := by decide
  simp [floorLog2, hone, Nat.shiftLeft_eq, hpow]

theorem roundRatio_one {n : ℕ} (hn : n ≠ 0) :
    roundRatio n 1 = min ((n.log2 + 1022) * 2 ^ 52 + roundedSignificand n) infinityMagnitude := by
  have hexponent : max ((n.log2 : ℤ) - 52) (-1074) = n.log2 - 52 := by omega
  have hplace : ((n.log2 : ℤ) - 52 + 1074).toNat = n.log2 + 1022 := by omega
  have hup : (-((n.log2 : ℤ) - 52)).toNat = 52 - n.log2 := by omega
  have hdown : ((n.log2 : ℤ) - 52).toNat = n.log2 - 52 := by omega
  simp only [roundRatio, if_neg hn, floorLog2_one hn, hexponent, hplace, hup, hdown,
    Nat.shiftLeft_eq, one_mul, roundedSignificand]

/-- A natural number in units of the last one of its first 53 binary digits. -/
def inUnits (n : ℕ) : ℚ :=
  n / 2 ^ ((n.log2 : ℤ) - 52)

theorem inUnits_mul (n : ℕ) : inUnits n * 2 ^ ((n.log2 : ℤ) - 52) = n :=
  div_mul_cancel₀ _ (by positivity)

theorem inUnits_mem {n : ℕ} (hn : n ≠ 0) : 2 ^ 52 ≤ inUnits n ∧ inUnits n < 2 ^ 53 := by
  have hlow : ((2 ^ n.log2 : ℕ) : ℚ) ≤ n := Nat.cast_le.2 (Nat.log2_self_le hn)
  have hhigh : (n : ℚ) < (2 ^ (n.log2 + 1) : ℕ) := Nat.cast_lt.2 Nat.lt_log2_self
  have hunit : (2 : ℚ) ^ n.log2 = 2 ^ 52 * 2 ^ ((n.log2 : ℤ) - 52) := by
    rw [zpow_sub₀ two_ne_zero, zpow_natCast]
    norm_cast
    field_simp
  push_cast at hlow hhigh
  rw [pow_succ, hunit] at hhigh
  rw [hunit] at hlow
  rw [inUnits, le_div_iff₀ (by positivity), div_lt_iff₀ (by positivity)]
  exact ⟨hlow, by linarith⟩

/-- The rounded significand is off the number in its units by a half at most, and by a half only if it
is even. -/
theorem abs_inUnits_sub_le (n : ℕ) :
    |inUnits n - roundedSignificand n| ≤ 1 / 2 ∧
      (roundedSignificand n % 2 = 1 → |inUnits n - roundedSignificand n| < 1 / 2) := by
  have hunit : (2 : ℚ) ^ ((n.log2 : ℤ) - 52) =
      (2 ^ (n.log2 - 52) : ℕ) / (2 ^ (52 - n.log2) : ℕ) := by
    have hzpow := natCast_zpow 2 ((n.log2 : ℤ) - 52)
    have hdown : ((n.log2 : ℤ) - 52).toNat = n.log2 - 52 := by omega
    have hup : (-((n.log2 : ℤ) - 52)).toNat = 52 - n.log2 := by omega
    rw [hdown, hup] at hzpow
    exact_mod_cast hzpow
  rw [inUnits, hunit, div_div_eq_mul_div, ← Nat.cast_mul]
  exact abs_div_sub_roundDiv_le _ (Nat.two_pow_pos _)

/-- A rounding may carry into the next binade, but no further. -/
theorem roundedSignificand_mem {n : ℕ} (hn : n ≠ 0) :
    2 ^ 52 ≤ roundedSignificand n ∧ roundedSignificand n ≤ 2 ^ 53 := by
  obtain ⟨hlow, hhigh⟩ := inUnits_mem hn
  obtain ⟨hbelow, habove⟩ := abs_le.1 (abs_inUnits_sub_le n).1
  have hlow' : ((2 ^ 52 : ℕ) : ℚ) < (roundedSignificand n + 1 : ℕ) := by
    push_cast
    linarith
  have hhigh' : (roundedSignificand n : ℚ) < (2 ^ 53 + 1 : ℕ) := by
    push_cast
    linarith
  exact ⟨Nat.le_of_lt_succ (Nat.cast_lt.1 hlow'), Nat.le_of_lt_succ (Nat.cast_lt.1 hhigh')⟩

theorem log2_le_of_lt {n : ℕ} (hn : n ≠ 0) (h : n < 2 ^ 64) : n.log2 ≤ 63 :=
  Nat.le_of_lt_succ ((Nat.log2_lt hn).2 h)

/-- An integer of 64 bits does not come near the limit of the format. -/
theorem roundRatio_one_of_lt {n : ℕ} (hn : n ≠ 0) (h : n < 2 ^ 64) :
    roundRatio n 1 = (n.log2 + 1022) * 2 ^ 52 + roundedSignificand n := by
  have hlog := log2_le_of_lt hn h
  have hsignificand := (roundedSignificand_mem hn).2
  rw [roundRatio_one hn, infinityMagnitude]
  omega

/-! ## The nearest number -/

/-- A point that is off the significand of a number by a half of its unit at most lies in its
rounding interval. Below the first significand of a binade the numbers lie closer. -/
theorem contains_of_dist {x : Binary64} {t : ℚ} (hpos : 0 ≤ t)
    (hle : |t - x.significand| ≤ 1 / 2)
    (hodd : x.significand % 2 = 1 → |t - x.significand| < 1 / 2)
    (hstart : x.significand = 2 ^ 52 → x.significand - 1 / 4 ≤ t) :
    (RoundingInterval.of x).Contains (t * 2 ^ x.exponent) := by
  have hunit : (RoundingInterval.of x).unit = 2 ^ x.exponent / 4 := by
    rw [unit_of, zpow_sub₀ two_ne_zero]
    norm_num
  have hscale : (0 : ℚ) < 2 ^ x.exponent / 4 := by positivity
  have hpoint : t * 2 ^ x.exponent = 4 * t * (2 ^ x.exponent / 4) := by ring
  have hhigh : ((RoundingInterval.of x).high : ℚ) = 4 * x.significand + 2 := by
    simp [RoundingInterval.of]
  rw [abs_le] at hle
  rw [RoundingInterval.Contains, hunit, hpoint, hhigh]
  refine ⟨mul_le_mul_of_nonneg_right ?_ hscale.le, mul_le_mul_of_nonneg_right ?_ hscale.le,
    fun hopen => ?_⟩
  · simp only [RoundingInterval.of]
    split_ifs with h
    · have hcast : ((4 * x.significand - 1 : ℕ) : ℚ) = 4 * x.significand - 1 := by
        rw [h.1]
        norm_num
      linarith [hstart h.1]
    · rcases Nat.eq_zero_or_pos x.significand with hzero | hsignificand
      · rw [hzero]
        simpa using hpos
      · rw [Nat.cast_sub (by omega)]
        push_cast
        linarith
  · linarith
  -- the bounds of an odd significand are a half away on both sides
  · have hone : x.significand % 2 = 1 := by simpa [RoundingInterval.of] using hopen
    have hlow : ((RoundingInterval.of x).low : ℚ) = 4 * x.significand - 2 := by
      simp only [RoundingInterval.of]
      rw [if_neg (by omega), Nat.cast_sub (by omega)]
      push_cast
      ring
    have hlt := abs_lt.1 (hodd hone)
    rw [hlow]
    exact ⟨fun h => by linarith [mul_right_cancel₀ hscale.ne' h],
      fun h => by linarith [mul_right_cancel₀ hscale.ne' h]⟩

/-- The significand and the exponent that a natural number is rounded to, where the rounding does
not carry into the next binade. -/
theorem parts_roundRatio_one {n : ℕ} (hn : n ≠ 0) (h : n < 2 ^ 64) (negative : Bool) :
    let x : Binary64 := ⟨negative, roundRatio n 1⟩
    if roundedSignificand n < 2 ^ 53 then
      x.significand = roundedSignificand n ∧ x.exponent = n.log2 - 52
    else x.significand = 2 ^ 52 ∧ x.exponent = n.log2 - 51 := by
  have hmem := roundedSignificand_mem hn
  simp only [Binary64.significand, Binary64.exponent, roundRatio_one_of_lt hn h]
  split_ifs <;> omega

/-- **A natural number lies in the rounding interval of the number that it is rounded to.** -/
theorem contains_roundRatio_one {n : ℕ} (h : n < 2 ^ 64) (negative : Bool) :
    (RoundingInterval.of ⟨negative, roundRatio n 1⟩).Contains n := by
  obtain ⟨x, hx⟩ : ∃ x : Binary64, x = ⟨negative, roundRatio n 1⟩ := ⟨_, rfl⟩
  rw [← hx]
  rcases eq_or_ne n 0 with rfl | hn
  · have hsignificand : x.significand = 0 := by rw [hx]; rfl
    have hzero : ((0 : ℕ) : ℚ) = 0 * 2 ^ x.exponent := by simp
    rw [hzero]
    exact contains_of_dist le_rfl (by simp [hsignificand]) (by simp [hsignificand])
      (by simp [hsignificand])
  have hparts := parts_roundRatio_one hn h negative
  simp only [← hx] at hparts
  have hunits := inUnits_mem hn
  have hpos : 0 ≤ inUnits n := le_trans (by norm_num) hunits.1
  obtain ⟨hle, hodd⟩ := abs_inUnits_sub_le n
  split_ifs at hparts with hcarry
  · obtain ⟨hsignificand, hexponent⟩ := hparts
    rw [← inUnits_mul, ← hexponent]
    rw [← hsignificand] at hle hodd
    refine contains_of_dist hpos hle hodd fun hstart => ?_
    rw [hstart]
    push_cast
    linarith
  -- the unit of the next binade is twice as large
  · obtain ⟨hsignificand, hexponent⟩ := hparts
    have hmax : roundedSignificand n = 2 ^ 53 :=
      le_antisymm (roundedSignificand_mem hn).2 (not_lt.1 hcarry)
    have hscale : inUnits n / 2 * 2 ^ x.exponent = n := by
      have hnext : (n.log2 : ℤ) - 51 = n.log2 - 52 + 1 := by ring
      rw [hexponent, hnext, zpow_add₀ two_ne_zero, zpow_one, ← inUnits_mul n]
      ring
    rw [hmax] at hle
    rw [← hscale]
    push_cast at hle
    obtain ⟨hbelow, -⟩ := abs_le.1 hle
    have hdist : |inUnits n / 2 - x.significand| < 1 / 2 := by
      rw [hsignificand, abs_lt]
      push_cast
      exact ⟨by linarith, by linarith⟩
    refine contains_of_dist (by positivity) hdist.le (fun _ => hdist) fun _ => ?_
    rw [hsignificand]
    push_cast
    linarith

/-! ## Values -/

/-- The value of a magnitude. -/
def value (k : ℕ) : ℚ :=
  Binary64.significand ⟨false, k⟩ * 2 ^ Binary64.exponent ⟨false, k⟩

/-- A magnitude whose value is nearest to a point; of two it is the even one. -/
structure IsNearest (k : ℕ) (q : ℚ) : Prop where
  le : ∀ j, |q - value k| ≤ |q - value j|
  even_of_eq : ∀ j ≠ k, |q - value k| = |q - value j| → k % 2 = 0

/-- The edge of two magnitudes lies half a unit above the lower one. -/
theorem edge_eq (k : ℕ) : edge k = value k + 2 ^ Binary64.exponent ⟨false, k⟩ / 2 := by
  rw [edge, value, unit_of, zpow_sub₀ two_ne_zero]
  simp only [RoundingInterval.of]
  push_cast
  ring

/-- The next magnitude is a unit larger. -/
theorem value_succ (k : ℕ) : value (k + 1) = value k + 2 ^ Binary64.exponent ⟨false, k⟩ := by
  simp only [value]
  rcases parts_succ k with ⟨hs, hs', he, -⟩ | ⟨hs, he, -⟩
  · have hlast : (Binary64.significand ⟨false, k⟩ : ℚ) = 2 ^ 53 - 1 := by
      rw [eq_sub_iff_add_eq]
      exact_mod_cast hs
    rw [hlast, hs', he, zpow_add₀ two_ne_zero]
    push_cast
    ring
  · rw [hs, he]
    push_cast
    ring

theorem value_strictMono : StrictMono value :=
  strictMono_nat_of_lt_succ fun k => by
    rw [value_succ]
    exact lt_add_of_pos_right _ (by positivity)

/-- An edge lies half way between two magnitudes that follow each other. -/
theorem edge_eq_midpoint (k : ℕ) : edge k = (value k + value (k + 1)) / 2 := by
  rw [edge_eq, value_succ]
  ring

/-- A point that does not lie beyond the middle between two values is nearer to the first. -/
theorem abs_sub_le_abs_sub {v w q : ℚ} (h : 0 ≤ (v - w) * (q - (v + w) / 2)) :
    |q - v| ≤ |q - w| := by
  rw [← sq_le_sq]
  linarith

theorem abs_sub_lt_abs_sub {v w q : ℚ} (h : 0 < (v - w) * (q - (v + w) / 2)) :
    |q - v| < |q - w| := by
  rw [← sq_lt_sq]
  linarith

/-- No value above is nearer than that of a magnitude up to its edge, and below the edge none is as
near. -/
theorem abs_sub_value_le_of_lt {j k : ℕ} (hj : k < j) {q : ℚ} (h : q ≤ edge k) :
    |q - value k| ≤ |q - value j| ∧ (q ≠ edge k → |q - value k| < |q - value j|) := by
  have hvalue : value k < value j := value_strictMono hj
  have hmid : edge k ≤ (value k + value j) / 2 := by
    rw [edge_eq_midpoint]
    linarith [value_strictMono.monotone (Nat.succ_le_of_lt hj)]
  refine ⟨abs_sub_le_abs_sub ?_, fun hne => abs_sub_lt_abs_sub ?_⟩
  · exact mul_nonneg_of_nonpos_of_nonpos (by linarith) (by linarith)
  · exact mul_pos_of_neg_of_neg (by linarith) (by linarith [lt_of_le_of_ne h hne])

/-- No value below is nearer than that of a magnitude down to its edge. -/
theorem abs_sub_value_le_of_gt {j k : ℕ} (hj : j < k + 1) {q : ℚ} (h : edge k ≤ q) :
    |q - value (k + 1)| ≤ |q - value j| ∧
      (q ≠ edge k → |q - value (k + 1)| < |q - value j|) := by
  have hvalue : value j < value (k + 1) := value_strictMono hj
  have hmid : (value j + value (k + 1)) / 2 ≤ edge k := by
    rw [edge_eq_midpoint]
    linarith [value_strictMono.monotone (Nat.le_of_lt_succ hj)]
  refine ⟨abs_sub_le_abs_sub ?_, fun hne => abs_sub_lt_abs_sub ?_⟩
  · exact mul_nonneg (by linarith) (by linarith)
  · exact mul_pos (by linarith) (by linarith [lt_of_le_of_ne h hne.symm])

/-- **In a rounding interval its number is the nearest one.** -/
theorem IsNearest.of_contains {x : Binary64} {q : ℚ} (h : (RoundingInterval.of x).Contains q) :
    IsNearest x.magnitude q := by
  obtain ⟨negative, k⟩ := x
  obtain ⟨hlow, hhigh, hopen⟩ := h
  -- an odd number leaves the edges of its interval out
  rw [closed_of, beq_eq_false_iff_ne] at hopen
  have hfar (j : ℕ) (hj : j ≠ k) : |q - value k| ≤ |q - value j| ∧
      (k % 2 ≠ 0 → |q - value k| < |q - value j|) := by
    rcases Nat.lt_or_gt_of_ne hj with hlt | hgt
    · obtain ⟨k, rfl⟩ : ∃ k', k = k' + 1 := ⟨k - 1, by omega⟩
      have hedge := low_succ_eq_edge k
      obtain ⟨hle, hstrict⟩ := abs_sub_value_le_of_gt hlt (hedge ▸ hlow)
      exact ⟨hle, fun hk => hstrict (hedge ▸ (hopen hk).1)⟩
    · obtain ⟨hle, hstrict⟩ := abs_sub_value_le_of_lt hgt hhigh
      exact ⟨hle, fun hk => hstrict (hopen hk).2⟩
  refine ⟨fun j => ?_, fun j hj heq => ?_⟩
  · rcases eq_or_ne j k with rfl | hj
    · exact le_rfl
    · exact (hfar j hj).1
  · by_contra hk
    exact absurd heq ((hfar j hj).2 hk).ne

/-! ## The order of integers -/

/-- The intervals of two numbers lie side by side. -/
theorem le_of_contains_of_lt {x y : Binary64} (h : x.magnitude < y.magnitude) {p q : ℚ}
    (hp : (RoundingInterval.of x).Contains p) (hq : (RoundingInterval.of y).Contains q) :
    p ≤ q := by
  obtain ⟨k, hk⟩ : ∃ k, y.magnitude = k + 1 := ⟨y.magnitude - 1, by omega⟩
  obtain ⟨negative, _⟩ := y
  obtain rfl := hk
  calc p ≤ edge x.magnitude := hp.2.1
    _ ≤ edge k := edge_strictMono.monotone (Nat.le_of_lt_succ h)
    _ ≤ q := low_succ_eq_edge k ▸ hq.1

/-- **Rounding keeps the order** of natural numbers. -/
theorem roundRatio_one_mono {m n : ℕ} (hle : m ≤ n) (hn : n < 2 ^ 64) :
    roundRatio m 1 ≤ roundRatio n 1 := by
  by_contra hlt
  have hm := contains_roundRatio_one (hle.trans_lt hn) false
  have hnm : (n : ℚ) ≤ m := le_of_contains_of_lt (not_le.1 hlt) (contains_roundRatio_one hn false) hm
  obtain rfl : m = n := le_antisymm hle (Nat.cast_le.1 hnm)
  exact hlt le_rfl

/-- Nothing is cut off an integer of 53 binary digits, nor off the next power of two. -/
theorem roundedSignificand_eq_inUnits {n : ℕ} (hn : n ≠ 0) (h : n ≤ 2 ^ 53) :
    (roundedSignificand n : ℚ) = inUnits n := by
  rcases h.lt_or_eq with hlt | rfl
  · have hlog : n.log2 ≤ 52 := Nat.le_of_lt_succ ((Nat.log2_lt hn).2 hlt)
    have hexponent : (n.log2 : ℤ) - 52 = -((52 - n.log2 : ℕ) : ℤ) := by omega
    rw [roundedSignificand, Nat.sub_eq_zero_of_le hlog, pow_zero, roundDiv_one, inUnits, hexponent,
      zpow_neg, div_inv_eq_mul, zpow_natCast]
    push_cast
    rfl
  · have hround : roundedSignificand (2 ^ 53) = 2 ^ 52 := by
      rw [roundedSignificand, Nat.log2_two_pow]
      decide
    rw [hround, inUnits, Nat.log2_two_pow]
    norm_num

/-- **Integers up to `2 ^ 53` are numbers of the format.** -/
theorem value_roundRatio_one {n : ℕ} (h : n ≤ 2 ^ 53) : value (roundRatio n 1) = n := by
  rcases eq_or_ne n 0 with rfl | hn
  · have hzero : Binary64.significand ⟨false, roundRatio 0 1⟩ = 0 := rfl
    rw [value, hzero, Nat.cast_zero, zero_mul]
  have hexact := roundedSignificand_eq_inUnits hn h
  have hcarry : roundedSignificand n < 2 ^ 53 := by
    have hlt := (inUnits_mem hn).2
    rw [← hexact] at hlt
    exact_mod_cast hlt
  have hparts := parts_roundRatio_one hn (h.trans_lt (by norm_num)) false
  rw [if_pos hcarry] at hparts
  rw [value, hparts.1, hparts.2, hexact, inUnits_mul]

/-- Up to `2 ^ 53` no two integers are rounded to one number. -/
theorem roundRatio_one_strictMono {m n : ℕ} (hlt : m < n) (hn : n ≤ 2 ^ 53) :
    roundRatio m 1 < roundRatio n 1 := by
  rw [← value_strictMono.lt_iff_lt, value_roundRatio_one (hlt.le.trans hn), value_roundRatio_one hn]
  exact_mod_cast hlt

end Decimal

/-! ## Signs -/

namespace Binary64

/-- No integer is rounded to what is not a number. -/
theorem isNotANumber_ofInt (a : ℤ) : (ofInt a).isNotANumber = false := by
  have hle : roundRatio a.natAbs 1 ≤ infinityMagnitude := by
    rcases eq_or_ne a.natAbs 0 with h | h
    · rw [h]
      exact Nat.zero_le _
    · rw [Decimal.roundRatio_one h]
      exact min_le_right _ _
  exact decide_eq_false (not_lt.2 hle)

/-- An integer of 64 bits is rounded to a finite number. -/
theorem isFinite_ofInt {a : ℤ} (h : a.natAbs < 2 ^ 64) : (ofInt a).isFinite = true := by
  have hlt : roundRatio a.natAbs 1 < infinityMagnitude := by
    rcases eq_or_ne a.natAbs 0 with hzero | hne
    · rw [hzero]
      decide
    · have hlog := Decimal.log2_le_of_lt hne h
      have hsignificand := (Decimal.roundedSignificand_mem hne).2
      rw [Decimal.roundRatio_one_of_lt hne h, infinityMagnitude]
      omega
  exact decide_eq_true hlt

theorem key_ofInt (a : ℤ) :
    (ofInt a).key = if a < 0 then -(roundRatio a.natAbs 1 : ℤ) else roundRatio a.natAbs 1 := by
  simp [key, ofInt]

/-- **Rounding keeps the order** of integers. -/
theorem key_ofInt_le {a b : ℤ} (h : a ≤ b) (ha : a.natAbs < 2 ^ 64) (hb : b.natAbs < 2 ^ 64) :
    (ofInt a).key ≤ (ofInt b).key := by
  rw [key_ofInt, key_ofInt]
  split_ifs with hna hnb
  · have hmono := Decimal.roundRatio_one_mono (by omega : b.natAbs ≤ a.natAbs) ha
    omega
  · omega
  · omega
  · have hmono := Decimal.roundRatio_one_mono (by omega : a.natAbs ≤ b.natAbs) hb
    omega

/-- Integers up to `2 ^ 53` stay apart. -/
theorem key_ofInt_lt {a b : ℤ} (h : a < b) (ha : a.natAbs ≤ 2 ^ 53) (hb : b.natAbs ≤ 2 ^ 53) :
    (ofInt a).key < (ofInt b).key := by
  have hzero : roundRatio 0 1 = 0 := rfl
  rw [key_ofInt, key_ofInt]
  split_ifs with hna hnb
  · have hmono := Decimal.roundRatio_one_strictMono (by omega : b.natAbs < a.natAbs) ha
    omega
  · have hmono := Decimal.roundRatio_one_strictMono (by omega : 0 < a.natAbs) ha
    omega
  · omega
  · have hmono := Decimal.roundRatio_one_strictMono (by omega : a.natAbs < b.natAbs) hb
    omega

end Binary64

end CustomFields
