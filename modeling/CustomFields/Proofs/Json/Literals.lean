import CustomFields.Proofs.Decimal.Limits
import CustomFields.Proofs.Json.Reader

/-!
# Numbers that literals have

The reader of literals collects the leading digits and rounds twice, so that it may take the text of
a binary64 number for a neighbour of it. It always finds a number there, though. A literal has none only
where it is too large for the format. The text of the largest number is read as a number, and that of
any other one stands for a point up to the edge of the two largest numbers: so far below the limit of
the format two roundings do not reach it, as a check of the largest significand for each power of ten
shows.

An integer of the 64-bit ranges is read as itself: its digits are collected without a loss, as long as
what has been collected is less than `2 ^ 64`, and what is collected only grows.

## Main definitions

* `Number.IsProper`: the numbers of JSON values, integers of 64 bits and finite binary64 numbers
* `Number.reread`: what the text of a number is read as
* `Number.IsKept`: a number that is read back from its text
* `Significand.Keeps`: what is kept of some digits fits, and is no more than they stand for

## Main results

* `NumberLiteral.isProper_of_number?`: literals have proper numbers only
* `NumberLiteral.StandsFor.exists_number?`: a literal that is not too large has a number
* `Number.tree_of_isProper`: the text of a proper number is read as a number
* `Number.tree_of_isKept`: the text of a kept number is read as that number
-/

namespace CustomFields.Json

open Binary64 (infinityMagnitude roundRatio)
open Decimal (value limit exponentValue)

/-! ## Integers -/

namespace Significand

theorem pushInteger_eq (s : Significand) (c : Char) :
    s.pushInteger c =
      if s.full || maximum < s.value * 10 + (c.toNat - '0'.toNat) then
        ⟨s.value, s.exponent + 1, true⟩
      else ⟨s.value * 10 + (c.toNat - '0'.toNat), s.exponent, false⟩ := rfl

/-- Digits are collected without a loss if they fit. -/
theorem foldl_pushInteger {ds : List Char} {v : ℕ} {e : ℤ}
    (h : Nat.ofDigitChars 10 ds v ≤ maximum) :
    ds.foldl pushInteger ⟨v, e, false⟩ = ⟨Nat.ofDigitChars 10 ds v, e, false⟩ := by
  induction ds generalizing v with
  | nil => rfl
  | cons c cs ih =>
    rw [Nat.ofDigitChars_cons, Nat.mul_comm] at h ⊢
    -- what has been collected is at most what will be
    have hfits : v * 10 + (c.toNat - '0'.toNat) ≤ maximum := by
      refine le_trans ?_ h
      rw [Nat.ofDigitChars_eq_ofDigitChars_zero]
      exact le_trans (Nat.le_mul_of_pos_left _ (Nat.pow_pos (by decide))) (Nat.le_add_right _ _)
    have hpush : pushInteger ⟨v, e, false⟩ c = ⟨v * 10 + (c.toNat - '0'.toNat), e, false⟩ := by
      rw [pushInteger_eq, decide_eq_false (Nat.not_lt.2 hfits)]
      rfl
    rw [List.foldl_cons, hpush, ih h]

theorem ofInteger_toDigits {n : ℕ} (h : n ≤ maximum) :
    ofInteger (Nat.toDigits 10 n) = ⟨n, 0, false⟩ := by
  have hdigits := Nat.ofDigitChars_ten_toDigits (n := n)
  rw [ofInteger, foldl_pushInteger (hdigits.symm ▸ h), hdigits]

end Significand

/-- The text of an integer is read as a sign and the digits of its absolute value. -/
theorem NumberLiteral.read_integer (n : ℤ) :
    read (Number.chars (.integer n)) =
      some (⟨decide (n < 0), Nat.toDigits 10 n.natAbs, none, none⟩, []) := by
  have hwhole := isWhole_toDigits n.natAbs
  have hread : readUnsigned (decide (n < 0)) (Nat.toDigits 10 n.natAbs ++ []) =
      some (⟨decide (n < 0), Nat.toDigits 10 n.natAbs, none, none⟩, []) :=
    readUnsigned_whole (decide (n < 0)) hwhole (by simp [Stops])
  obtain ⟨c, ds, hc⟩ := List.exists_cons_of_ne_nil hwhole.ne_nil
  rw [List.append_nil] at hread
  rw [← hread, ← read_signed (decide (n < 0)) ⟨c, ds, hc, hwhole.digits c (hc ▸ List.mem_cons_self)⟩,
    Number.chars]
  by_cases hn : n < 0 <;> simp [hn]

/-- An integer of the 64-bit ranges is read back from its text. -/
theorem Number.tree_integer {n : ℤ} (hl : -2 ^ 63 ≤ n) (hu : n < 2 ^ 64) :
    Number.tree (.integer n) = .number (.integer n) := by
  have hmax : Significand.maximum = 2 ^ 64 - 1 := rfl
  have hfits : n.natAbs ≤ Significand.maximum := by omega
  rw [Number.tree, NumberLiteral.read_integer]
  simp only [Option.bind_some, NumberLiteral.number?, Significand.ofInteger_toDigits hfits,
    Bool.false_eq_true, if_false]
  by_cases hn : n < 0
  · -- a minus sign in front of zero, or of what is too large, would make a binary64 number
    have hrange : ¬ (n.natAbs = 0 ∨ 2 ^ 63 < n.natAbs) := by omega
    have habs : -(n.natAbs : ℤ) = n := by omega
    rw [decide_eq_true hn, Bool.not_true, if_neg Bool.false_ne_true, if_neg hrange, habs]
    rfl
  · have habs : (n.natAbs : ℤ) = n := by omega
    rw [decide_eq_false hn, Bool.not_false, if_pos rfl, habs]
    rfl

/-! ## Digits that are kept -/

namespace Significand

variable {s : Significand} {n k : ℕ}

/-- What is kept of some digits, of which a few stand behind the point: it fits, it is no more than the
digits stand for, and as long as none has been left out it counts the last one. -/
structure Keeps (s : Significand) (digits behind : ℕ) : Prop where
  fits : s.value ≤ maximum
  le : s.value * (10 : ℚ) ^ s.exponent ≤ digits * (10 : ℚ) ^ (-(behind : ℤ))
  exponent_eq : s.full = false → s.exponent = -(behind : ℤ)

theorem pushFraction_eq (s : Significand) (c : Char) :
    s.pushFraction c =
      if s.full || maximum < s.value * 10 + digitValue c then ⟨s.value, s.exponent, true⟩
      else ⟨s.value * 10 + digitValue c, s.exponent - 1, false⟩ := rfl

theorem value_foldl_le {push : Significand → Char → Significand}
    (hpush : ∀ (s : Significand) c, s.value ≤ maximum → (push s c).value ≤ maximum)
    (hs : s.value ≤ maximum) (ds : List Char) : (ds.foldl push s).value ≤ maximum := by
  induction ds generalizing s with
  | nil => exact hs
  | cons c ds ih => exact ih (hpush s c hs)

/-- What is kept of the digits of a whole number fits, however many there are. -/
theorem value_ofInteger_le (ds : List Char) : (ofInteger ds).value ≤ maximum := by
  refine value_foldl_le (fun s c hs => ?_) (Nat.zero_le _) ds
  rw [pushInteger_eq]
  split_ifs with hfull
  · exact hs
  · simp only [Bool.or_eq_true, decide_eq_true_eq, not_or, not_lt] at hfull
    exact hfull.2

theorem value_addFraction_le (hs : s.value ≤ maximum) (ds : List Char) :
    (s.addFraction ds).value ≤ maximum := by
  refine value_foldl_le (s := { s with full := false }) (fun s c hs => ?_) hs ds
  rw [pushFraction_eq]
  split_ifs with hfull
  · exact hs
  · simp only [Bool.or_eq_true, decide_eq_true_eq, not_or, not_lt] at hfull
    exact hfull.2

/-- One more digit behind the point. -/
theorem Keeps.pushFraction (h : s.Keeps n k) (c : Char) :
    (s.pushFraction c).Keeps (10 * n + digitValue c) (k + 1) := by
  obtain ⟨hfits, hle, hexponent⟩ := h
  have hunit : (0 : ℚ) < 10 ^ (-((k + 1 : ℕ) : ℤ)) := by positivity
  have hnext : (10 : ℚ) ^ (-(k : ℤ)) = 10 * 10 ^ (-((k + 1 : ℕ) : ℤ)) := by
    rw [mul_comm, ← zpow_add_one₀ (by norm_num)]
    congr 1
    push_cast
    ring
  rw [pushFraction_eq]
  split_ifs with hfull
  · -- what is left out makes the digits worth more
    refine ⟨hfits, hle.trans ?_, nofun⟩
    rw [hnext, ← mul_assoc]
    refine mul_le_mul_of_nonneg_right ?_ hunit.le
    push_cast
    linarith [(digitValue c).cast_nonneg (α := ℚ)]
  · simp only [Bool.or_eq_true, decide_eq_true_eq, not_or, Bool.not_eq_true, not_lt] at hfull
    have hplace : s.exponent - 1 = -((k + 1 : ℕ) : ℤ) := by
      rw [hexponent hfull.1]
      push_cast
      ring
    refine ⟨hfull.2, ?_, fun _ => hplace⟩
    rw [hexponent hfull.1, hnext] at hle
    have hdigits : (s.value : ℚ) ≤ n := le_of_mul_le_mul_right hle (by positivity)
    rw [hplace]
    refine mul_le_mul_of_nonneg_right ?_ hunit.le
    push_cast
    linarith

theorem Keeps.foldl_pushFraction (h : s.Keeps n k) (ds : List Char) :
    (ds.foldl Significand.pushFraction s).Keeps (Nat.ofDigitChars 10 ds n) (k + ds.length) := by
  induction ds generalizing s n k with
  | nil => exact h
  | cons c ds ih =>
    have hrest := ih (h.pushFraction c)
    rw [Nat.add_assoc, Nat.add_comm 1] at hrest
    rwa [List.foldl_cons, Nat.ofDigitChars_cons, List.length_cons]

/-- What is kept of a short whole part and any fraction. -/
theorem keeps_addFraction {whole : List Char} (h : Nat.ofDigitChars 10 whole 0 ≤ maximum)
    (fraction : List Char) :
    ((ofInteger whole).addFraction fraction).Keeps (Nat.ofDigitChars 10 (whole ++ fraction) 0)
      fraction.length := by
  have hwhole : ofInteger whole = ⟨Nat.ofDigitChars 10 whole 0, 0, false⟩ := foldl_pushInteger h
  have hstart : Keeps ⟨Nat.ofDigitChars 10 whole 0, 0, false⟩ (Nat.ofDigitChars 10 whole 0) 0 :=
    ⟨h, le_rfl, fun _ => rfl⟩
  have hkeeps := hstart.foldl_pushFraction fraction
  rw [Nat.zero_add] at hkeeps
  rwa [addFraction, hwhole, Nat.ofDigitChars_append]

end Significand

/-! ## Scaling by powers of ten -/

/-- The powers of ten up to `10 ^ 308` are finite, and none is less than one. -/
theorem powerOfTen_mem {n : ℕ} (h : n ≤ 308) :
    1 ≤ value (powerOfTen n).magnitude ∧ (powerOfTen n).isFinite = true := by
  have hall : ∀ n < 309, 1023 * 2 ^ 52 ≤ (powerOfTen n).magnitude ∧
      (powerOfTen n).isFinite = true := by
    decide +kernel
  obtain ⟨hle, hfinite⟩ := hall n (Nat.lt_succ_of_le h)
  have hone : value (1023 * 2 ^ 52) = 1 := by
    have hsignificand : Binary64.significand ⟨false, 1023 * 2 ^ 52⟩ = 2 ^ 52 := by decide
    have hexponent : Binary64.exponent ⟨false, 1023 * 2 ^ 52⟩ = -52 := by decide
    rw [value, hsignificand, hexponent]
    norm_num
  exact ⟨hone ▸ Decimal.value_strictMono.monotone hle, hfinite⟩

theorem isFinite_divideByPower {fuel : ℕ} {x : Binary64} (hx : x.isFinite = true) (n : ℕ) :
    (divideByPower fuel x n).isFinite = true := by
  induction fuel generalizing x n with
  | zero => exact hx
  | succ fuel ih =>
    unfold divideByPower
    split_ifs with hn
    · exact Decimal.isFinite_div hx (powerOfTen_mem hn).1
    · exact hx
    · exact ih (Decimal.isFinite_div hx (powerOfTen_mem le_rfl).1) _

section

variable {s : ℕ} {e : ℤ}

theorem isFinite_ofInt_of_le (hs : s ≤ Significand.maximum) :
    (Binary64.ofInt s).isFinite = true := by
  have hmax : Significand.maximum = 2 ^ 64 - 1 := rfl
  exact Binary64.isFinite_ofInt (by omega)

/-- What a significand is scaled to is finite. -/
theorem isFinite_of_scaled? {y : Binary64} (hs : s ≤ Significand.maximum)
    (h : scaled? s e = some y) : y.isFinite = true := by
  have hfinite := isFinite_ofInt_of_le hs
  unfold scaled? at h
  simp only at h
  split_ifs at h with he hbig hzero hinfinite
  · obtain rfl := Option.some.inj h
    exact hfinite
  · obtain rfl := Option.some.inj h
    have hle : ((Binary64.ofInt s).mul (powerOfTen e.toNat)).magnitude ≤ infinityMagnitude :=
      Decimal.roundRatio_le_infinity _ _
    have hne : ((Binary64.ofInt s).mul (powerOfTen e.toNat)).magnitude ≠ infinityMagnitude := by
      simpa [Binary64.isInfinite] using hinfinite
    exact decide_eq_true (lt_of_le_of_ne hle hne)
  · obtain rfl := Option.some.inj h
    exact isFinite_divideByPower hfinite _

/-- The edge of the two largest numbers. -/
def lastEdge : ℕ :=
  (2 ^ 54 - 3) * 2 ^ 970

/-- No significand that stands for a point up to that edge is scaled to infinity: this is so for the
largest one for each power of ten. -/
theorem value_mul_powerOfTen_lt {k : ℕ} (hs : s ≤ Significand.maximum) (hk : k ≤ 308)
    (h : s * 10 ^ k ≤ lastEdge) :
    value (Binary64.ofInt s).magnitude * value (powerOfTen k).magnitude < limit := by
  have hall : ∀ k < 309, Decimal.productFits
      (.ofInt (min Significand.maximum (lastEdge / 10 ^ k) : ℕ)) (powerOfTen k) = true := by
    decide +kernel
  have hlargest := Decimal.productFits_iff.1 (hall k (Nat.lt_succ_of_le hk))
  have hle : s ≤ min Significand.maximum (lastEdge / 10 ^ k) :=
    le_min hs ((Nat.le_div_iff_mul_le (Nat.pow_pos (by decide))).2 h)
  have hmax : min Significand.maximum (lastEdge / 10 ^ k) < 2 ^ 64 :=
    (min_le_left _ _).trans_lt (by decide)
  generalize min Significand.maximum (lastEdge / 10 ^ k) = d at hlargest hle hmax
  have hround : (Binary64.ofInt s).magnitude ≤ (Binary64.ofInt d).magnitude :=
    Decimal.roundRatio_one_mono hle hmax
  refine lt_of_le_of_lt (mul_le_mul_of_nonneg_right ?_ ?_) hlargest
  · exact Decimal.value_strictMono.monotone hround
  · exact zero_le_one.trans (powerOfTen_mem hk).1

theorem lastEdge_lt : lastEdge < 10 ^ 309 := by
  decide +kernel

/-- **A significand can be scaled** if it stands for a point up to the edge of the two largest
numbers. -/
theorem exists_scaled? (hs : s ≤ Significand.maximum) (h : s * (10 : ℚ) ^ e ≤ lastEdge) :
    ∃ y, scaled? s e = some y := by
  unfold scaled?
  simp only
  split_ifs with he hbig hzero hinfinite
  · exact ⟨_, rfl⟩
  · -- beyond `10 ^ 308` only zero stands for a point that is small enough
    exfalso
    have hone : 1 ≤ s := by
      rw [Nat.one_le_iff_ne_zero]
      rintro rfl
      exact hzero rfl
    have hpow : (10 : ℚ) ^ (309 : ℤ) ≤ s * 10 ^ e :=
      calc (10 : ℚ) ^ (309 : ℤ) ≤ 10 ^ e := zpow_le_zpow_right₀ (by norm_num) (by omega)
        _ ≤ s * 10 ^ e := le_mul_of_one_le_left (by positivity) (by exact_mod_cast hone)
    have hlt : (lastEdge : ℚ) < 10 ^ (309 : ℤ) := by
      have hcast : ((lastEdge : ℕ) : ℚ) < (10 ^ 309 : ℕ) := Nat.cast_lt.2 lastEdge_lt
      rwa [Nat.cast_pow, Nat.cast_ofNat] at hcast
    exact absurd (hpow.trans h) (not_le.2 hlt)
  · exfalso
    obtain ⟨k, rfl⟩ := Int.eq_ofNat_of_zero_le he
    rw [zpow_natCast] at h
    have hk : s * 10 ^ k ≤ lastEdge := by exact_mod_cast h
    have hfinite := Decimal.isFinite_mul (value_mul_powerOfTen_lt hs (by omega) hk)
    rw [Binary64.isInfinite, Int.toNat_natCast, beq_iff_eq] at hinfinite
    rw [Binary64.isFinite, hinfinite, decide_eq_true_iff] at hfinite
    exact lt_irrefl _ hfinite
  · exact ⟨_, rfl⟩
  · exact ⟨_, rfl⟩

end

/-! ## The number of a literal -/

section

variable {s : Significand} {negative : Bool} {es : List Char}

theorem scaledByText?_eq (s : Significand) (negative : Bool) (es : List Char) :
    scaledByText? s negative es =
      if 2 ^ 31 ≤ Nat.ofDigitChars 10 es 0 then
        if s.value ≠ 0 ∧ ¬negative then none else some .zero
      else scaled? s.value (s.exponent + exponentValue negative es) := rfl

theorem isFinite_of_scaledByText? {y : Binary64} (hs : s.value ≤ Significand.maximum)
    (h : scaledByText? s negative es = some y) : y.isFinite = true := by
  rw [scaledByText?_eq] at h
  split_ifs at h with hbig hnone
  · obtain rfl := Option.some.inj h
    rfl
  · exact isFinite_of_scaled? hs h

theorem exists_scaledByText? (hs : s.value ≤ Significand.maximum)
    (h : s.value * (10 : ℚ) ^ (s.exponent + exponentValue negative es) ≤ lastEdge)
    (hsmall : negative = false → Nat.ofDigitChars 10 es 0 < 2 ^ 31) :
    ∃ y, scaledByText? s negative es = some y := by
  rw [scaledByText?_eq]
  split_ifs with hbig hnone
  · exact absurd (hsmall (Bool.eq_false_iff.2 hnone.2)) (not_lt.2 hbig)
  · exact ⟨_, rfl⟩
  · exact exists_scaled? hs h

end

/-- A number of the range that JSON values have: an integer of the signed or the unsigned 64-bit range,
or a finite binary64 number. -/
def Number.IsProper : Number → Prop
  | .integer n => -2 ^ 63 ≤ n ∧ n < 2 ^ 64
  | .float x => x.isFinite = true

instance (n : Number) : Decidable n.IsProper :=
  match n with
  | .integer n => inferInstanceAs (Decidable (-2 ^ 63 ≤ n ∧ n < 2 ^ 64))
  | .float x => inferInstanceAs (Decidable (x.isFinite = true))

namespace NumberLiteral

variable {l : NumberLiteral}

/-- What is kept of the digits of a literal. -/
def significand (l : NumberLiteral) : Significand :=
  (Significand.ofInteger l.integer).addFraction (l.fraction.getD [])

/-- The significand with the power of ten of the exponent, if there is one. -/
def magnitude? (l : NumberLiteral) : Option Binary64 :=
  l.exponent.elim (scaled? l.significand.value l.significand.exponent) fun e =>
    scaledByText? l.significand e.1 e.2

/-- The sign of a literal, put to a number. -/
def signed (l : NumberLiteral) (x : Binary64) : Number :=
  .float (if l.negative then x.negate else x)

theorem value_significand_le (l : NumberLiteral) : l.significand.value ≤ Significand.maximum :=
  Significand.value_addFraction_le (Significand.value_ofInteger_le _) _

/-- A literal with a point or an exponent is a binary64 number. -/
theorem number?_of_isSome (h : (l.fraction.isSome || l.exponent.isSome) = true) :
    l.number? = l.magnitude?.map l.signed := by
  obtain ⟨negative, integer, fraction, exponent⟩ := l
  cases fraction <;> cases exponent
  · cases h
  all_goals rfl

theorem isProper_signed {x : Binary64} (h : x.isFinite = true) : (l.signed x).IsProper := by
  unfold signed
  split_ifs
  · exact h
  · exact h

theorem isFinite_of_magnitude? {x : Binary64} (h : l.magnitude? = some x) : x.isFinite = true := by
  unfold magnitude? at h
  cases hexponent : l.exponent with
  | none =>
    rw [hexponent] at h
    exact isFinite_of_scaled? l.value_significand_le h
  | some e =>
    rw [hexponent] at h
    exact isFinite_of_scaledByText? l.value_significand_le h

/-- **The number of a literal is proper.** -/
theorem isProper_of_number? {n : Number} (h : l.number? = some n) : n.IsProper := by
  by_cases hsome : (l.fraction.isSome || l.exponent.isSome) = true
  · rw [number?_of_isSome hsome] at h
    obtain ⟨x, hx, rfl⟩ := Option.map_eq_some_iff.1 h
    exact isProper_signed (isFinite_of_magnitude? hx)
  -- a whole number, of which the digits fit or not
  obtain ⟨negative, integer, fraction, exponent⟩ := l
  simp only [Bool.or_eq_true, not_or, Option.not_isSome_iff_eq_none] at hsome
  obtain ⟨rfl, rfl⟩ := hsome
  have hfits := Significand.value_ofInteger_le integer
  have hmax : Significand.maximum = 2 ^ 64 - 1 := rfl
  unfold number? at h
  simp only at h
  split_ifs at h with hfull hnegative hpositive hrange
  · obtain ⟨x, hx, rfl⟩ := Option.map_eq_some_iff.1 h
    have hfinite : x.isFinite = true := isFinite_of_scaled? hfits hx
    exact hfinite
  · obtain ⟨x, hx, rfl⟩ := Option.map_eq_some_iff.1 h
    exact isFinite_of_scaled? hfits hx
  · obtain rfl := Option.some.inj h
    exact ⟨by omega, by omega⟩
  · obtain rfl := Option.some.inj h
    exact isFinite_ofInt_of_le hfits
  · obtain rfl := Option.some.inj h
    exact ⟨by omega, by omega⟩

/-- **A literal that is not too large has a number.** -/
theorem StandsFor.exists_number? {q : ℚ} (h : l.StandsFor q) (hq : q ≤ lastEdge) :
    ∃ n, l.number? = some n := by
  have hmax : Significand.maximum = 2 ^ 64 - 1 := rfl
  have hkeeps : l.significand.Keeps _ _ :=
    Significand.keeps_addFraction (h.integer_lt.le.trans (by decide)) (l.fraction.getD [])
  obtain ⟨x, hx⟩ : ∃ x, l.magnitude? = some x := by
    have hvalue := h.value_eq
    have hpow := h.pow_le
    unfold magnitude?
    cases hexponent : l.exponent with
    | none =>
      rw [hexponent, Option.elim_none, zero_sub] at hvalue
      exact exists_scaled? hkeeps.fits (hkeeps.le.trans (hvalue.trans_le hq))
    | some e =>
      obtain ⟨negative, es⟩ := e
      rw [hexponent, Option.elim_some] at hvalue
      refine exists_scaledByText? hkeeps.fits (le_trans ?_ (hvalue.trans_le hq)) ?_
      · rw [zpow_add₀ (by norm_num), ← mul_assoc, sub_eq_neg_add, zpow_add₀ (by norm_num),
          ← mul_assoc]
        exact mul_le_mul_of_nonneg_right hkeeps.le (by positivity)
      · rintro rfl
        have hlt : ((10 ^ Nat.ofDigitChars 10 es 0 : ℕ) : ℚ) < (10 ^ 309 : ℕ) := by
          refine lt_of_le_of_lt ?_ (Nat.cast_lt.2 lastEdge_lt)
          rw [Nat.cast_pow, Nat.cast_ofNat]
          exact (hpow es hexponent).trans hq
        exact ((Nat.pow_lt_pow_iff_right (by decide)).1 (Nat.cast_lt.1 hlt)).trans (by decide)
  rw [number?_of_isSome h.isSome, hx]
  exact ⟨_, rfl⟩

end NumberLiteral

/-! ## The text of a number -/

/-- A number below the largest one lies below the edge of the two. -/
theorem shortest_le_lastEdge {x : Binary64} (hzero : x.magnitude ≠ 0)
    (h : x.magnitude ≤ infinityMagnitude - 2) :
    (Decimal.shortest x).1 * (10 : ℚ) ^ (Decimal.shortest x).2 ≤ lastEdge := by
  have hedge : Decimal.edge (infinityMagnitude - 2) = lastEdge := by
    have hsignificand : Binary64.significand ⟨false, infinityMagnitude - 2⟩ = 2 ^ 53 - 2 := by decide
    have hexponent : Binary64.exponent ⟨false, infinityMagnitude - 2⟩ = 971 := by decide
    rw [Decimal.edge_eq, value, hsignificand, hexponent, Decimal.last_unit, lastEdge, Nat.cast_mul,
      Nat.cast_pow, Nat.cast_ofNat]
    generalize (2 : ℚ) ^ 970 = u
    norm_num
    ring
  calc (Decimal.shortest x).1 * (10 : ℚ) ^ (Decimal.shortest x).2
      ≤ Decimal.edge x.magnitude := (Decimal.contains_shortest x hzero).2.1
    _ ≤ Decimal.edge (infinityMagnitude - 2) := Decimal.edge_strictMono.monotone h
    _ = lastEdge := hedge

/-- What the text of a number is read as, where it is read as a number. -/
def Number.reread (n : Number) : Number :=
  ((NumberLiteral.read n.chars).bind fun l => l.1.number?).getD n

namespace Number

variable {n : Number}

theorem read_of_tree {m : Number} (h : n.tree = .number m) :
    ((NumberLiteral.read n.chars).bind fun l => l.1.number?) = some m := by
  rw [tree] at h
  cases hread : (NumberLiteral.read n.chars).bind fun l => l.1.number? with
  | none =>
    rw [hread] at h
    cases h
  | some m' =>
    rw [hread] at h
    rw [Tree.number.inj h]

/-- **The text of a proper number is read as a number.** -/
theorem tree_of_isProper (h : n.IsProper) : n.tree = .number n.reread := by
  obtain ⟨m, hm⟩ : ∃ m, ((NumberLiteral.read n.chars).bind fun l => l.1.number?) = some m := by
    cases n with
    | integer n => exact ⟨_, read_of_tree (tree_integer h.1 h.2)⟩
    | float x =>
      by_cases hlargest : x.magnitude = infinityMagnitude - 1
      · -- the largest number is tried out
        obtain ⟨negative, magnitude⟩ := x
        obtain rfl : magnitude = infinityMagnitude - 1 := hlargest
        refine Option.isSome_iff_exists.1 ?_
        cases negative <;> decide +kernel
      obtain ⟨l, hl, hread⟩ := NumberLiteral.exists_read_float x
      have hchars := hread [] (by simp [Stops])
      rw [List.append_nil] at hchars
      rw [hchars, Option.bind_some]
      refine hl.exists_number? ?_
      split_ifs with hzero
      · exact Nat.cast_nonneg _
      · have hfinite : x.magnitude < infinityMagnitude := of_decide_eq_true h
        exact shortest_le_lastEdge hzero (by omega)
  rw [tree, reread, hm]
  rfl

/-- What the text of a number is read as is proper. -/
theorem isProper_of_tree {m : Number} (h : n.tree = .number m) : m.IsProper := by
  obtain ⟨l, -, hl⟩ := Option.bind_eq_some_iff.1 (read_of_tree h)
  exact NumberLiteral.isProper_of_number? hl

end Number

/-! ## Numbers that their texts keep -/

/-- A number that is read back from its text: an integer of the signed or the unsigned 64-bit
range, or a binary64 number of which this is known. -/
def Number.IsKept : Number → Prop
  | .integer n => -2 ^ 63 ≤ n ∧ n < 2 ^ 64
  | .float x => Value.parse? (Value.number (.float x)).compact = some (.number (.float x))

/-- **The text of a kept number is read as that number.** -/
theorem Number.tree_of_isKept {n : Number} (h : n.IsKept) : n.tree = .number n := by
  cases n with
  | integer n => exact tree_integer h.1 h.2
  | float x =>
    rw [IsKept, Value.parse?_compact, Value.tree] at h
    rw [Number.tree] at h ⊢
    -- what has been parsed is the number that was read
    cases hread : (NumberLiteral.read (Number.float x).chars).bind fun l => l.1.number? with
    | none =>
      rw [hread] at h
      cases h
    | some m =>
      rw [hread] at h
      rw [← Value.number.inj (Option.some.inj h)]
      rfl

/-- A binary64 number is kept if its text is read as it. -/
theorem Number.isKept_float_iff {x : Binary64} :
    Number.IsKept (.float x) ↔
      ((NumberLiteral.read (chars (.float x))).bind fun l => l.1.number?) = some (.float x) := by
  have htree : Value.parse? (Value.number (.float x)).compact =
      (Tree.cut Tree.maxNesting (Number.tree (.float x))).toValue? := Value.parse?_compact _
  rw [IsKept, htree, Number.tree]
  cases (NumberLiteral.read (chars (.float x))).bind fun l => l.1.number? with
  | none =>
    refine iff_of_false ?_ ?_
    all_goals
      intro h
      cases h
  | some n =>
    show some (Value.number n) = some (.number (.float x)) ↔ _
    rw [Option.some_inj, Option.some_inj, Value.number.injEq]

instance (n : Number) : Decidable n.IsKept :=
  match n with
  | .integer n => inferInstanceAs (Decidable (-2 ^ 63 ≤ n ∧ n < 2 ^ 64))
  | .float _ => decidable_of_iff' _ Number.isKept_float_iff

/-- So a kept number is proper, and it stays what it is. -/
theorem Number.IsKept.isProper {n : Number} (h : n.IsKept) : n.IsProper :=
  isProper_of_tree (tree_of_isKept h)

theorem Number.IsKept.reread_eq {n : Number} (h : n.IsKept) : n.reread = n :=
  Tree.number.inj ((tree_of_isProper h.isProper).symm.trans (tree_of_isKept h))

end CustomFields.Json
