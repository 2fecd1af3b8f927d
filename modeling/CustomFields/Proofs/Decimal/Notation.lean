import Mathlib.Data.List.TakeDrop
import CustomFields.Decimal.Notation
import CustomFields.Proofs.Decimal.Shortest

/-!
# Compact notation determines its number

A numeral has an exact value, whichever of its layouts it is written in: with zeros behind the
digits, with the point among them, with zeros in front, or with an exponent. The value of a number
in compact notation is its shortest decimal, so the notation determines the number.

The layouts are the three rules of `IsNumeral`, a relation between texts and values. That it is a
partial function is shown by `exactValue`, which reads a numeral from the front.

## Main definitions

* `IsNumeral`: the numerals without a sign, and the rational numbers that they stand for
* `exactValue`: the value of a numeral, as a function

## Main results

* `isNumeral_unsigned`: the numeral of a number stands for its shortest decimal
* `compact_injective`: different numbers have different numerals
-/

namespace CustomFields.Decimal

/-! ## Numerals and their values -/

/-- A row of decimal digits. -/
def IsDigits (cs : List Char) : Prop :=
  ∀ c ∈ cs, c.isDigit = true

theorem isDigits_append {cs ds : List Char} :
    IsDigits (cs ++ ds) ↔ IsDigits cs ∧ IsDigits ds :=
  List.forall_mem_append

theorem isDigits_replicate_zero (n : ℕ) : IsDigits (List.replicate n '0') := by
  intro c hc
  obtain ⟨-, rfl⟩ := List.mem_replicate.mp hc
  rfl

theorem isDigits_zero : IsDigits ['0'] :=
  isDigits_replicate_zero 1

theorem isDigits_toDigits (n : ℕ) : IsDigits (Nat.toDigits 10 n) :=
  fun _ hc => Nat.isDigit_of_mem_toDigits (by decide) (by decide) hc

/-- Digits are worth less than the power of ten of their number. -/
theorem ofDigitChars_lt {ds : List Char} (h : IsDigits ds) :
    Nat.ofDigitChars 10 ds 0 < 10 ^ ds.length := by
  induction ds with
  | nil => decide
  | cons d ds ih =>
    obtain ⟨hd, hds⟩ := List.forall_mem_cons.1 h
    have hrest := ih hds
    have hdigit : d.toNat - '0'.toNat ≤ 9 := by
      simp only [Char.isDigit, Bool.and_eq_true, decide_eq_true_eq] at hd
      have hhigh : d.toNat ≤ 57 := hd.2
      have hzero : '0'.toNat = 48 := rfl
      omega
    have hlead := Nat.mul_le_mul_left (10 ^ ds.length) hdigit
    rw [Nat.ofDigitChars_cons, Nat.ofDigitChars_eq_ofDigitChars_zero, Nat.mul_zero, Nat.zero_add,
      List.length_cons, Nat.pow_succ]
    omega

/-- The digits of a number start with a zero only if the number is zero. -/
theorem head?_toDigits_ne_zero {n : ℕ} (h : n ≠ 0) : (Nat.toDigits 10 n).head? ≠ some '0' := by
  induction n using Nat.strongRecOn with
  | ind n ih =>
    by_cases hlt : n < 10
    -- a single digit is not a zero; of several, the first is that of a tenth of the number
    · rw [Nat.toDigits_of_lt_base hlt]
      interval_cases n <;> simp_all [Nat.digitChar]
    · rw [Nat.toDigits_of_base_le (by decide) (Nat.le_of_not_lt hlt),
        List.head?_append_of_ne_nil _ Nat.toDigits_ne_nil]
      exact ih (n / 10) (by omega) (by omega)

/-- The sign that stands before the digits of an exponent. -/
def exponentSign (negative : Bool) : Char :=
  if negative then '-' else '+'

/-- The exponent of a sign and digits. -/
def exponentValue (negative : Bool) (ds : List Char) : ℤ :=
  if negative then -(Nat.ofDigitChars 10 ds 0 : ℤ) else Nat.ofDigitChars 10 ds 0

/-- The digits of a whole number: there is one, and the first of several is not a zero. -/
structure IsWhole (cs : List Char) : Prop where
  digits : IsDigits cs
  ne_nil : cs ≠ []
  no_leading_zero : ∀ c rest, cs ≠ '0' :: c :: rest

theorem isWhole_singleton {c : Char} (h : c.isDigit = true) : IsWhole [c] where
  digits := by simpa [IsDigits] using h
  ne_nil := List.cons_ne_nil c []
  no_leading_zero _ _ h := by cases h

theorem isWhole_of_head {cs : List Char} (hd : IsDigits cs) (hne : cs ≠ [])
    (hz : cs.head? ≠ some '0') : IsWhole cs where
  digits := hd
  ne_nil := hne
  no_leading_zero _ _ h := hz (by rw [h, List.head?_cons])

/-- The whole part of a numeral that goes on behind it: it has sixteen digits at most. -/
structure IsWholePart (cs : List Char) : Prop extends IsWhole cs where
  length_le : cs.length ≤ 16

theorem isWholePart_singleton {c : Char} (h : c.isDigit = true) : IsWholePart [c] :=
  ⟨isWhole_singleton h, by simp⟩

/-- A whole number that is not written as a single zero is not zero. -/
theorem IsWhole.one_le {cs : List Char} (h : IsWhole cs) (hz : cs ≠ ['0']) :
    1 ≤ Nat.ofDigitChars 10 cs 0 := by
  obtain ⟨c, rest, rfl⟩ := List.exists_cons_of_ne_nil h.ne_nil
  have hc : c ≠ '0' := by
    rintro rfl
    cases rest with
    | nil => exact hz rfl
    | cons c' rest => exact h.no_leading_zero c' rest rfl
  have hdigit : 1 ≤ c.toNat - '0'.toNat := by
    have hlow : '0'.toNat ≤ c.toNat := (Char.isDigit_iff_toNat.1 (h.digits c List.mem_cons_self)).1
    have hne : c.toNat ≠ '0'.toNat := fun heq => hc (Char.toNat_inj.1 heq)
    omega
  rw [Nat.ofDigitChars_cons, Nat.ofDigitChars_eq_ofDigitChars_zero, Nat.mul_zero, Nat.zero_add]
  exact le_add_right (Nat.mul_pos (Nat.pow_pos (by decide)) hdigit)

/-- The numerals without a sign: digits with a point, with an exponent, or with both. Digits with an
exponent do not start with a zero. -/
inductive IsNumeral : List Char → ℚ → Prop
  | point {whole fraction : List Char} (hw : IsWholePart whole) (ne : fraction ≠ [])
      (hf : IsDigits fraction) :
      IsNumeral (whole ++ '.' :: fraction)
        (Nat.ofDigitChars 10 (whole ++ fraction) 0 * (10 : ℚ) ^ (-(fraction.length : ℤ)))
  | exponent {whole es : List Char} (negative : Bool) (hw : IsWholePart whole) (hz : whole ≠ ['0'])
      (ne : es ≠ []) (he : IsDigits es) :
      IsNumeral (whole ++ 'e' :: exponentSign negative :: es)
        (Nat.ofDigitChars 10 whole 0 * (10 : ℚ) ^ exponentValue negative es)
  | pointExponent {whole fraction es : List Char} (negative : Bool) (hw : IsWholePart whole)
      (hz : whole ≠ ['0']) (nf : fraction ≠ []) (hf : IsDigits fraction) (ne : es ≠ [])
      (he : IsDigits es) :
      IsNumeral (whole ++ '.' :: (fraction ++ 'e' :: exponentSign negative :: es))
        (Nat.ofDigitChars 10 (whole ++ fraction) 0 *
          (10 : ℚ) ^ (exponentValue negative es - fraction.length))

/-- The rational number of a numeral without a sign, read from the front. -/
def exactValue (cs : List Char) : ℚ :=
  let (whole, rest) := cs.span Char.isDigit
  let (fraction, rest) := match rest with
    | '.' :: rest => rest.span Char.isDigit
    | rest => ([], rest)
  let exponent : ℤ := match rest with
    | 'e' :: '-' :: ds => exponentValue true ds
    | 'e' :: '+' :: ds => exponentValue false ds
    | _ => 0
  Nat.ofDigitChars 10 (whole ++ fraction) 0 * (10 : ℚ) ^ (exponent - fraction.length)

theorem span_digits {ds : List Char} (rest : List Char) (hd : IsDigits ds)
    (hr : ∀ c ∈ rest.head?, c.isDigit = false) : (ds ++ rest).span Char.isDigit = (ds, rest) := by
  rw [List.span_eq_takeWhile_dropWhile, List.takeWhile_append_of_pos hd,
    List.dropWhile_append_of_pos hd]
  cases rest with
  | nil => simp
  | cons c rest => simp [hr c (by simp)]

namespace IsNumeral

variable {cs : List Char} {q : ℚ}

theorem exactValue_eq (h : IsNumeral cs q) : exactValue cs = q := by
  cases h with
  | @point whole fraction hw _ hf =>
    have hs := span_digits [] hf (by simp)
    rw [List.append_nil] at hs
    simp only [exactValue, span_digits ('.' :: fraction) hw.digits (by simp), hs, zero_sub]
  | @exponent whole es negative hw _ _ _ =>
    have hs := span_digits ('e' :: exponentSign negative :: es) hw.digits (by simp)
    simp only [exactValue, hs]
    cases negative <;> simp [exponentSign]
  | @pointExponent whole fraction es negative hw _ _ hf _ _ =>
    have hs := span_digits ('.' :: (fraction ++ 'e' :: exponentSign negative :: es)) hw.digits
      (by simp)
    have hs' := span_digits ('e' :: exponentSign negative :: es) hf (by simp)
    simp only [exactValue, hs, hs']
    cases negative <;> simp [exponentSign]

/-- A numeral stands for one number. -/
theorem value_unique {q' : ℚ} (h : IsNumeral cs q) (h' : IsNumeral cs q') : q = q' :=
  h.exactValue_eq.symm.trans h'.exactValue_eq

end IsNumeral

/-! ## The layouts -/

section Layouts

variable {digits : List Char} (hd : IsDigits digits) (hne : digits ≠ [])
  (hz : digits.head? ≠ some '0')

include hd hne hz

/-- A numeral in positional layout stands for its digits as a fraction of a power of ten. -/
theorem isNumeral_positional {point : ℤ} (hpoint : point ≤ 16) :
    IsNumeral (positional digits point ".0").toList
      (Nat.ofDigitChars 10 digits 0 * (10 : ℚ) ^ (point - digits.length)) := by
  unfold positional
  split
  · -- zeros fill the places up to the point
    rename_i hle
    obtain ⟨n, hn⟩ := Int.eq_ofNat_of_zero_le (Int.sub_nonneg.mpr hle)
    have htext : (String.ofList digits ++ zeros n ++ ".0").toList =
        (digits ++ List.replicate n '0') ++ '.' :: ['0'] := by simp [zeros]
    have hvalue : Nat.ofDigitChars 10 ((digits ++ List.replicate n '0') ++ ['0']) 0 =
        10 * (10 ^ n * Nat.ofDigitChars 10 digits 0) := by
      simp [Nat.ofDigitChars_append, Nat.ofDigitChars_cons]
    rw [hn, Int.toNat_natCast, htext]
    have hwhole : IsWholePart (digits ++ List.replicate n '0') := by
      have hdigits := isDigits_append.mpr ⟨hd, isDigits_replicate_zero n⟩
      refine ⟨isWhole_of_head hdigits (by simp [hne]) ?_, ?_⟩
      · rwa [List.head?_append_of_ne_nil _ hne]
      · rw [List.length_append, List.length_replicate]
        omega
    convert IsNumeral.point hwhole (List.cons_ne_nil '0' []) isDigits_zero using 1
    rw [hvalue]
    simp only [List.length_singleton, Nat.cast_one, zpow_neg, zpow_one, zpow_natCast]
    push_cast
    ring
  · split
    · -- the point stands among the digits
      rename_i hle hpos
      obtain ⟨n, rfl⟩ := Int.eq_ofNat_of_zero_le hpos.le
      have htext : (String.ofList (digits.take n) ++ "." ++ String.ofList (digits.drop n)).toList =
          digits.take n ++ '.' :: digits.drop n := by simp
      obtain ⟨ht, hdr⟩ := isDigits_append.mp ((List.take_append_drop n digits).symm ▸ hd)
      rw [Int.toNat_natCast, htext]
      have hwhole : IsWholePart (digits.take n) := by
        refine ⟨isWhole_of_head ht ?_ ?_, ?_⟩
        · simp only [ne_eq, List.take_eq_nil_iff, hne, or_false]
          omega
        · rwa [List.head?_take, if_neg (by omega)]
        · rw [List.length_take]
          omega
      have hfraction : digits.drop n ≠ [] := by
        rw [ne_eq, List.drop_eq_nil_iff]
        omega
      convert IsNumeral.point hwhole hfraction hdr using 2
      · rw [List.take_append_drop]
      · rw [List.length_drop]
        congr 1
        omega
    · -- zeros stand between the point and the digits
      rename_i hle hneg
      obtain ⟨n, hn⟩ := Int.eq_ofNat_of_zero_le (Int.neg_nonneg.mpr (not_lt.mp hneg))
      have htext : ("0." ++ zeros n ++ String.ofList digits).toList =
          ['0'] ++ '.' :: (List.replicate n '0' ++ digits) := by simp [zeros]
      have hvalue : Nat.ofDigitChars 10 (['0'] ++ (List.replicate n '0' ++ digits)) 0 =
          Nat.ofDigitChars 10 digits 0 := by
        simp [Nat.ofDigitChars_append, Nat.ofDigitChars_cons]
      rw [hn, Int.toNat_natCast, htext]
      convert IsNumeral.point (isWholePart_singleton (c := '0') rfl) (by simp [hne])
        (isDigits_append.mpr ⟨isDigits_replicate_zero n, hd⟩) using 2
      · rw [hvalue]
      · rw [List.length_append, List.length_replicate]
        congr 1
        omega

theorem isNumeral_scientific (exponent : ℤ) :
    IsNumeral (scientific digits exponent).toList
      (Nat.ofDigitChars 10 digits 0 * (10 : ℚ) ^ (exponent - (digits.length - 1))) := by
  have hvalue : exponentValue (decide (exponent < 0)) (Nat.toDigits 10 exponent.natAbs) =
      exponent := by
    simp only [exponentValue, Nat.ofDigitChars_ten_toDigits, decide_eq_true_eq]
    split <;> omega
  have hsign : (if exponent < 0 then "-" else "+").toList =
      [exponentSign (decide (exponent < 0))] := by
    by_cases h : exponent < 0 <;> simp [h, exponentSign]
  -- a point is written only where digits come behind it
  match digits, hne with
  | [d], _ =>
    have htext : (scientific [d] exponent).toList =
        [d] ++ 'e' :: exponentSign (decide (exponent < 0)) :: Nat.toDigits 10 exponent.natAbs := by
      simp [scientific, hsign]
    rw [htext]
    convert IsNumeral.exponent (decide (exponent < 0)) (isWholePart_singleton (hd d (by simp)))
      (by simpa using hz) Nat.toDigits_ne_nil (isDigits_toDigits exponent.natAbs) using 2
    rw [hvalue]
    simp
  | d :: d' :: ds, _ =>
    have htext : (scientific (d :: d' :: ds) exponent).toList =
        [d] ++ '.' :: ((d' :: ds) ++ 'e' ::
          exponentSign (decide (exponent < 0)) :: Nat.toDigits 10 exponent.natAbs) := by
      simp [scientific, hsign]
    obtain ⟨hd₁, hds⟩ := isDigits_append.mp (show IsDigits ([d] ++ d' :: ds) from hd)
    rw [htext]
    convert IsNumeral.pointExponent (decide (exponent < 0))
      (isWholePart_singleton (hd₁ d (by simp))) (by simpa using hz) (List.cons_ne_nil d' ds) hds
      Nat.toDigits_ne_nil (isDigits_toDigits exponent.natAbs) using 2
    · rfl
    · rw [hvalue]
      simp

end Layouts

/-! ## The numeral of a number -/

/-- Compact notation without the sign. -/
def unsigned (x : Binary64) : String :=
  if x.magnitude = 0 then "0.0"
  else
    let (d, k) := shortest x
    let digits := Nat.toDigits 10 d
    let point : Int := digits.length + k
    if -5 ≤ point - 1 ∧ point - 1 ≤ 15 then positional digits point ".0"
    else scientific digits (point - 1)

theorem compact_eq_signed_unsigned (x : Binary64) : compact x = signed x (unsigned x) := rfl

theorem shortest_ne_zero {x : Binary64} (h : x.magnitude ≠ 0) : (shortest x).1 ≠ 0 := by
  intro hzero
  have hpos := pos_of_contains h (contains_shortest x h)
  rw [hzero, Nat.cast_zero, zero_mul] at hpos
  exact lt_irrefl 0 hpos

/-- **The numeral of a number stands for its shortest decimal.** -/
theorem isNumeral_unsigned (x : Binary64) :
    IsNumeral (unsigned x).toList
      (if x.magnitude = 0 then 0 else (shortest x).1 * (10 : ℚ) ^ (shortest x).2) := by
  unfold unsigned
  split
  -- zero has a numeral of its own
  · have htext : "0.0".toList = ['0'] ++ '.' :: ['0'] := rfl
    have hvalue : Nat.ofDigitChars 10 (['0'] ++ ['0']) 0 = 0 := by decide
    have hwhole := isWholePart_singleton (c := '0') rfl
    have h := IsNumeral.point hwhole (List.cons_ne_nil '0' []) isDigits_zero
    rwa [hvalue, Nat.cast_zero, zero_mul, ← htext] at h
  · rename_i hx
    have hd := isDigits_toDigits (shortest x).1
    have hz := head?_toDigits_ne_zero (shortest_ne_zero hx)
    simp only
    -- the layout depends on the exponent, the value does not
    split
    · rename_i hpoint
      convert isNumeral_positional hd Nat.toDigits_ne_nil hz
        (Int.le_of_sub_one_lt (Int.lt_add_one_of_le hpoint.2)) using 2
      · rw [Nat.ofDigitChars_ten_toDigits]
      · congr 1
        omega
    · convert isNumeral_scientific hd Nat.toDigits_ne_nil hz _ using 2
      · rw [Nat.ofDigitChars_ten_toDigits]
      · congr 1
        omega

/-- Numbers with the same numeral have the same magnitude. -/
theorem magnitude_eq_of_unsigned_eq {x y : Binary64} (h : unsigned x = unsigned y) :
    x.magnitude = y.magnitude := by
  have hv := (isNumeral_unsigned x).value_unique (h ▸ isNumeral_unsigned y)
  by_cases hx : x.magnitude = 0 <;> by_cases hy : y.magnitude = 0
  · rw [hx, hy]
  -- the numeral of zero stands for zero, and no other one does
  · rw [if_pos hx, if_neg hy] at hv
    exact absurd hv (pos_of_contains hy (contains_shortest y hy)).ne
  · rw [if_neg hx, if_pos hy] at hv
    exact absurd hv (pos_of_contains hx (contains_shortest x hx)).ne'
  -- one decimal lies in both intervals
  · rw [if_neg hx, if_neg hy] at hv
    exact magnitude_eq_of_contains (contains_shortest x hx) (hv ▸ contains_shortest y hy)

/-! ## The characters of a numeral -/

/-- The characters of numerals, the letter of an exponent in either case. -/
def IsNumeralChar (c : Char) : Prop :=
  c.isDigit = true ∨ c = '.' ∨ c = 'e' ∨ c = 'E' ∨ c = '+' ∨ c = '-'

namespace IsNumeral

variable {cs : List Char} {q : ℚ}

/-- A numeral starts with a digit. -/
theorem exists_cons (h : IsNumeral cs q) : ∃ c rest, cs = c :: rest ∧ c.isDigit = true := by
  have key : ∀ {whole tail : List Char}, whole ≠ [] → IsDigits whole →
      ∃ c rest, whole ++ tail = c :: rest ∧ c.isDigit = true := by
    intro whole tail hne hw
    obtain ⟨c, rest, rfl⟩ := List.exists_cons_of_ne_nil hne
    exact ⟨c, rest ++ tail, rfl, hw c (by simp)⟩
  cases h with
  | point hw => exact key hw.ne_nil hw.digits
  | exponent _ hw => exact key hw.ne_nil hw.digits
  | pointExponent _ hw => exact key hw.ne_nil hw.digits

theorem isNumeralChar (h : IsNumeral cs q) : ∀ c ∈ cs, IsNumeralChar c := by
  have hdigits : ∀ {ds : List Char}, IsDigits ds → ∀ c ∈ ds, IsNumeralChar c :=
    fun hd c hc => Or.inl (hd c hc)
  have hsign : ∀ negative, IsNumeralChar (exponentSign negative) := by
    intro negative
    cases negative <;> simp [exponentSign, IsNumeralChar]
  have hpoint : IsNumeralChar '.' := by simp [IsNumeralChar]
  have hletter : IsNumeralChar 'e' := by simp [IsNumeralChar]
  cases h with
  | point hw _ hf =>
    simp only [List.forall_mem_append, List.forall_mem_cons]
    exact ⟨hdigits hw.digits, hpoint, hdigits hf⟩
  | exponent negative hw _ _ he =>
    simp only [List.forall_mem_append, List.forall_mem_cons]
    exact ⟨hdigits hw.digits, hletter, hsign negative, hdigits he⟩
  | pointExponent negative hw _ _ hf _ he =>
    simp only [List.forall_mem_append, List.forall_mem_cons]
    exact ⟨hdigits hw.digits, hpoint, hdigits hf, hletter, hsign negative, hdigits he⟩

/-- A point or an exponent tells a numeral from an integer. -/
theorem not_isDigits (h : IsNumeral cs q) : ¬ IsDigits cs := by
  intro hd
  have hpoint : '.' ∉ cs := fun hc => absurd (hd _ hc) (by decide)
  have hletter : 'e' ∉ cs := fun hc => absurd (hd _ hc) (by decide)
  cases h with
  | point => exact hpoint (by simp)
  | exponent => exact hletter (by simp)
  | pointExponent => exact hpoint (by simp)

end IsNumeral

/-- The text of a number is its numeral, behind a minus sign if the number has one. -/
theorem toList_compact (x : Binary64) :
    (compact x).toList =
      if x.negative then '-' :: (unsigned x).toList else (unsigned x).toList := by
  rw [compact_eq_signed_unsigned, signed]
  split
  · simp
  · rfl

/-- **Different numbers have different texts.** -/
theorem compact_injective : Function.Injective compact := by
  intro x y h
  have hx := (isNumeral_unsigned x).exists_cons
  have hy := (isNumeral_unsigned y).exists_cons
  obtain ⟨c, cs, hc, hcd⟩ := hx
  obtain ⟨d, ds, hd, hdd⟩ := hy
  have hlist := congrArg String.toList h
  rw [toList_compact, toList_compact, hc, hd] at hlist
  obtain ⟨xn, xm⟩ := x
  obtain ⟨yn, ym⟩ := y
  -- a numeral starts with a digit, so a minus sign in front is the sign of the number
  cases xn <;> cases yn <;> simp only [Bool.false_eq_true, if_true, if_false] at hlist
  · have hm := magnitude_eq_of_unsigned_eq
      (String.toList_injective (hc.trans (hlist.trans hd.symm)))
    exact congrArg (Binary64.mk false) hm
  · obtain rfl := (List.cons.inj hlist).1
    cases hcd
  · obtain rfl := (List.cons.inj hlist).1
    cases hdd
  · have hm := magnitude_eq_of_unsigned_eq (String.toList_injective
      (hc.trans ((List.cons.inj hlist).2.trans hd.symm)))
    exact congrArg (Binary64.mk true) hm

end CustomFields.Decimal
