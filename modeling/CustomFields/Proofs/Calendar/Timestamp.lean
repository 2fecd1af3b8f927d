import CustomFields.Calendar.Timestamp
import CustomFields.Proofs.Calendar.Date
import CustomFields.Proofs.Decimal.Notation

/-!
# Reading the text of a timestamp

The text of a timestamp is read part by part, as it was written. What is read is not always the
timestamp itself: one that has more nanoseconds than a leap second allows is read as a later one, or
not at all. But it always has the same text, so what is written again is what was written first.

## Main results

* `Calendar.Timestamp.parse?_parts`: what is read for a text, part by part
* `Calendar.Timestamp.text_of_parse?_text`: it has the same text
-/

namespace CustomFields.Calendar

open Decimal (IsDigits)

/-! ## Padded numbers -/

namespace Date

theorem toList_padded (width n : ℕ) :
    (padded width n).toList =
      List.replicate (width - (Nat.toDigits 10 n).length) '0' ++ Nat.toDigits 10 n := by
  simp [padded]

theorem isDigits_padded (width n : ℕ) : IsDigits (padded width n).toList := by
  rw [toList_padded]
  exact Decimal.isDigits_append.2 ⟨Decimal.isDigits_replicate_zero _, Decimal.isDigits_toDigits n⟩

theorem padded_ne_nil (width n : ℕ) : (padded width n).toList ≠ [] := by
  rw [toList_padded]
  exact List.append_ne_nil_of_right_ne_nil _ Nat.toDigits_ne_nil

theorem ofDigitChars_replicate_zero (k : ℕ) :
    Nat.ofDigitChars 10 (List.replicate k '0') 0 = 0 := by
  induction k with
  | zero => rfl
  | succ k ih => exact ih

theorem ofDigitChars_padded (width n : ℕ) :
    Nat.ofDigitChars 10 (padded width n).toList 0 = n := by
  rw [toList_padded, Nat.ofDigitChars_append, ofDigitChars_replicate_zero,
    Nat.ofDigitChars_ten_toDigits]

theorem length_padded {width n : ℕ} (hw : 0 < width) (h : n < 10 ^ width) :
    (padded width n).toList.length = width := by
  have hlength := (Nat.length_toDigits_le_iff (by decide) hw).2 h
  rw [toList_padded, List.length_append, List.length_replicate, Nat.sub_add_cancel hlength]

end Date

/-! ## Reading the parts -/

namespace Timestamp

open Date (padded isDigits_padded padded_ne_nil ofDigitChars_padded length_padded yearText)

theorem isBlank_of_isDigit {c : Char} (h : c.isDigit = true) : Text.isBlank c = false := by
  simp only [Char.isDigit, Bool.and_eq_true, decide_eq_true_eq] at h
  have hlow : 48 ≤ c.toNat := h.1
  have hhigh : c.toNat ≤ 57 := h.2
  simp only [Text.isBlank, Bool.or_eq_false_iff, Bool.and_eq_false_iff, decide_eq_false_iff_not,
    beq_eq_false_iff_ne]
  omega

theorem trimStart_cons {c : Char} (h : Text.isBlank c = false) (cs : List Char) :
    Text.trimStart (c :: cs) = c :: cs := by
  rw [Text.trimStart, List.dropWhile_cons_of_neg (by simp [h])]

theorem trimStart_digits {ds : List Char} (hds : IsDigits ds) (hne : ds ≠ []) (rest : List Char) :
    Text.trimStart (ds ++ rest) = ds ++ rest := by
  obtain ⟨d, ds, rfl⟩ := List.exists_cons_of_ne_nil hne
  exact trimStart_cons (isBlank_of_isDigit (hds d List.mem_cons_self)) _

/-- Digits are read up to the width, or up to the first character that is none. -/
theorem readDigits?_append {width : ℕ} {ds rest : List Char} (hds : IsDigits ds) (hne : ds ≠ [])
    (hw : ds.length ≤ width)
    (hstop : ds.length = width ∨ ∀ c ∈ rest.head?, c.isDigit = false) :
    readDigits? width (ds ++ rest) = some (Nat.ofDigitChars 10 ds 0, rest) := by
  have htake : ((ds ++ rest).take width).takeWhile Char.isDigit = ds := by
    rw [List.take_append, List.take_of_length_le hw, List.takeWhile_append_of_pos hds]
    suffices h : (rest.take (width - ds.length)).takeWhile Char.isDigit = [] by
      rw [h, List.append_nil]
    rcases hstop with hstop | hstop
    · rw [hstop, Nat.sub_self, List.take_zero, List.takeWhile_nil]
    · cases rest with
      | nil => simp
      | cons c rest =>
        cases width - ds.length with
        | zero => rfl
        | succ k => rw [List.take_succ_cons, List.takeWhile_cons_of_neg (by simp [hstop c rfl])]
  simp only [readDigits?, htake, List.isEmpty_iff, hne, if_false, List.drop_left]

theorem readNumber?_padded {n : ℕ} (h : n < 100) (rest : List Char) :
    readNumber? ((padded 2 n).toList ++ rest) = some (n, rest) := by
  have hlength : (padded 2 n).toList.length = 2 := length_padded (by decide) h
  rw [readNumber?, trimStart_digits (isDigits_padded 2 n) (padded_ne_nil 2 n),
    readDigits?_append (isDigits_padded 2 n) (padded_ne_nil 2 n) hlength.le (Or.inl hlength),
    ofDigitChars_padded]

theorem mem_of_append_eq_cons {ds rest cs : List Char} {c : Char} (hne : ds ≠ [])
    (h : ds ++ rest = c :: cs) : c ∈ ds := by
  obtain ⟨d, ds, rfl⟩ := List.exists_cons_of_ne_nil hne
  rw [List.cons_append] at h
  exact (List.cons.inj h).1 ▸ List.mem_cons_self

/-- Of a number with more than two digits there are some left. -/
theorem exists_readNumber?_padded {n : ℕ} (h : 100 ≤ n) (rest : List Char) :
    ∃ k c rest', c.isDigit = true ∧
      readNumber? ((padded 2 n).toList ++ rest) = some (k, c :: rest') := by
  have hlength : ¬ (padded 2 n).toList.length ≤ 2 := by
    rw [Date.toList_padded, List.length_append]
    have := mt (Nat.length_toDigits_le_iff (b := 10) (n := n) (by decide) (by decide : 0 < 2)).1
      (by omega)
    omega
  have hdigits := isDigits_padded 2 n
  rw [readNumber?, trimStart_digits hdigits (padded_ne_nil 2 n)]
  -- two of the digits are read, which leaves the third one
  rcases hds : (padded 2 n).toList with _ | ⟨a, _ | ⟨b, _ | ⟨c, ds⟩⟩⟩
  all_goals rw [hds] at hlength hdigits
  · exact absurd (Nat.zero_le 2) hlength
  · exact absurd (Nat.le_succ 1) hlength
  · exact absurd le_rfl hlength
  · refine ⟨Nat.ofDigitChars 10 [a, b] 0, c, ds ++ rest, hdigits c (by simp), ?_⟩
    have htwo : IsDigits [a, b] := fun d hd => hdigits d (by simp at hd ⊢; tauto)
    show readDigits? 2 ([a, b] ++ (c :: ds ++ rest)) = _
    exact readDigits?_append htwo (by simp) le_rfl (Or.inl rfl)

theorem readYear?_yearText (year : ℤ) {rest : List Char}
    (hstop : ∀ c ∈ rest.head?, c.isDigit = false) :
    readYear? ((yearText year).toList ++ rest) = some (year, rest) := by
  obtain ⟨ds, hds⟩ : ∃ ds, ds = (padded 4 year.natAbs).toList := ⟨_, rfl⟩
  have hdigits : IsDigits ds := hds ▸ isDigits_padded 4 _
  have hne : ds ≠ [] := hds ▸ padded_ne_nil 4 _
  have hvalue : Nat.ofDigitChars 10 ds 0 = year.natAbs := hds ▸ ofDigitChars_padded 4 _
  -- behind a sign all digits are read
  have hsigned : readDigits? (ds ++ rest).length (ds ++ rest) = some (year.natAbs, rest) := by
    rw [readDigits?_append hdigits hne (by simp) (Or.inr hstop), hvalue]
  unfold yearText
  split
  · rename_i hneg
    have hyear : -(year.natAbs : ℤ) = year := by omega
    rw [String.toList_append, ← hds, List.append_assoc]
    show (readDigits? (ds ++ rest).length (ds ++ rest)).map _ = _
    rw [hsigned]
    exact congrArg (fun y => some (y, rest)) hyear
  · rename_i hneg
    have hyear : (year.natAbs : ℤ) = year := by omega
    split
    · rw [String.toList_append, ← hds, List.append_assoc]
      show (readDigits? (ds ++ rest).length (ds ++ rest)).map _ = _
      rw [hsigned]
      exact congrArg (fun y => some (y, rest)) hyear
    · rename_i hsmall
      have hlength : ds.length = 4 := hds ▸ length_padded (by decide) (by omega)
      have hread : readDigits? 4 (ds ++ rest) = some (year.natAbs, rest) := by
        rw [readDigits?_append hdigits hne hlength.le (Or.inl hlength), hvalue]
      rw [← hds, readYear?, trimStart_digits hdigits hne]
      -- the first character is a digit, so it is no sign
      split
      · rename_i hminus
        have := hdigits '-' (mem_of_append_eq_cons hne hminus)
        cases this
      · rename_i hplus
        have := hdigits '+' (mem_of_append_eq_cons hne hplus)
        cases this
      · rw [hread]
        exact congrArg (fun y => some (y, rest)) hyear

theorem expect?_cons {c : Char} (h : Text.isBlank c = false) (rest : List Char) :
    expect? c (c :: rest) = some rest := by
  rw [expect?, trimStart_cons h]
  exact if_pos rfl

theorem readFraction?_digits {ds : List Char} (hds : IsDigits ds) (hne : ds ≠ [])
    (hlength : ds.length ≤ 9) :
    readFraction? ('.' :: ds ++ ['Z']) =
      some (Nat.ofDigitChars 10 ds 0 * 10 ^ (9 - ds.length), ['Z']) := by
  have htake : (ds ++ ['Z']).takeWhile Char.isDigit = ds := by
    rw [List.takeWhile_append_of_pos hds]
    simp
  simp only [List.cons_append, readFraction?, htake, List.isEmpty_iff, hne, if_false,
    List.drop_left, List.take_of_length_le hlength]

theorem readFraction?_digit {c : Char} (h : c.isDigit = true) (rest : List Char) :
    readFraction? (c :: rest) = some (0, c :: rest) := by
  unfold readFraction?
  split
  · rename_i heq
    obtain ⟨rfl, -⟩ := List.cons.inj heq
    cases h
  · rfl

theorem readFraction?_fractionText {n : ℕ} (h : n < 10 ^ 9) :
    readFraction? ((fractionText n).toList ++ ['Z']) = some (n, ['Z']) := by
  have hpadded {width m : ℕ} (hw : 0 < width) (hw' : width ≤ 9) (hm : m < 10 ^ width) :
      readFraction? (("." ++ padded width m).toList ++ ['Z']) =
        some (m * 10 ^ (9 - width), ['Z']) := by
    have hlength := length_padded hw hm
    have hread := readFraction?_digits (isDigits_padded width m) (padded_ne_nil width m)
      (hlength.le.trans hw')
    rw [ofDigitChars_padded, hlength] at hread
    rw [String.toList_append]
    exact hread
  unfold fractionText
  split
  · rename_i hzero
    subst hzero
    rfl
  · split
    · rw [hpadded (by decide) (by decide) (by omega)]
      congr 2
      omega
    · split
      · rw [hpadded (by decide) (by decide) (by omega)]
        congr 2
        omega
      · rw [hpadded (by decide) (by decide) h]
        congr 2
        omega

/-- A blank at the end is taken off behind what is not blank. -/
theorem exists_trimEnd_cons {c : Char} (h : Text.isBlank c = false) (cs : List Char) :
    ∃ cs', Text.trimEnd (c :: cs) = c :: cs' := by
  rw [Text.trimEnd, List.reverse_cons, List.dropWhile_append]
  split
  · refine ⟨[], ?_⟩
    rw [List.dropWhile_cons_of_neg (by simp [h])]
    rfl
  · exact ⟨(cs.reverse.dropWhile Text.isBlank).reverse, by simp⟩

/-- No offset starts with a digit. -/
theorem readOffset?_digit {c : Char} (h : c.isDigit = true) (cs : List Char) :
    readOffset? (c :: cs) = none := by
  obtain ⟨cs', hcs'⟩ := exists_trimEnd_cons (isBlank_of_isDigit h) cs
  have hne (d : Char) (hd : d.isDigit = false) : c ≠ d := fun heq => by
    rw [heq, hd] at h
    cases h
  have hupper : c.toUpper = c := by
    unfold Char.toUpper
    refine dif_neg fun hlower => ?_
    simp only [Char.isDigit, Bool.and_eq_true, decide_eq_true_eq] at h
    have hlow : 97 ≤ c.toNat := hlower.1
    have hhigh : c.toNat ≤ 57 := h.2
    omega
  have hzulu : isZulu (c :: cs') = false := by
    simp [isZulu, hupper, hne 'Z' rfl, hne 'z' rfl, hne 'U' rfl]
  rw [readOffset?, trimStart_cons (isBlank_of_isDigit h), hcs']
  simp only [hzulu, Bool.false_eq_true, if_false]
  split <;> simp_all

/-! ## Reading the whole -/

/-- What is written for a point in time, part by part. -/
def parts (date : Date) (hour minute second fraction : ℕ) : List Char :=
  (yearText date.year).toList ++ '-' :: ((padded 2 date.month).toList ++ '-' ::
    ((padded 2 date.day).toList ++ 'T' :: ((padded 2 hour).toList ++ ':' ::
      ((padded 2 minute).toList ++ ':' :: ((padded 2 second).toList ++
        ((fractionText fraction).toList ++ ['Z']))))))

theorem bind_of_eq_some {α β : Type} {x : Option α} {a : α} {f : α → Option β} (h : x = some a) :
    (x >>= f) = f a := by
  rw [h]
  rfl

theorem readOffset?_zulu : readOffset? ['Z'] = some 0 := rfl

theorem parse?_parts {date : Date} {hour minute second fraction : ℕ} (hdate : date.IsDate)
    (hhour : hour < 24) (hminute : minute < 60) (hfraction : fraction < 10 ^ 9) :
    parse? (String.ofList (parts date hour minute second fraction)) =
      if 60 < second ∨ date.year < -262143 ∨ 262142 < date.year then none
      else some ⟨(date.dayNumber - epochDay) * 86400 +
          (hour * 3600 + minute * 60 + min second 59 : ℕ),
        if second = 60 then fraction + 10 ^ 9 else fraction⟩ := by
  have hmonth : date.month < 100 := hdate.month_le.trans_lt (by decide)
  have hday : date.day < 100 := hdate.day_le.trans_lt (by decide)
  have hdash (rest : List Char) : ∀ c ∈ ('-' :: rest).head?, c.isDigit = false := by
    rintro c ⟨⟩
    rfl
  -- each part is read up to the sign behind it
  rw [parse?, String.toList_ofList, parts]
  refine (bind_of_eq_some (readYear?_yearText date.year (hdash _))).trans ?_
  refine (bind_of_eq_some (expect?_cons rfl _)).trans ?_
  refine (bind_of_eq_some (readNumber?_padded hmonth _)).trans ?_
  refine (bind_of_eq_some (expect?_cons rfl _)).trans ?_
  refine (bind_of_eq_some (readNumber?_padded hday _)).trans ?_
  refine (if_pos (Or.inl rfl)).trans ?_
  refine (bind_of_eq_some rfl).trans ?_
  refine (bind_of_eq_some (readNumber?_padded (hhour.trans (by decide)) _)).trans ?_
  refine (bind_of_eq_some (expect?_cons rfl _)).trans ?_
  refine (bind_of_eq_some (readNumber?_padded (hminute.trans (by decide)) _)).trans ?_
  refine (bind_of_eq_some (expect?_cons rfl _)).trans ?_
  by_cases hsecond : second < 100
  · refine (bind_of_eq_some (readNumber?_padded hsecond _)).trans ?_
    refine (bind_of_eq_some (readFraction?_fractionText hfraction)).trans ?_
    refine (bind_of_eq_some (readOffset?_zulu)).trans ?_
    by_cases hrange : 60 < second ∨ date.year < -262143 ∨ 262142 < date.year
    · rw [if_pos hrange]
      exact if_pos (Or.inr (Or.inr hrange))
    · rw [if_neg hrange]
      refine (if_neg (by omega)).trans ?_
      refine (bind_of_eq_some (Date.of?_eq_some date hdate)).trans ?_
      exact congrArg (fun seconds => some (Timestamp.mk seconds _)) (sub_zero _)
  · -- a third digit is left for the offset
    obtain ⟨k, c, rest, hc, hread⟩ := exists_readNumber?_padded (not_lt.1 hsecond)
      ((fractionText fraction).toList ++ ['Z'])
    refine (bind_of_eq_some hread).trans ?_
    refine (bind_of_eq_some (readFraction?_digit hc rest)).trans ?_
    rw [if_pos (Or.inl (by omega))]
    show (readOffset? (c :: rest) >>= _) = none
    rw [readOffset?_digit hc]
    rfl

theorem text_eq_parts (t : Timestamp) :
    t.text = String.ofList (parts (Date.ofDayNumber (t.seconds / 86400 + epochDay))
      ((t.seconds % 86400).toNat / 3600) ((t.seconds % 86400).toNat / 60 % 60)
      ((t.seconds % 86400).toNat % 60 + t.nanoseconds / 10 ^ 9) (t.nanoseconds % 10 ^ 9)) := by
  apply String.toList_injective
  simp only [text, Date.text, parts, String.toList_append, String.toList_ofList]
  simp

/-- The text of a timestamp that is given by its day and its clock. -/
theorem text_of_clock {n : ℤ} {hour minute second fraction : ℕ} (hhour : hour < 24)
    (hminute : minute < 60) (hsecond : second ≤ 60) (hfraction : fraction < 10 ^ 9) :
    text ⟨(n - epochDay) * 86400 + (hour * 3600 + minute * 60 + min second 59 : ℕ),
        if second = 60 then fraction + 10 ^ 9 else fraction⟩ =
      String.ofList (parts (Date.ofDayNumber n) hour minute second fraction) := by
  obtain ⟨clock, hclock⟩ : ∃ k, k = hour * 3600 + minute * 60 + min second 59 := ⟨_, rfl⟩
  have hday : ((n - epochDay) * 86400 + (clock : ℤ)) / 86400 + epochDay = n := by omega
  have hrest : (((n - epochDay) * 86400 + (clock : ℤ)) % 86400).toNat = clock := by omega
  have hh : clock / 3600 = hour := by omega
  have hm : clock / 60 % 60 = minute := by omega
  -- only a leap second has a whole second in its nanoseconds
  have hs : clock % 60 + (if second = 60 then fraction + 10 ^ 9 else fraction) / 10 ^ 9 =
      second := by
    split <;> omega
  have hf : (if second = 60 then fraction + 10 ^ 9 else fraction) % 10 ^ 9 = fraction := by
    split <;> omega
  rw [← hclock, text_eq_parts]
  simp only [hday, hrest, hh, hm, hs, hf]

/-- **What is read for the text of a timestamp has the same text.** -/
theorem text_of_parse?_text {t t' : Timestamp} (h : parse? t.text = some t') :
    t'.text = t.text := by
  obtain ⟨hdate, hday⟩ := Date.ofDayNumber_spec (t.seconds / 86400 + epochDay)
  have hfraction : t.nanoseconds % 10 ^ 9 < 10 ^ 9 := Nat.mod_lt _ (by decide)
  -- what is read has the parts that were written, unless it is no timestamp
  rw [text_eq_parts t, parse?_parts hdate (by omega) (by omega) hfraction, hday] at h
  split at h
  · cases h
  · rename_i hrange
    obtain rfl := Option.some.inj h
    rw [text_of_clock (by omega) (by omega) (by omega) hfraction, text_eq_parts t]

end Timestamp

end CustomFields.Calendar
