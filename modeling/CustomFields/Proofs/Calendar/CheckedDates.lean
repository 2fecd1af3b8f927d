import CustomFields.Proofs.Calendar.Checked
import CustomFields.Proofs.Calendar.NamedDays

/-!
# Date parts are read without a fault

A date part is cut into slices by offsets that are written down in the reader. Where its bytes are as
many as they should be, and hyphens stand where they should, the slices are the parts between the
hyphens; and a part of so many bytes that is a number has as many digits. So what is found on bytes is
what is found on characters, and a number of nine digits or less is never too large. A weekday is looked
at before one is taken from it, and the days of a week are days of the calendar.

## Main results

* `Calendar.Checked.digitsBelow?_eq`: no number of nine digits is too large
* `Calendar.Checked.weekDate_answers`: week dates are read without a fault
* `Calendar.Checked.datePart_answers`: and so are all date parts
-/

namespace CustomFields.Calendar

-- Powers are those of the core library, whatever else is imported.
attribute [local instance (high)] instPowNat

open Decimal (IsDigits ofDigitChars_lt)
open Reader

/-- The characters of a date are of one byte. -/
theorem DateText.byteLength_eq {cs : List Char} {date : Date} (h : DateText cs date) :
    byteLength cs = cs.length := by
  have hhyphen : '-'.utf8Size = 1 := rfl
  have hmark : 'W'.utf8Size = 1 := rfl
  cases h with
  | day hyphens hy hm hd _ =>
    cases hyphens <;> simp [joined, hhyphen, hy.byteLength_eq, hm.byteLength_eq, hd.byteLength_eq,
      hy.length_eq, hm.length_eq, hd.length_eq]
  | week hyphens hy hw _ =>
    cases hyphens <;> simp [joined, hhyphen, hmark, hy.byteLength_eq, hw.byteLength_eq,
      hy.length_eq, hw.length_eq]
  | weekday hyphens hy hw hd _ =>
    cases hyphens <;> simp [joined, hhyphen, hmark, hy.byteLength_eq, hw.byteLength_eq,
      hd.byteLength_eq, hy.length_eq, hw.length_eq, hd.length_eq]

namespace Checked

/-! ## Numbers -/

theorem isDigits_eq (cs : List Char) : isDigits cs = (!cs.isEmpty && cs.all Char.isDigit) := by
  have hall : (byteCells cs).all (Option.any Char.isDigit) = cs.all Char.isDigit := by
    induction cs with
    | nil => rfl
    | cons c cs ih =>
      rw [byteCells_cons, List.all_cons, List.all_append, ih, List.all_cons, ← Bool.and_assoc]
      congr 1
      -- a digit has no further byte
      cases hc : c.isDigit with
      | false => simp [hc]
      | true => simp [hc, utf8Size_of_isDigit hc]
  have hempty : (byteCells cs).isEmpty = cs.isEmpty := by
    cases cs <;> rfl
  rw [isDigits, hall, hempty]

theorem isDigits_iff {cs : List Char} : isDigits cs = true ↔ cs ≠ [] ∧ IsDigits cs := by
  simp [isDigits_eq, IsDigits]

theorem natBelow?_of_isDigits {limit : ℕ} {ds : List Char} (hne : ds ≠ []) (hds : IsDigits ds)
    (hlt : Nat.ofDigitChars 10 ds 0 < limit) :
    Decimal.natBelow? limit (String.ofList ds) = some (Nat.ofDigitChars 10 ds 0) := by
  unfold Decimal.natBelow?
  rw [String.toList_ofList]
  split
  · exact absurd (hds '+' List.mem_cons_self) (by decide)
  · simpa [hne, hlt, IsDigits] using hds

/-- **No number of nine digits is too large.** -/
theorem digitsBelow?_eq {limit : ℕ} (hlimit : 10 ^ (9 : ℕ) ≤ limit) {cs : List Char}
    (hlength : byteLength cs ≤ 9) : digitsBelow? limit cs = digits? cs := by
  by_cases h : isDigits cs = true
  · obtain ⟨hne, hds⟩ := isDigits_iff.1 h
    have hlong : cs.length ≤ 9 := (length_le_byteLength cs).trans hlength
    have hlt : Nat.ofDigitChars 10 cs 0 < limit :=
      ((ofDigitChars_lt hds).trans_le (Nat.pow_le_pow_right (by decide) hlong)).trans_le hlimit
    rw [digitsBelow?, if_pos h, natBelow?_of_isDigits hne hds hlt, digits?, ← isDigits_eq, if_pos h]
  · rw [digitsBelow?, if_neg h, digits?, ← isDigits_eq, if_neg h]

theorem number?_eq {cs : List Char} (h : byteLength cs ≤ 9) : number? cs = digits? cs :=
  digitsBelow?_eq (by decide) h

theorem year?_eq {cs : List Char} (h : byteLength cs ≤ 9) : year? cs = digits? cs :=
  digitsBelow?_eq (by decide) h

/-- A number in a text of so many bytes. -/
theorem digits?_iff_isNumber {width : ℕ} {cs : List Char} {n : ℕ} (hlength : byteLength cs = width)
    (hw : 0 < width) : digits? cs = some n ↔ IsNumber width cs n := by
  constructor
  · intro h
    have hn := isNumber_of_digits? h
    rwa [← byteLength_of_isDigits hn.digits, hlength] at hn
  · exact fun h => h.digits?_eq hw

theorem number?_iff {width : ℕ} {cs : List Char} {n : ℕ} (hlength : byteLength cs = width)
    (hw : 0 < width ∧ width ≤ 9) : number? cs = some n ↔ IsNumber width cs n := by
  rw [number?_eq (hlength.trans_le hw.2), digits?_iff_isNumber hlength hw.1]

theorem year?_iff {cs : List Char} {n : ℕ} (hlength : byteLength cs = 4) :
    year? cs = some n ↔ IsNumber 4 cs n := by
  rw [year?_eq (by omega), digits?_iff_isNumber hlength (by decide)]

/-! ## Week dates -/

/-- What stands behind a year: a week, or a week and a weekday, with hyphens or without. -/
inductive BehindYear : List Char → List Char → Option (List Char) → Prop
  | extendedWeek (w : List Char) : BehindYear ('-' :: 'W' :: w) w none
  | extendedDay (w d : List Char) : BehindYear ('-' :: 'W' :: (w ++ '-' :: d)) w (some d)
  | basicWeek (w : List Char) : BehindYear ('W' :: w) w none
  | basicDay (w d : List Char) : BehindYear ('W' :: (w ++ d)) w (some d)

theorem stripHyphen?_eq_some_iff {cs rest : List Char} :
    stripHyphen? cs = some rest ↔ cs = '-' :: rest := by
  unfold stripHyphen?
  split
  · simp
  · rename_i hne
    exact iff_of_false nofun fun h => hne rest h

theorem behindYear_of_weekAndDay? {rest w : List Char} {day : Option (List Char)}
    (h : weekAndDay? rest = some (w, day)) :
    BehindYear rest w day ∧ byteLength w = 2 ∧ ∀ d ∈ day, byteLength d = 1 := by
  have hhyphen : '-'.utf8Size = 1 := rfl
  unfold weekAndDay? at h
  split at h
  · rename_i extended
    split at h
    · rename_i hlength
      obtain ⟨rfl, rfl⟩ := Prod.mk.inj (Option.some.inj h)
      exact ⟨.extendedWeek _, hlength, nofun⟩
    · split at h
      · rename_i hlength
        simp only [Option.bind_eq_bind, Option.bind_eq_some_iff, stripHyphen?_eq_some_iff,
          Option.pure_def, Option.some.injEq, Prod.mk.injEq] at h
        obtain ⟨w, hw, _, hback, d, rfl, rfl, rfl⟩ := h
        obtain ⟨rfl, hwlength⟩ := cut_iff.1 ⟨hw, hback⟩
        rw [byteLength_append, byteLength_cons, hwlength, hhyphen] at hlength
        exact ⟨.extendedDay w d, hwlength, fun d' hd => Option.some.inj hd ▸ by omega⟩
      · cases h
  · rename_i basic
    split at h
    · rename_i hlength
      obtain ⟨rfl, rfl⟩ := Prod.mk.inj (Option.some.inj h)
      exact ⟨.basicWeek _, hlength, nofun⟩
    · split at h
      · rename_i hlength
        simp only [Option.bind_eq_bind, Option.bind_eq_some_iff, Option.pure_def,
          Option.some.injEq, Prod.mk.injEq] at h
        obtain ⟨w, hw, d, hback, rfl, rfl⟩ := h
        obtain ⟨rfl, hwlength⟩ := cut_iff.1 ⟨hw, hback⟩
        rw [byteLength_append, hwlength] at hlength
        exact ⟨.basicDay w d, hwlength, fun d' hd => Option.some.inj hd ▸ by omega⟩
      · cases h
  · cases h

theorem BehindYear.weekAndDay?_eq {rest w : List Char} {day : Option (List Char)}
    (h : BehindYear rest w day) (hw : byteLength w = 2) (hday : ∀ d ∈ day, byteLength d = 1) :
    weekAndDay? rest = some (w, day) := by
  have hhyphen : '-'.utf8Size = 1 := rfl
  cases h with
  | extendedWeek => simp [weekAndDay?, hw]
  | extendedDay w d =>
    obtain ⟨hfront, hback⟩ := (@cut_iff _ w ('-' :: d) 2).2 ⟨rfl, hw⟩
    have hlength : byteLength (w ++ '-' :: d) = 4 := by
      rw [byteLength_append, byteLength_cons, hw, hday d rfl, hhyphen]
    rw [hlength] at hback
    simp only [weekAndDay?, hlength, hfront, hback]
    rfl
  | basicWeek => simp [weekAndDay?, hw]
  | basicDay w d =>
    obtain ⟨hfront, hback⟩ := (@cut_iff _ w d 2).2 ⟨rfl, hw⟩
    have hlength : byteLength (w ++ d) = 3 := by
      rw [byteLength_append, hw, hday d rfl]
    rw [hlength] at hback
    simp only [weekAndDay?, hlength, hfront, hback]
    rfl

/-- Where the texts of a week and of a weekday are found. -/
theorem weekAndDay?_eq_some_iff {rest w : List Char} {day : Option (List Char)} :
    weekAndDay? rest = some (w, day) ↔
      BehindYear rest w day ∧ byteLength w = 2 ∧ ∀ d ∈ day, byteLength d = 1 :=
  ⟨behindYear_of_weekAndDay?, fun ⟨h, hw, hday⟩ => h.weekAndDay?_eq hw hday⟩

/-- Which numbers are read there. -/
theorem readWeekAndDay?_eq_some_iff {rest : List Char} {week weekday : ℕ} :
    readWeekAndDay? rest = some (week, weekday) ↔ ∃ w day, BehindYear rest w day ∧
      IsNumber 2 w week ∧ (day = none ∧ weekday = 1 ∨ ∃ d, day = some d ∧ IsNumber 1 d weekday) := by
  constructor
  · intro h
    unfold readWeekAndDay? at h
    split at h
    · simp [Option.bind_eq_some_iff] at h
      exact ⟨_, none, .extendedWeek _, isNumber_of_digits? h.1, .inl ⟨rfl, h.2.symm⟩⟩
    · simp [Option.bind_eq_some_iff] at h
      exact ⟨_, _, .extendedDay [_, _] _, isNumber_of_digits? h.1,
        .inr ⟨_, rfl, isNumber_of_digits? h.2⟩⟩
    · simp [Option.bind_eq_some_iff] at h
      exact ⟨_, none, .basicWeek _, isNumber_of_digits? h.1, .inl ⟨rfl, h.2.symm⟩⟩
    · simp [Option.bind_eq_some_iff] at h
      exact ⟨_, _, .basicDay [_, _] _, isNumber_of_digits? h.1,
        .inr ⟨_, rfl, isNumber_of_digits? h.2⟩⟩
    · cases h
  · rintro ⟨w, day, hbehind, hw, hday⟩
    have hweek := hw.digits?_eq two_pos
    obtain ⟨a, b, rfl, -⟩ := hw.eq_pair
    -- without a weekday it is Monday, and else it is a digit
    rcases hday with ⟨rfl, rfl⟩ | ⟨d, rfl, hd⟩
    · cases hbehind <;> simp [readWeekAndDay?, hweek]
    · have hdigit := hd.digits?_eq one_pos
      obtain ⟨x, rfl, -⟩ := hd.eq_single
      cases hbehind <;> simp [readWeekAndDay?, hweek, hdigit]

/-- The week and the weekday behind a year, whichever way they are read. -/
theorem weekAndDay?_iff {rest : List Char} {week weekday : ℕ} :
    (∃ w day, weekAndDay? rest = some (w, day) ∧ weekday? day = some weekday ∧
      number? w = some week) ↔ readWeekAndDay? rest = some (week, weekday) := by
  rw [readWeekAndDay?_eq_some_iff]
  simp only [weekAndDay?_eq_some_iff]
  refine exists_congr fun w => exists_congr fun day => ?_
  constructor
  · rintro ⟨⟨hbehind, hw, hd⟩, hday, hweek⟩
    refine ⟨hbehind, (number?_iff hw (by decide)).1 hweek, ?_⟩
    cases day with
    | none => exact .inl ⟨rfl, (Option.some.inj hday).symm⟩
    | some d => exact .inr ⟨d, rfl, (number?_iff (hd d rfl) (by decide)).1 hday⟩
  · rintro ⟨hbehind, hw, ⟨rfl, rfl⟩ | ⟨d, rfl, hd⟩⟩
    · exact ⟨⟨hbehind, hw.byteLength_eq, nofun⟩, rfl, (number?_iff hw.byteLength_eq (by decide)).2 hw⟩
    · refine ⟨⟨hbehind, hw.byteLength_eq, fun d' hd' => ?_⟩,
        (number?_iff hd.byteLength_eq (by decide)).2 hd,
        (number?_iff hw.byteLength_eq (by decide)).2 hw⟩
      obtain rfl := Option.some.inj hd'
      exact hd.byteLength_eq

theorem readWeekDate?_eq_some_iff {cs : List Char} {date : Date} :
    readWeekDate? cs = some date ↔ ∃ y rest year week weekday, cs = y ++ rest ∧ IsNumber 4 y year ∧
      readWeekAndDay? rest = some (week, weekday) ∧ Date.ofWeek? year week weekday = some date := by
  constructor
  · intro h
    unfold readWeekDate? at h
    split at h
    · rename_i a b c d rest
      simp only [Option.bind_eq_bind, Option.bind_eq_some_iff, Prod.exists] at h
      obtain ⟨year, hy, week, weekday, hrest, hdate⟩ := h
      exact ⟨[a, b, c, d], rest, year, week, weekday, rfl, isNumber_of_digits? hy, hrest, hdate⟩
    · cases h
  · rintro ⟨y, rest, year, week, weekday, rfl, hy, hrest, hdate⟩
    rw [readWeekDate?_append hy hrest, hdate]

section WeekDates

variable (range : DayRange)

/-- Monday and up to six days more are days of any calendar. -/
theorem addDays_answers {year week weekday : ℕ} {monday : Date} (hyear : year < 10000)
    (hmonday : Date.ofWeek? year week 1 = some monday) (h : 1 ≤ weekday ∧ weekday ≤ 7) :
    (addDays range monday (weekday - 1)).Answers
      (some (Date.ofDayNumber (monday.dayNumber + (weekday - 1 : ℕ)))) := by
  have hweekday := @Date.ofWeek?_weekday year week weekday h
  rw [hmonday] at hweekday
  have hday := (Date.ofWeek?_eq_some_iff.1 hweekday.symm).dayNumber_mem hyear
  rw [(Date.ofDayNumber_spec _).2] at hday
  have hfirst := range.first_le
  have hlast := range.le_last
  have hend : Date.daysBeforeYear 10001 = Date.daysBeforeYear 10000 + 366 := by decide
  rw [Date.dayNumber_earliest, Date.dayNumber_latest] at hday
  rw [addDays, if_pos (by omega)]
  exact answers_pure _

/-- **The weekday is added to Monday** without a fault. -/
theorem dayOfWeek_answers {year : ℕ} (hyear : year < 10000) (w : List Char) (weekday : ℕ) :
    (dayOfWeek range year w weekday).Answers
      ((number? w).bind fun week => Date.ofWeek? year week weekday) := by
  rw [dayOfWeek]
  split
  · rename_i h
    have hadded : (number? w >>= fun week => Date.ofWeek? year week 1 >>= fun monday =>
        some (Date.ofDayNumber (monday.dayNumber + (weekday - 1 : ℕ)))) =
          (number? w).bind fun week => Date.ofWeek? year week weekday :=
      congrArg (number? w).bind (funext fun week => Date.ofWeek?_weekday h)
    rw [← hadded]
    refine (answers_ask (number? w)).bind fun week _ => (answers_ask _).bind fun monday hmonday => ?_
    rw [subtract_eq h.1, pure_bind]
    exact addDays_answers range hyear hmonday h
  · rename_i h
    have hnone : ((number? w).bind fun week => Date.ofWeek? year week weekday) = none := by
      refine Option.bind_eq_none_iff.2 fun week _ => if_neg ?_
      omega
    rw [hnone]
    exact answers_failure

/-- **A week date is read** without a fault. -/
theorem weekDate_answers (cs : List Char) : (weekDate range cs).Answers (readWeekDate? cs) := by
  have hanswer : (weekDate range cs).Answers (slice? cs 0 4 >>= fun y => year? y >>= fun year =>
      slice? cs 4 (byteLength cs) >>= fun rest => weekAndDay? rest >>= fun week =>
      weekday? week.2 >>= fun weekday => (number? week.1).bind fun n =>
      Date.ofWeek? year n weekday) := by
    refine (answers_ask _).bind fun y hy => (answers_ask _).bind fun year hyear =>
      (answers_ask _).bind fun rest _ => (answers_ask _).bind fun week _ =>
      (answers_ask _).bind fun weekday _ => ?_
    obtain ⟨-, -, hlength⟩ := slice?_front_iff.1 hy
    exact dayOfWeek_answers range ((year?_iff hlength).1 hyear).lt _ _
  suffices heq : _ = readWeekDate? cs from heq ▸ hanswer
  ext date
  simp only [Option.bind_eq_bind, Option.bind_eq_some_iff, readWeekDate?_eq_some_iff]
  constructor
  · rintro ⟨y, hy, year, hyear, rest, hrest, ⟨w, day⟩, hsplit, weekday, hday, week, hweek, hdate⟩
    obtain ⟨rfl, hlength⟩ := cut_iff.1 ⟨hy, hrest⟩
    exact ⟨y, rest, year, week, weekday, rfl, (year?_iff hlength).1 hyear,
      weekAndDay?_iff.1 ⟨w, day, hsplit, hday, hweek⟩, hdate⟩
  · rintro ⟨y, rest, year, week, weekday, rfl, hy, hrest, hdate⟩
    obtain ⟨w, day, hsplit, hday, hweek⟩ := weekAndDay?_iff.2 hrest
    obtain ⟨hfront, hback⟩ := cut_iff.2 ⟨rfl, hy.byteLength_eq⟩
    exact ⟨y, hfront, year, (year?_iff hy.byteLength_eq).2 hy, rest, hback, (w, day), hsplit,
      weekday, hday, week, hweek, hdate⟩

end WeekDates

/-! ## Date parts -/

/-- Texts with hyphens are cut into the parts of a date between them. -/
theorem exists_joined_of_slices {cs y m d : List Char} (h : hasHyphens cs = true)
    (hy : slice? cs 0 4 = some y) (hm : slice? cs 5 7 = some m) (hd : slice? cs 8 10 = some d) :
    cs = joined '-' true [y, m, d] ∧ byteLength y = 4 ∧ byteLength m = 2 ∧ byteLength d = 2 := by
  have hhyphen : byteLength ['-'] = 1 := rfl
  simp only [hasHyphens, Bool.and_eq_true, decide_eq_true_eq] at h
  obtain ⟨⟨hlength, hfirst⟩, hsecond⟩ := h
  -- from the front on, each part and each hyphen leaves a shorter rest
  obtain ⟨rest, rfl, hylength⟩ := slice?_front_iff.1 hy
  obtain ⟨rest, rfl⟩ := (getElem?_byteCells_iff hylength).1 hfirst
  have hbefore : byteLength (y ++ ['-']) = 5 := by rw [byteLength_append, hylength, hhyphen]
  rw [List.append_cons] at hm hd hsecond hlength
  obtain ⟨rest, rfl, hmlength⟩ := (slice?_behind_iff 2 hbefore).1 hm
  have hbefore' : byteLength (y ++ ['-'] ++ m) = 7 := by rw [byteLength_append, hbefore, hmlength]
  rw [← List.append_assoc] at hd hsecond hlength
  obtain ⟨rest, rfl⟩ := (getElem?_byteCells_iff hbefore').1 hsecond
  have hbefore'' : byteLength (y ++ ['-'] ++ m ++ ['-']) = 8 := by
    rw [byteLength_append, hbefore', hhyphen]
  rw [List.append_cons] at hd hlength
  obtain ⟨rest, rfl, hdlength⟩ := (slice?_behind_iff 2 hbefore'').1 hd
  simp only [byteLength_append, hylength, hmlength, hdlength, hhyphen] at hlength
  obtain rfl : rest = [] := byteLength_eq_zero_iff.1 (by omega)
  exact ⟨by simp [joined], hylength, hmlength, hdlength⟩

/-- The parts of a date lie four, two and two bytes behind each other, and as many hyphens. -/
theorem dayOfMonth?_joined (hyphens : Bool) {y m d : List Char} {year month day : ℕ}
    (hy : IsNumber 4 y year) (hm : IsNumber 2 m month) (hd : IsNumber 2 d day) :
    dayOfMonth? (joined '-' hyphens [y, m, d]) (4 + hyphens.toNat) (6 + 2 * hyphens.toNat) =
      Date.of? year month day := by
  have hyear := (year?_iff hy.byteLength_eq).2 hy
  have hmonth := (number?_iff hm.byteLength_eq (by decide)).2 hm
  have hday := (number?_iff hd.byteLength_eq (by decide)).2 hd
  obtain ⟨mark, hmark, hjoined⟩ : ∃ mark, byteLength mark = hyphens.toNat ∧
      joined '-' hyphens [y, m, d] = y ++ (mark ++ (m ++ (mark ++ d))) := by
    refine ⟨if hyphens then ['-'] else [], ?_, by simp [joined]⟩
    cases hyphens <;> rfl
  have hfront : slice? (joined '-' hyphens [y, m, d]) 0 4 = some y :=
    slice?_front_iff.2 ⟨_, hjoined, hy.byteLength_eq⟩
  have hmiddle : slice? (joined '-' hyphens [y, m, d]) (4 + hyphens.toNat)
      (4 + hyphens.toNat + 2) = some m := by
    have hbefore : byteLength (y ++ mark) = 4 + hyphens.toNat := by
      rw [byteLength_append, hy.byteLength_eq, hmark]
    rw [hjoined, ← List.append_assoc]
    exact (slice?_behind_iff 2 hbefore).2 ⟨mark ++ d, rfl, hm.byteLength_eq⟩
  have hback : slice? (joined '-' hyphens [y, m, d]) (6 + 2 * hyphens.toNat)
      (6 + 2 * hyphens.toNat + 2) = some d := by
    have hbefore : byteLength (y ++ (mark ++ (m ++ mark))) = 6 + 2 * hyphens.toNat := by
      simp only [byteLength_append, hy.byteLength_eq, hm.byteLength_eq, hmark]
      omega
    have hassoc : y ++ (mark ++ (m ++ (mark ++ d))) = y ++ (mark ++ (m ++ mark)) ++ (d ++ []) := by
      simp
    rw [hjoined, hassoc]
    exact (slice?_behind_iff 2 hbefore).2 ⟨[], rfl, hd.byteLength_eq⟩
  simp [dayOfMonth?, hfront, hmiddle, hback, hyear, hmonth, hday]

theorem hasHyphens_joined {y m d : List Char} {year month day : ℕ} (hy : IsNumber 4 y year)
    (hm : IsNumber 2 m month) (hd : IsNumber 2 d day) :
    hasHyphens (joined '-' true [y, m, d]) = true := by
  have hhyphen : '-'.utf8Size = 1 := rfl
  have hjoined : joined '-' true [y, m, d] = y ++ '-' :: (m ++ '-' :: d) := by simp [joined]
  have hassoc : y ++ '-' :: (m ++ '-' :: d) = (y ++ '-' :: m) ++ '-' :: d := by simp
  have hfirst : (byteCells (y ++ '-' :: (m ++ '-' :: d)))[4]? = some (some '-') :=
    (getElem?_byteCells_iff hy.byteLength_eq).2 ⟨_, rfl⟩
  have hsecond : (byteCells (y ++ '-' :: (m ++ '-' :: d)))[7]? = some (some '-') := by
    have hbefore : byteLength (y ++ '-' :: m) = 7 := by
      rw [byteLength_append, byteLength_cons, hy.byteLength_eq, hm.byteLength_eq, hhyphen]
    rw [hassoc]
    exact (getElem?_byteCells_iff hbefore).2 ⟨_, rfl⟩
  have hlength : byteLength (y ++ '-' :: (m ++ '-' :: d)) = 10 := by
    simp only [byteLength_append, byteLength_cons, hy.byteLength_eq, hm.byteLength_eq,
      hd.byteLength_eq, hhyphen]
  simp [hjoined, hasHyphens, hlength, hfirst, hsecond]

/-- No week date has a hyphen where a calendar date has the second one. -/
theorem readWeekDate?_of_hasHyphens {cs : List Char} (h : hasHyphens cs = true) :
    readWeekDate? cs = none := by
  have hhyphen : '-'.utf8Size = 1 := rfl
  have hmark : 'W'.utf8Size = 1 := rfl
  rw [Option.eq_none_iff_forall_ne_some]
  intro date hdate
  obtain ⟨y, rest, year, week, weekday, rfl, hy, hrest, -⟩ := readWeekDate?_eq_some_iff.1 hdate
  obtain ⟨w, day, hbehind, hw, hday⟩ := readWeekAndDay?_eq_some_iff.1 hrest
  simp only [hasHyphens, Bool.and_eq_true, decide_eq_true_eq] at h
  obtain ⟨⟨hlength, -⟩, hcell⟩ := h
  rw [byteLength_append, hy.byteLength_eq] at hlength
  have hwlength := hw.byteLength_eq
  -- of the four forms only the longest has so many bytes
  cases hbehind with
  | extendedDay w d =>
    obtain ⟨e, f, rfl, he, hf⟩ := hw.eq_pair
    have hbefore : byteLength (y ++ ['-', 'W', e]) = 7 := by
      simp only [byteLength_append, byteLength_cons, byteLength_nil, hy.byteLength_eq, hhyphen,
        hmark, utf8Size_of_isDigit he]
    have hassoc : y ++ '-' :: 'W' :: ([e, f] ++ '-' :: d) =
        (y ++ ['-', 'W', e]) ++ f :: '-' :: d := by simp
    rw [hassoc] at hcell
    obtain ⟨_, hrest⟩ := (getElem?_byteCells_iff hbefore).1 hcell
    exact ne_of_isDigit hf rfl (List.cons.inj hrest).1
  | extendedWeek => simp [hwlength, hhyphen, hmark] at hlength
  | basicWeek => simp [hwlength, hmark] at hlength
  | basicDay w d =>
    obtain ⟨d', hd, hnumber⟩ := hday.resolve_left (by simp)
    obtain rfl := Option.some.inj hd
    simp [hwlength, hnumber.byteLength_eq, hmark] at hlength

theorem dayOfMonth?_of_hasHyphens {cs : List Char} (h : hasHyphens cs = true) :
    dayOfMonth? cs 5 8 = readDatePart? cs := by
  ext date
  constructor
  · intro hfound
    simp only [dayOfMonth?, Option.bind_eq_bind, Option.bind_eq_some_iff] at hfound
    obtain ⟨y, hy, year, hyear, m, hm, month, hmonth, d, hd, day, hday, hdate⟩ := hfound
    obtain ⟨rfl, hylength, hmlength, hdlength⟩ := exists_joined_of_slices h hy hm hd
    rw [readDatePart?_day ((year?_iff hylength).1 hyear)
      ((number?_iff hmlength (by decide)).1 hmonth) ((number?_iff hdlength (by decide)).1 hday),
      hdate]
  · intro hfound
    unfold readDatePart? at hfound
    split at hfound
    · simp only [Option.bind_eq_bind, Option.bind_eq_some_iff] at hfound
      obtain ⟨year, hy, month, hm, day, hd, hdate⟩ := hfound
      exact (dayOfMonth?_joined true (isNumber_of_digits? hy) (isNumber_of_digits? hm)
        (isNumber_of_digits? hd)).trans hdate
    · rename_i cs hcs
      split at hfound
      · rename_i hdigits
        have hlength := byteLength_of_isDigits (List.all_eq_true.1 hdigits)
        simp [hasHyphens, hlength] at h
      · rw [readWeekDate?_of_hasHyphens h] at hfound
        cases hfound
    · rw [readWeekDate?_of_hasHyphens h] at hfound
      cases hfound

theorem dayOfMonth?_of_isDigits {cs : List Char} (hlength : byteLength cs = 8)
    (h : isDigits cs = true) : dayOfMonth? cs 4 6 = readDatePart? cs := by
  have hdigits := (isDigits_iff.1 h).2
  rw [byteLength_of_isDigits hdigits] at hlength
  obtain ⟨a, b, c, d, e, f, g, k, rfl⟩ : ∃ a b c d e f g k, cs = [a, b, c, d, e, f, g, k] := by
    match cs, hlength with
    | [a, b, c, d, e, f, g, k], _ => exact ⟨a, b, c, d, e, f, g, k, rfl⟩
  have hpart {part : List Char} (hmem : ∀ x ∈ part, x ∈ [a, b, c, d, e, f, g, k]) :
      IsNumber part.length part (Nat.ofDigitChars 10 part 0) :=
    ⟨fun x hx => hdigits x (hmem x hx), rfl, rfl⟩
  have hy := @hpart [a, b, c, d] (by simp +contextual)
  have hm := @hpart [e, f] (by simp +contextual)
  have hd := @hpart [g, k] (by simp +contextual)
  exact (dayOfMonth?_joined false hy hm hd).trans
    (@readDatePart?_day false _ _ _ _ _ _ hy hm hd).symm

/-- What is no calendar date is read as a week date. -/
theorem readDatePart?_of_not {cs : List Char} (hhyphens : hasHyphens cs = false)
    (hdigits : ¬(byteLength cs = 8 ∧ isDigits cs = true)) :
    readDatePart? cs = readWeekDate? cs := by
  ext date
  constructor
  · intro hfound
    unfold readDatePart? at hfound
    split at hfound
    · simp only [Option.bind_eq_bind, Option.bind_eq_some_iff] at hfound
      obtain ⟨year, hy, month, hm, day, hd, -⟩ := hfound
      have hjoined := hasHyphens_joined (isNumber_of_digits? hy) (isNumber_of_digits? hm)
        (isNumber_of_digits? hd)
      exact absurd (hhyphens.symm.trans hjoined) Bool.false_ne_true
    · split at hfound
      · rename_i hall
        have hds := List.all_eq_true.1 hall
        exact absurd ⟨byteLength_of_isDigits hds, isDigits_iff.2 ⟨List.cons_ne_nil _ _, hds⟩⟩
          hdigits
      · exact hfound
    · exact hfound
  · exact fun hfound => (dateText_of_readWeekDate? hfound).readDatePart?_eq

/-- **A date part is read** without a fault. -/
theorem datePart_answers (range : DayRange) (cs : List Char) :
    (datePart range cs).Answers (readDatePart? cs) := by
  rw [datePart]
  split
  · rename_i h
    rw [dayOfMonth?_of_hasHyphens h]
    exact answers_ask _
  · rename_i hhyphens
    split
    · rename_i h
      obtain ⟨hlength, hdigits⟩ := Bool.and_eq_true_iff.1 h
      rw [dayOfMonth?_of_isDigits (of_decide_eq_true hlength) hdigits]
      exact answers_ask _
    · rename_i h
      rw [readDatePart?_of_not (Bool.eq_false_iff.2 hhyphens) (by simpa using h)]
      exact weekDate_answers range cs

end Checked

end CustomFields.Calendar
