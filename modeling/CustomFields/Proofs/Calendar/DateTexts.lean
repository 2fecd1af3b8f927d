import CustomFields.Proofs.Calendar.IsoText

/-!
# Writing dates

A date is written as a day of a month or as a weekday of a week, with hyphens between the parts or
without them. Whatever is written is read as that date; without its weekday, a week is read as its
Monday. A date lies in one week only, and a number has one row of digits of a given length, so no
other text of the same form is read as the date.

The year of a week need not be the year of the date: the weeks at the ends of a year are of the year
that their Thursdays lie in.

## Main definitions

* `Calendar.Date.weekYear`, `Calendar.Date.week`, `Calendar.Date.weekday`: the week of a date
* `Calendar.Date.dayText`, `Calendar.Date.weekText`, `Calendar.Date.weekdayText`: the texts of a
  date
* `Calendar.IsWeekdayText`: the texts that have the form of a weekday of a week

## Main results

* `Calendar.Date.IsDate.isWeekDate`, `Calendar.Date.IsWeekDate.unique`: the one week of a date
* `Calendar.parseIsoDate?_of_dateText`: a text of a date is read as the date
* `Calendar.IsWeekdayText.eq_of_parseIsoDate?`: a date has one text of that form
-/

namespace CustomFields.Calendar

open Decimal (IsDigits ofDigitChars_lt)

/-! ## Numbers of a given width -/

theorem isNumber_padded {width n : ℕ} (hw : 0 < width) (h : n < 10 ^ width) :
    IsNumber width (Date.padded width n).toList n :=
  ⟨Date.isDigits_padded width n, Date.length_padded hw h, Date.ofDigitChars_padded width n⟩

theorem digit_injective {c c' : Char} (h : c.isDigit = true) (h' : c'.isDigit = true)
    (heq : c.toNat - '0'.toNat = c'.toNat - '0'.toNat) : c = c' := by
  simp only [Char.isDigit, Bool.and_eq_true, decide_eq_true_eq] at h h'
  have hlow : 48 ≤ c.toNat := h.1
  have hlow' : 48 ≤ c'.toNat := h'.1
  have hzero : '0'.toNat = 48 := rfl
  exact Char.toNat_inj.1 (by omega)

/-- Rows of as many digits that show the same number are the same. -/
theorem ofDigitChars_injective {ds ds' : List Char} (h : IsDigits ds) (h' : IsDigits ds')
    (hlength : ds.length = ds'.length)
    (hvalue : Nat.ofDigitChars 10 ds 0 = Nat.ofDigitChars 10 ds' 0) : ds = ds' := by
  induction ds generalizing ds' with
  | nil => exact (List.length_eq_zero_iff.1 hlength.symm).symm
  | cons d ds ih =>
    cases ds' with
    | nil => cases hlength
    | cons d' ds' =>
      obtain ⟨hd, hds⟩ := List.forall_mem_cons.1 h
      obtain ⟨hd', hds'⟩ := List.forall_mem_cons.1 h'
      have hlength : ds.length = ds'.length := Nat.succ.inj hlength
      rw [Nat.ofDigitChars_cons, Nat.ofDigitChars_cons, Nat.ofDigitChars_eq_ofDigitChars_zero,
        Nat.ofDigitChars_eq_ofDigitChars_zero (l := ds'), hlength] at hvalue
      -- the first digit is the quotient by a power of ten, and the others are the remainder
      have hlt := hlength ▸ ofDigitChars_lt hds
      have hlt' := ofDigitChars_lt hds'
      have hpos : 0 < 10 ^ ds'.length := by positivity
      obtain ⟨hfirst, hrest⟩ := (Nat.div_mod_unique hpos).2 ⟨Nat.add_comm _ _, hlt⟩
      obtain ⟨hfirst', hrest'⟩ := (Nat.div_mod_unique hpos).2 ⟨Nat.add_comm _ _, hlt'⟩
      rw [hvalue] at hfirst hrest
      have hdigit := hfirst.symm.trans hfirst'
      rw [digit_injective hd hd' (by omega), ih hds hds' hlength (hrest.symm.trans hrest')]

theorem IsNumber.chars_eq {width n : ℕ} {cs cs' : List Char} (h : IsNumber width cs n)
    (h' : IsNumber width cs' n) : cs = cs' :=
  ofDigitChars_injective h.digits h'.digits (h.length_eq.trans h'.length_eq.symm)
    (h.value_eq.trans h'.value_eq.symm)

/-! ## The week of a date -/

namespace Date

/-- The year that the week of a date is of: the one that its Thursday lies in. -/
def weekYear (d : Date) : ℤ := yearOfDayNumber (thursdayOf d.dayNumber)

/-- The week of a date, counted from 1 in the year that the week is of. -/
def week (d : Date) : ℕ := ((thursdayOf d.dayNumber - daysBeforeYear d.weekYear) / 7 + 1).toNat

/-- The weekday of a date, counted from Monday as 1. -/
def weekday (d : Date) : ℕ := (d.dayNumber % 7 + 1).toNat

/-- The Monday of the week of a date. -/
def monday (d : Date) : Date := ofDayNumber (d.dayNumber - d.dayNumber % 7)

/-- A date is the weekday of its week. -/
theorem IsDate.isWeekDate {d : Date} (h : d.IsDate) : d.IsWeekDate d.weekYear d.week d.weekday := by
  have hyear := yearOfDayNumber_spec (thursdayOf d.dayNumber)
  refine ⟨h, ?_, hyear, ?_⟩
  · rw [weekday]
    omega
  · rw [week, weekYear]
    omega

/-- **A date is a weekday of no other week.** -/
theorem IsWeekDate.unique {d : Date} {year year' : ℤ} {week week' weekday weekday' : ℕ}
    (h : d.IsWeekDate year week weekday) (h' : d.IsWeekDate year' week' weekday') :
    year = year' ∧ week = week' ∧ weekday = weekday' := by
  obtain rfl : year = year' := year_eq_of_mem h.mem_year h'.mem_year
  have hweek := h.week_eq.symm.trans h'.week_eq
  have hweekday := h.weekday_eq.symm.trans h'.weekday_eq
  exact ⟨rfl, Nat.cast_inj.1 hweek, Nat.cast_inj.1 hweekday⟩

/-- The Monday of a week is of the same week as all of its days. -/
theorem IsWeekDate.monday {d : Date} {year : ℤ} {week weekday : ℕ}
    (h : d.IsWeekDate year week weekday) : d.monday.IsWeekDate year week 1 := by
  obtain ⟨hdate, hday⟩ := ofDayNumber_spec (d.dayNumber - d.dayNumber % 7)
  -- the days of a week have one Thursday, which tells the year and the week
  have hthursday : thursdayOf d.monday.dayNumber = thursdayOf d.dayNumber := by
    rw [Date.monday, hday, thursdayOf, thursdayOf]
    omega
  refine ⟨hdate, ?_, ?_, ?_⟩
  · rw [Date.monday, hday]
    omega
  · rw [hthursday]
    exact h.mem_year
  · rw [hthursday]
    exact h.week_eq

theorem IsWeekDate.week_le {d : Date} {year : ℤ} {week weekday : ℕ}
    (h : d.IsWeekDate year week weekday) : week ≤ 53 := by
  have hweek := h.week_eq
  have hyear := h.mem_year
  rw [daysBeforeYear_add_one, daysBeforeMonth_thirteen] at hyear
  split at hyear <;> omega

theorem IsWeekDate.weekday_le {d : Date} {year : ℤ} {week weekday : ℕ}
    (h : d.IsWeekDate year week weekday) : weekday ≤ 7 := by
  have hweekday := h.weekday_eq
  omega

/-! ## The texts of a date -/

/-- What is written between the parts of a date. -/
def hyphen (hyphens : Bool) : String := if hyphens then "-" else ""

/-- A date as a day of a month: `YYYY-MM-DD` or `YYYYMMDD`. -/
def dayText (hyphens : Bool) (d : Date) : String :=
  yearText d.year ++ hyphen hyphens ++ padded 2 d.month ++ hyphen hyphens ++ padded 2 d.day

/-- The week of a date: `YYYY-Www` or `YYYYWww`. -/
def weekText (hyphens : Bool) (d : Date) : String :=
  yearText d.weekYear ++ hyphen hyphens ++ "W" ++ padded 2 d.week

/-- A date as a weekday of a week: `YYYY-Www-D` or `YYYYWwwD`. -/
def weekdayText (hyphens : Bool) (d : Date) : String :=
  d.weekText hyphens ++ hyphen hyphens ++ padded 1 d.weekday

theorem text_eq_dayText (d : Date) : d.text = d.dayText true := rfl

/-- A year of four digits is written without a sign. -/
theorem yearText_natCast {year : ℕ} (h : year ≤ 9999) : yearText year = padded 4 year := by
  have hnonneg : ¬ (year : ℤ) < 0 := by omega
  have hsmall : ¬ 9999 < (year : ℤ) := by omega
  rw [yearText, if_neg hnonneg, if_neg hsmall, Int.natAbs_natCast]

theorem toList_hyphen (hyphens : Bool) :
    (hyphen hyphens).toList = if hyphens then ['-'] else [] := by
  cases hyphens <;> rfl

theorem IsDate.dateText_dayText {d : Date} (h : d.IsDate) (hyear : 0 ≤ d.year ∧ d.year ≤ 9999)
    (hyphens : Bool) : DateText (d.dayText hyphens).toList d := by
  obtain ⟨year, month, day⟩ := d
  lift year to ℕ using hyear.1
  have hle : year ≤ 9999 := Nat.cast_le.1 hyear.2
  have hmonth : month ≤ 12 := h.month_le
  have hday : day ≤ 31 := h.day_le
  have htext : (dayText hyphens ⟨year, month, day⟩).toList = joined '-' hyphens
      [(padded 4 year).toList, (padded 2 month).toList, (padded 2 day).toList] := by
    simp [dayText, yearText_natCast hle, toList_hyphen, joined]
  rw [htext]
  exact .day hyphens (isNumber_padded (by decide) (by omega))
    (isNumber_padded (by decide) (by omega)) (isNumber_padded (by decide) (by omega)) h

/-- The week of a date is written with four digits for its year, two for its number, and one for the
weekday. -/
theorem IsDate.exists_weekNumbers {d : Date} (h : d.IsDate)
    (hyear : 0 ≤ d.weekYear ∧ d.weekYear ≤ 9999) (hyphens : Bool) :
    ∃ (year : ℕ) (y w k : List Char), d.weekYear = year ∧ IsNumber 4 y year ∧
      IsNumber 2 w d.week ∧ IsNumber 1 k d.weekday ∧
      (d.weekText hyphens).toList = joined '-' hyphens [y, 'W' :: w] ∧
      (d.weekdayText hyphens).toList = joined '-' hyphens [y, 'W' :: w, k] := by
  obtain ⟨year, heq⟩ := Int.eq_ofNat_of_zero_le hyear.1
  have hle : year ≤ 9999 := by omega
  have hweek := h.isWeekDate.week_le
  have hweekday := h.isWeekDate.weekday_le
  refine ⟨year, (padded 4 year).toList, (padded 2 d.week).toList, (padded 1 d.weekday).toList, heq,
    isNumber_padded (by decide) (by omega), isNumber_padded (by decide) (by omega),
    isNumber_padded (by decide) (by omega), ?_, ?_⟩
  · simp [weekText, heq, yearText_natCast hle, toList_hyphen, joined]
  · simp [weekdayText, weekText, heq, yearText_natCast hle, toList_hyphen, joined]

/-- The text of a week names its Monday. -/
theorem IsDate.dateText_weekText {d : Date} (h : d.IsDate)
    (hyear : 0 ≤ d.weekYear ∧ d.weekYear ≤ 9999) (hyphens : Bool) :
    DateText (d.weekText hyphens).toList d.monday := by
  obtain ⟨year, y, w, k, heq, hy, hw, -, htext, -⟩ := h.exists_weekNumbers hyear hyphens
  rw [htext]
  exact .week hyphens hy hw (heq ▸ h.isWeekDate.monday)

theorem IsDate.dateText_weekdayText {d : Date} (h : d.IsDate)
    (hyear : 0 ≤ d.weekYear ∧ d.weekYear ≤ 9999) (hyphens : Bool) :
    DateText (d.weekdayText hyphens).toList d := by
  obtain ⟨year, y, w, k, heq, hy, hw, hk, -, htext⟩ := h.exists_weekNumbers hyear hyphens
  rw [htext]
  exact .weekday hyphens hy hw hk (heq ▸ h.isWeekDate)

end Date

/-! ## Reading them back -/

/-- **A text of a date is read as the date**: no other date part is as long. -/
theorem parseIsoDate?_of_dateText {s : String} {date : Date} (h : DateText s.toList date) :
    parseIsoDate? s = some date := by
  refine parseIsoDate?_of_longest ⟨h, [], (List.append_nil _).symm, .absent⟩ ?_
  -- another date part is a front of the text
  intro part date' hpart
  obtain ⟨rest, hrest, -⟩ := hpart.behind
  rw [hrest, List.length_append]
  exact Nat.le_add_right _ _

/-- What stands behind a date part has a separator and two characters at least. -/
theorem ReadsAsIsoText.eq_or_length_le {cs part : List Char} {date : Date}
    (h : ReadsAsIsoText cs part date) : cs = part ∨ part.length + 3 ≤ cs.length := by
  obtain ⟨-, rest, rfl, hrest⟩ := h
  cases hrest with
  | absent => exact .inl (List.append_nil part)
  | time separator htime _ =>
    have htwo := htime.1.two_le_length
    refine .inr ?_
    simp only [List.length_append, List.length_cons]
    omega

/-- The texts that have the form of a weekday of a week: digits for the year, the week and the
weekday, whether or not there is such a day. -/
def IsWeekdayText (hyphens : Bool) (s : String) : Prop :=
  ∃ y w d year week weekday, IsNumber 4 y year ∧ IsNumber 2 w week ∧ IsNumber 1 d weekday ∧
    s.toList = joined '-' hyphens [y, 'W' :: w, d]

theorem Date.IsDate.isWeekdayText {d : Date} (h : d.IsDate)
    (hyear : 0 ≤ d.weekYear ∧ d.weekYear ≤ 9999) (hyphens : Bool) :
    IsWeekdayText hyphens (d.weekdayText hyphens) := by
  obtain ⟨year, y, w, k, -, hy, hw, hk, -, htext⟩ := h.exists_weekNumbers hyear hyphens
  exact ⟨y, w, k, year, d.week, d.weekday, hy, hw, hk, htext⟩

/-- A text of this form is read as a whole or not at all. What is shorter than it leaves too little
for a separator and a time. -/
theorem dateText_of_parseIsoDate? {hyphens : Bool} {s : String} {y w d : List Char}
    {year week weekday : ℕ} {date : Date} (hy : IsNumber 4 y year) (hw : IsNumber 2 w week)
    (hd : IsNumber 1 d weekday) (hs : s.toList = joined '-' hyphens [y, 'W' :: w, d])
    (h : parseIsoDate? s = some date) : DateText s.toList date := by
  obtain ⟨length, -, hfound⟩ := List.exists_of_findSome?_eq_some h
  obtain ⟨part, -, hread⟩ := readWithDatePart?_eq_some_iff.1 hfound
  rcases hread.eq_or_length_le with heq | hlong
  · exact heq ▸ hread.names
  · obtain ⟨hnames, rest, hrest, -⟩ := hread
    cases hyphens with
    | true =>
      have hlength : s.toList.length = 10 := by
        simp [hs, joined, hy.length_eq, hw.length_eq, hd.length_eq]
      have hmark : s.toList[4]? = some '-' := by
        simp [hs, joined, hy.length_eq]
      rcases hnames.length_and_mark with h | h | ⟨h, hweek⟩
      · omega
      · omega
      -- a week without hyphens has no hyphen behind its year
      · rw [hrest, List.getElem?_append_left (by omega), hweek] at hmark
        cases hmark
    | false =>
      have hlength : s.toList.length = 8 := by
        simp [hs, joined, hy.length_eq, hw.length_eq, hd.length_eq]
      rcases hnames.length_and_mark with h | h | h <;> omega

theorem isWeekDate_of_parseIsoDate? {hyphens : Bool} {s : String} {y w d : List Char}
    {year week weekday : ℕ} {date : Date} (hy : IsNumber 4 y year) (hw : IsNumber 2 w week)
    (hd : IsNumber 1 d weekday) (hs : s.toList = joined '-' hyphens [y, 'W' :: w, d])
    (h : parseIsoDate? s = some date) : date.IsWeekDate year week weekday := by
  have hread := (dateText_of_parseIsoDate? hy hw hd hs h).readDatePart?_eq
  rw [hs, readDatePart?_weekday hy hw hd] at hread
  exact Date.ofWeek?_eq_some_iff.1 hread

/-- **A date has one text of this form**: it lies in one week only, and there is one row of digits
for each number. -/
theorem IsWeekdayText.eq_of_parseIsoDate? {hyphens : Bool} {s s' : String} {date : Date}
    (hs : IsWeekdayText hyphens s) (hs' : IsWeekdayText hyphens s')
    (h : parseIsoDate? s = some date) (h' : parseIsoDate? s' = some date) : s = s' := by
  obtain ⟨y, w, d, year, week, weekday, hy, hw, hd, hchars⟩ := hs
  obtain ⟨y', w', d', year', week', weekday', hy', hw', hd', hchars'⟩ := hs'
  -- both texts name the date, so they show the same numbers
  have hdate := isWeekDate_of_parseIsoDate? hy hw hd hchars h
  have hdate' := isWeekDate_of_parseIsoDate? hy' hw' hd' hchars' h'
  obtain ⟨hyear, rfl, rfl⟩ := hdate.unique hdate'
  obtain rfl : year = year' := Nat.cast_inj.1 hyear
  refine String.toList_inj.1 ?_
  rw [hchars, hchars', hy.chars_eq hy', hw.chars_eq hw', hd.chars_eq hd']

end CustomFields.Calendar
