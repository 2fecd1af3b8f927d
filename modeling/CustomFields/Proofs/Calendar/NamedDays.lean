import CustomFields.Proofs.Calendar.IsoText

/-!
# The days that texts name

A text of a date has a year of four digits. The days of such years lie between 1 January of the year 0
and 31 December of the year 9999, but a week may reach into another year: the first week of the year 0
starts on its third day, and the last one of the year 9999 ends with the second day of the next year.

## Main results

* `Calendar.Date.IsDate.dayNumber_lt`: dates are in the order of their days
* `Calendar.Date.ofWeek?_weekday`: the days of a week are found from its Monday
* `Calendar.Date.IsWeekDate.dayNumber_mem`, `Calendar.DateText.mem`: the first and the last of the
  dates that are named
-/

namespace CustomFields.Calendar

namespace Date

theorem compare_swap (a b : Date) : (a.compare b).swap = b.compare a := by
  simp only [compare, Ordering.swap_then, ← Std.OrientedOrd.eq_swap]

/-- Dates are in the order of their days. -/
theorem IsDate.dayNumber_lt {a b : Date} (ha : a.IsDate) (hb : b.IsDate)
    (h : a.compare b = .lt) : a.dayNumber < b.dayNumber := by
  obtain ⟨year, month, day⟩ := a
  obtain ⟨year', month', day'⟩ := b
  simp only [compare, Ordering.then_eq_lt, Std.LawfulEqOrd.compare_eq_iff_eq, Int.compare_eq_lt,
    Nat.compare_eq_lt] at h
  -- the years decide, or the months, or the days
  rcases h with hyear | ⟨rfl, hmonth | ⟨rfl, hday⟩⟩
  · have hle : daysBeforeYear (year + 1) ≤ daysBeforeYear year' :=
      strictMono_daysBeforeYear.monotone hyear
    exact (ha.dayNumber_mem.2.trans_le hle).trans_le hb.dayNumber_mem.1
  · have hle : daysBeforeMonth year month + day ≤ daysBeforeMonth year month' :=
      ha.daysBeforeMonth_add_day_le hmonth
    have hfirst : 1 ≤ day' := hb.1
    simp only [dayNumber]
    omega
  · simp only [dayNumber]
    omega

theorem IsDate.isLE_of_dayNumber_le {a b : Date} (ha : a.IsDate) (hb : b.IsDate)
    (h : a.dayNumber ≤ b.dayNumber) : (a.compare b).isLE = true := by
  by_contra hgt
  have hlt : b.compare a = .lt := by
    rw [← compare_swap]
    cases hab : a.compare b <;> simp_all
  exact (hb.dayNumber_lt ha hlt).not_ge h

/-- The first day of the year 0. -/
def earliest : Date := ⟨0, 1, 1⟩

/-- The Sunday of the last week of the year 9999. -/
def latest : Date := ⟨10000, 1, 2⟩

theorem dayNumber_earliest : earliest.dayNumber = daysBeforeYear 0 := by decide

theorem dayNumber_latest : latest.dayNumber = daysBeforeYear 10000 + 1 := by decide

/-- The days of the weeks of the years 0 to 9999. Of the weeks that reach into another year the first
one starts behind the first day of the year 0, and the last one ends with the second day of the year
10000. -/
theorem IsWeekDate.dayNumber_mem {d : Date} {year week weekday : ℕ}
    (h : d.IsWeekDate year week weekday) (hyear : year < 10000) :
    earliest.dayNumber ≤ d.dayNumber ∧ d.dayNumber ≤ latest.dayNumber := by
  have hfirst : daysBeforeYear 0 ≤ daysBeforeYear year :=
    strictMono_daysBeforeYear.monotone (Int.natCast_nonneg year)
  have hlast : daysBeforeYear (year + 1) ≤ daysBeforeYear 10000 :=
    strictMono_daysBeforeYear.monotone (by omega)
  obtain ⟨hthursday, hthursday'⟩ := h.mem_year
  have hzero : daysBeforeYear 0 = -366 := by decide
  have hend : daysBeforeYear 10000 = 3652059 := by decide
  rw [dayNumber_earliest, dayNumber_latest]
  simp only [thursdayOf] at hthursday hthursday'
  omega

/-- The day of a week is so many days behind its Monday. -/
theorem ofWeek?_weekday {year : ℤ} {week weekday : ℕ} (h : 1 ≤ weekday ∧ weekday ≤ 7) :
    ((ofWeek? year week 1).bind fun monday =>
      some (ofDayNumber (monday.dayNumber + (weekday - 1 : ℕ)))) = ofWeek? year week weekday := by
  unfold ofWeek?
  by_cases hweek : 1 ≤ week ∧ week ≤ weeksInYear year
  · have hmonday := (ofDayNumber_spec (firstMonday year + 7 * (week - 1) + ((1 : ℕ) - 1))).2
    rw [if_pos (by omega), if_pos (by omega), Option.bind_some, hmonday]
    congr 2
    omega
  · rw [if_neg (by omega), if_neg (by omega), Option.bind_none]

end Date

theorem IsNumber.lt {width : ℕ} {cs : List Char} {n : ℕ} (h : IsNumber width cs n) :
    n < 10 ^ width := by
  have hlt := Decimal.ofDigitChars_lt h.digits
  rwa [h.value_eq, h.length_eq] at hlt

/-- The dates that a text of a date names. -/
theorem DateText.mem {cs : List Char} {date : Date} (h : DateText cs date) :
    (Date.earliest.compare date).isLE = true ∧ (date.compare Date.latest).isLE = true := by
  have hyear {y : List Char} {year : ℕ} (hy : IsNumber 4 y year) : year < 10000 := hy.lt
  have hearliest : Date.earliest.IsDate := ⟨by decide, by decide⟩
  have hlatest : Date.latest.IsDate := ⟨by decide, by decide⟩
  have hbetween (isDate : date.IsDate)
      (hdays : Date.earliest.dayNumber ≤ date.dayNumber ∧
        date.dayNumber ≤ Date.latest.dayNumber) :
      (Date.earliest.compare date).isLE = true ∧ (date.compare Date.latest).isLE = true :=
    ⟨hearliest.isLE_of_dayNumber_le isDate hdays.1, isDate.isLE_of_dayNumber_le hlatest hdays.2⟩
  cases h with
  | @day _ _ _ _ year _ _ hy _ _ isDate =>
    refine hbetween isDate ?_
    have hlt := hyear hy
    have hfirst : Date.daysBeforeYear 0 ≤ Date.daysBeforeYear year :=
      Date.strictMono_daysBeforeYear.monotone (Int.natCast_nonneg year)
    have hlast : Date.daysBeforeYear (year + 1) ≤ Date.daysBeforeYear 10000 :=
      Date.strictMono_daysBeforeYear.monotone (by omega)
    have hmem := isDate.dayNumber_mem
    rw [Date.dayNumber_earliest, Date.dayNumber_latest]
    constructor
    · exact hfirst.trans hmem.1
    · exact (hmem.2.le.trans hlast).trans (by omega)
  | week _ hy _ hdate => exact hbetween hdate.isDate (hdate.dayNumber_mem (hyear hy))
  | weekday _ hy _ _ hdate => exact hbetween hdate.isDate (hdate.dayNumber_mem (hyear hy))

end CustomFields.Calendar
