import CustomFields.Proofs.Calendar.Date

/-!
# Week dates

A week is of the year that its Thursday lies in, and it is the week of so many Thursdays of that
year. The week with 4 January, from which the weeks of a year are counted, is the first of them: it
has the first Thursday. So what is found by counting from its Monday is the day that the week date
names, and a year has no week behind the one with its last Thursday.

## Main definitions

* `Calendar.Date.IsWeekDate`: a date is a weekday of a week of a year

## Main results

* `Calendar.Date.dayNumber_injective`: no two dates are one day
* `Calendar.Date.ofWeek?_eq_some_iff`: the day of a week of a year
-/

namespace CustomFields.Calendar.Date

/-! ## The day numbers of dates -/

theorem monotone_daysBeforeMonth (year : ℤ) : Monotone (daysBeforeMonth year) :=
  monotone_nat_of_le_succ fun _ => Nat.le_add_right _ _

theorem strictMono_daysBeforeYear : StrictMono daysBeforeYear := by
  refine strictMono_int_of_lt_succ fun year => ?_
  rw [daysBeforeYear_add_one, daysBeforeMonth_thirteen]
  split <;> omega

/-- The days before a month and those in it are days before the next one. -/
theorem IsDate.daysBeforeMonth_add_day_le {d : Date} (h : d.IsDate) {month : ℕ}
    (hm : d.month < month) : daysBeforeMonth d.year d.month + d.day ≤ daysBeforeMonth d.year month :=
  (Nat.add_le_add_left h.2 _).trans (monotone_daysBeforeMonth d.year hm)

/-- A date is a day of its year. -/
theorem IsDate.dayNumber_mem {d : Date} (h : d.IsDate) :
    daysBeforeYear d.year ≤ d.dayNumber ∧ d.dayNumber < daysBeforeYear (d.year + 1) := by
  have hfirst := h.1
  have hlast : daysBeforeMonth d.year d.month + d.day ≤ daysBeforeMonth d.year 13 :=
    h.daysBeforeMonth_add_day_le (Nat.lt_succ_of_le h.month_le)
  rw [daysBeforeYear_add_one, dayNumber]
  omega

theorem year_eq_of_mem {n y y' : ℤ} (h : daysBeforeYear y ≤ n ∧ n < daysBeforeYear (y + 1))
    (h' : daysBeforeYear y' ≤ n ∧ n < daysBeforeYear (y' + 1)) : y = y' := by
  have hlt := strictMono_daysBeforeYear.lt_iff_lt.1 (h.1.trans_lt h'.2)
  have hlt' := strictMono_daysBeforeYear.lt_iff_lt.1 (h'.1.trans_lt h.2)
  omega

/-- **No two dates are one day.** -/
theorem dayNumber_injective {a b : Date} (ha : a.IsDate) (hb : b.IsDate)
    (h : a.dayNumber = b.dayNumber) : a = b := by
  have hyear : a.year = b.year := year_eq_of_mem ha.dayNumber_mem (h ▸ hb.dayNumber_mem)
  obtain ⟨year, month, day⟩ := a
  obtain ⟨year', month', day'⟩ := b
  obtain rfl : year = year' := hyear
  have hfirst : 1 ≤ day := ha.1
  have hfirst' : 1 ≤ day' := hb.1
  simp only [dayNumber] at h
  -- a day of an earlier month would come first
  rcases Nat.lt_trichotomy month month' with hlt | rfl | hlt
  · have hle : daysBeforeMonth year month + day ≤ daysBeforeMonth year month' :=
      ha.daysBeforeMonth_add_day_le hlt
    omega
  · obtain rfl : day = day' := by omega
    rfl
  · have hle : daysBeforeMonth year month' + day' ≤ daysBeforeMonth year month :=
      hb.daysBeforeMonth_add_day_le hlt
    omega

theorem ofDayNumber_dayNumber {d : Date} (h : d.IsDate) : ofDayNumber d.dayNumber = d :=
  have hspec := ofDayNumber_spec d.dayNumber
  dayNumber_injective hspec.1 h hspec.2

/-- The calendar has a date where its parts are found. -/
theorem of?_eq_some_iff {year : ℤ} {month day : ℕ} {d : Date} :
    of? year month day = some d ↔ d = ⟨year, month, day⟩ ∧ d.IsDate := by
  constructor
  · intro h
    unfold of? at h
    split at h
    · rename_i hday
      obtain rfl := Option.some.inj h
      exact ⟨rfl, hday⟩
    · cases h
  · rintro ⟨rfl, hdate⟩
    exact of?_eq_some _ hdate

/-! ## Weeks -/

/-- The Thursday of the week that a day lies in; day numbers that are divided by seven are
Mondays. -/
def thursdayOf (n : ℤ) : ℤ := n - n % 7 + 3

/-- A date is a weekday, from Monday as 1 on, of a week of a year: the Thursday of the week lies in
the year, as the Thursday with the number of the week. -/
structure IsWeekDate (d : Date) (year : ℤ) (week weekday : ℕ) : Prop where
  isDate : d.IsDate
  weekday_eq : d.dayNumber % 7 + 1 = weekday
  mem_year : daysBeforeYear year ≤ thursdayOf d.dayNumber ∧
    thursdayOf d.dayNumber < daysBeforeYear (year + 1)
  week_eq : (thursdayOf d.dayNumber - daysBeforeYear year) / 7 + 1 = week

/-- The first week of a year starts on a Monday and has the first Thursday of the year. -/
theorem firstMonday_spec (year : ℤ) :
    firstMonday year % 7 = 0 ∧ daysBeforeYear year ≤ firstMonday year + 3 ∧
      firstMonday year + 3 < daysBeforeYear year + 7 := by
  simp only [firstMonday]
  omega

/-- As many weeks as a year has lie between the first ones of two years. -/
theorem seven_mul_weeksInYear (year : ℤ) :
    7 * (weeksInYear year : ℤ) = firstMonday (year + 1) - firstMonday year := by
  have hyear := strictMono_daysBeforeYear (lt_add_one year)
  have hfirst := firstMonday_spec year
  have hnext := firstMonday_spec (year + 1)
  rw [weeksInYear]
  omega

/-- **The day of a week of a year** is the one that is named by the week date; there is one exactly
if the year has that week. -/
theorem ofWeek?_eq_some_iff {year : ℤ} {week weekday : ℕ} {d : Date} :
    ofWeek? year week weekday = some d ↔ d.IsWeekDate year week weekday := by
  have hfirst := firstMonday_spec year
  have hnext := firstMonday_spec (year + 1)
  have hweeks := seven_mul_weeksInYear year
  constructor
  · intro h
    unfold ofWeek? at h
    split at h
    · rename_i hrange
      obtain rfl := Option.some.inj h
      obtain ⟨hdate, hday⟩ :=
        ofDayNumber_spec (firstMonday year + 7 * (week - 1) + (weekday - 1))
      refine ⟨hdate, ?_, ?_, ?_⟩
      all_goals
        simp only [thursdayOf, hday]
        omega
    · cases h
  · rintro ⟨hdate, hweekday, hyear, hweek⟩
    simp only [thursdayOf] at hyear hweek
    have hrange : 1 ≤ week ∧ week ≤ weeksInYear year ∧ 1 ≤ weekday ∧ weekday ≤ 7 := by omega
    have hday : firstMonday year + 7 * (week - 1) + (weekday - 1) = d.dayNumber := by omega
    rw [ofWeek?, if_pos hrange, hday, ofDayNumber_dayNumber hdate]

end CustomFields.Calendar.Date
