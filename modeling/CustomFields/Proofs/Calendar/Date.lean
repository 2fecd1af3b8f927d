import CustomFields.Calendar.Date
import Mathlib.Tactic

/-!
# Dates and day numbers

The date of a day number is a date of the calendar, and its day number is that day again. A year is
found from whole cycles of 400 years down to single ones, and a month by passing over those before
it; each is the one whose days the day lies among.

## Main results

* `Calendar.Date.yearOfDayNumber_spec`: the year that a day lies in
* `Calendar.Date.ofDayNumber_spec`: the calendar has the date of a day number, which is the number
  of that date
-/

namespace CustomFields.Calendar

theorem isLeapYear_iff {year : ℤ} :
    isLeapYear year = true ↔ year % 4 = 0 ∧ (year % 100 ≠ 0 ∨ year % 400 = 0) := by
  simp [isLeapYear]

namespace Date

/-- The calendar has a date. -/
def IsDate (d : Date) : Prop :=
  1 ≤ d.day ∧ d.day ≤ daysInMonth d.year d.month

theorem of?_eq_some (d : Date) (h : d.IsDate) : of? d.year d.month d.day = some d :=
  if_pos h

theorem IsDate.month_le {d : Date} (h : d.IsDate) : d.month ≤ 12 := by
  obtain ⟨hfirst, hlast⟩ := h
  unfold daysInMonth at hlast
  split at hlast <;> omega

theorem IsDate.day_le {d : Date} (h : d.IsDate) : d.day ≤ 31 := by
  refine h.2.trans ?_
  unfold daysInMonth
  repeat' split
  all_goals decide

/-- The days of a year are those of its months. -/
theorem daysBeforeMonth_thirteen (year : ℤ) :
    daysBeforeMonth year 13 = if isLeapYear year then 366 else 365 := by
  simp only [daysBeforeMonth, daysInMonth]
  split <;> rfl

theorem daysBeforeYear_add_one (year : ℤ) :
    daysBeforeYear (year + 1) = daysBeforeYear year + daysBeforeMonth year 13 := by
  rw [daysBeforeMonth_thirteen]
  simp only [daysBeforeYear]
  split
  · rename_i h
    have := isLeapYear_iff.1 h
    omega
  · rename_i h
    have := mt isLeapYear_iff.2 h
    omega

/-- The days before a year that is given by how often each cycle has passed. -/
theorem daysBeforeYear_cycles {q century four one : ℤ} (hc : 0 ≤ century ∧ century ≤ 3)
    (hf : 0 ≤ four ∧ four ≤ 24) (ho : 0 ≤ one ∧ one ≤ 3) :
    daysBeforeYear (400 * q + 100 * century + 4 * four + one + 1) =
      146097 * q + 36524 * century + 1461 * four + 365 * one := by
  obtain ⟨p, hp⟩ : ∃ p, p = 400 * q + 100 * century + 4 * four + one := ⟨_, rfl⟩
  -- each cycle has passed as often as the quotient by its length says
  have h₁ : p / 4 = 100 * q + 25 * century + four := by omega
  have h₂ : p / 100 = 4 * q + century := by omega
  have h₃ : p / 400 = q := by omega
  rw [← hp, daysBeforeYear]
  simp only [add_sub_cancel_right, h₁, h₂, h₃]
  omega

/-- A year that is given in this way has a day more if the last cycle of four years ends with it, or
no cycle of a hundred years does. -/
theorem isLeapYear_cycles {q century four one : ℤ} (hc : 0 ≤ century ∧ century ≤ 3)
    (hf : 0 ≤ four ∧ four ≤ 24) (ho : 0 ≤ one ∧ one ≤ 3) :
    isLeapYear (400 * q + 100 * century + 4 * four + one + 1) = true ↔
      one = 3 ∧ (four ≠ 24 ∨ century = 3) := by
  rw [isLeapYear_iff]
  omega

/-- A day lies in its year. -/
theorem yearOfDayNumber_spec (n : ℤ) :
    daysBeforeYear (yearOfDayNumber n) ≤ n ∧ n < daysBeforeYear (yearOfDayNumber n + 1) := by
  -- how often each cycle has passed, and what is left of the last one
  obtain ⟨r, hr⟩ : ∃ r : ℕ, r = (n % 146097).toNat := ⟨_, rfl⟩
  obtain ⟨century, hcentury⟩ : ∃ k : ℕ, k = min (r / 36524) 3 := ⟨_, rfl⟩
  obtain ⟨four, hfour⟩ : ∃ k : ℕ, k = (r - century * 36524) / 1461 := ⟨_, rfl⟩
  obtain ⟨one, hone⟩ : ∃ k : ℕ, k = min ((r - century * 36524 - four * 1461) / 365) 3 := ⟨_, rfl⟩
  have hyear : yearOfDayNumber n =
      400 * (n / 146097) + 100 * (century : ℤ) + 4 * (four : ℤ) + (one : ℤ) + 1 := by
    simp only [yearOfDayNumber, ← hr, ← hcentury, ← hfour, ← hone]
  have hc : 0 ≤ (century : ℤ) ∧ (century : ℤ) ≤ 3 := by omega
  have hf : 0 ≤ (four : ℤ) ∧ (four : ℤ) ≤ 24 := by omega
  have ho : 0 ≤ (one : ℤ) ∧ (one : ℤ) ≤ 3 := by omega
  rw [daysBeforeYear_add_one, daysBeforeMonth_thirteen, hyear, daysBeforeYear_cycles hc hf ho]
  have hleap := isLeapYear_cycles (q := n / 146097) hc hf ho
  constructor
  · omega
  -- the last year of a cycle may have a day more than the others, which still lies in it
  · split
    · omega
    · rename_i h
      rw [hleap] at h
      omega

/-- Passing over months, from the first of a month on, finds the month that a day lies in. -/
theorem advance_spec {year : ℤ} {months month days : ℕ}
    (h : daysBeforeMonth year month + days < daysBeforeMonth year (month + months + 1)) :
    (advance year months month days).IsDate ∧ (advance year months month days).year = year ∧
      daysBeforeMonth year (advance year months month days).month +
        (advance year months month days).day = daysBeforeMonth year month + days + 1 := by
  -- on the months that are left: the day lies in this one, or is looked for behind it
  induction months generalizing month days with
  | zero =>
    rw [daysBeforeMonth] at h
    exact ⟨⟨Nat.le_add_left 1 days, by simpa [advance] using h⟩, rfl, rfl⟩
  | succ months ih =>
    rw [advance]
    split
    · rename_i hlt
      exact ⟨⟨Nat.le_add_left 1 days, hlt⟩, rfl, rfl⟩
    · rename_i hlt
      have hnext : daysBeforeMonth year (month + 1) + (days - daysInMonth year month) =
          daysBeforeMonth year month + days := by
        rw [daysBeforeMonth]
        omega
      obtain ⟨hdate, hyear, hday⟩ := @ih (month + 1) (days - daysInMonth year month) (by
        rw [hnext]
        convert h using 2
        omega)
      exact ⟨hdate, hyear, hday.trans (by rw [hnext])⟩

theorem ofDayNumber_spec (n : ℤ) :
    (ofDayNumber n).IsDate ∧ (ofDayNumber n).dayNumber = n := by
  obtain ⟨hle, hlt⟩ := yearOfDayNumber_spec n
  rw [daysBeforeYear_add_one] at hlt
  have hdays : daysBeforeMonth (yearOfDayNumber n) 1 +
      (n - daysBeforeYear (yearOfDayNumber n)).toNat <
        daysBeforeMonth (yearOfDayNumber n) (1 + 11 + 1) := by
    simp only [daysBeforeMonth, daysInMonth] at hlt ⊢
    omega
  obtain ⟨hdate, hyear, hday⟩ := advance_spec hdays
  refine ⟨hdate, ?_⟩
  rw [ofDayNumber, dayNumber, hyear]
  simp only [daysBeforeMonth, daysInMonth] at hday
  omega

end Date

end CustomFields.Calendar
