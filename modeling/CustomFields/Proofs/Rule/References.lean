import CustomFields.Proofs.Calendar.DateTexts
import CustomFields.Proofs.Data.Entries
import CustomFields.Rule.Date

/-!
# Dates as references

The reference of a comparison of dates is a text: it stands for the date of today, or is read as a
date. A date that is written is read as itself, so a reference to today says the same as the date of
today in writing, whenever it is looked at.

## Main definitions

* `Rule.Date.reference?`: the date that a reference stands for

## Main results

* `Rule.Date.rule_congr`: of the reference, only the date counts
* `Rule.Date.rule_relative`: references to today and the date of today
* `Rule.Date.written_dates_readBack`: the texts of a date are read as the date
-/

namespace CustomFields.Rule.Date

open Calendar (parseIsoDate? IsWeekdayText)
open Calendar.Date (IsDate weekYear)

variable {value : Json.Value} {params params' : Parameters} {today today' : Calendar.Date}
  {text text' : String}

/-- The date that a reference stands for. -/
def reference? (text : String) (today : Calendar.Date) : Option Calendar.Date :=
  if text ∈ relativeReferences then some today else parseIsoDate? text

/-- **Of the reference, only its date counts.** -/
theorem rule_congr
    (hothers : params.rejectOthers ["operator", "reference_date"] =
      params'.rejectOthers ["operator", "reference_date"])
    (hreference : Entries.get? "reference_date" params = some (.string text))
    (hreference' : Entries.get? "reference_date" params' = some (.string text'))
    (hoperator : Entries.get? "operator" params = Entries.get? "operator" params')
    (hdate : reference? text today = reference? text' today') :
    rule value params today = rule value params' today' := by
  unfold reference? at hdate
  simp only [rule, Parameters.require, hothers, hreference, hreference', hoperator, pure_bind,
    hdate]

/-- A date in writing is no reference to today, and stands for itself. -/
theorem reference?_text {d : Calendar.Date} (hd : d.IsDate) (hyear : 0 ≤ d.year ∧ d.year ≤ 9999)
    (today : Calendar.Date) : reference? d.text today = some d := by
  have hread : parseIsoDate? d.text = some d :=
    Calendar.parseIsoDate?_of_dateText (hd.dateText_dayText hyear true)
  -- a reference to today has no date of its own
  have hother : d.text ∉ relativeReferences := by
    intro hmem
    have hnone : ∀ s ∈ relativeReferences, parseIsoDate? s = none := by decide
    rw [hnone _ hmem] at hread
    cases hread
  rw [reference?, if_neg hother, hread]

/-- **A reference to today says what the date of today says in writing**, whenever that is read. -/
theorem rule_relative {d : Calendar.Date} (hd : d.IsDate) (hyear : 0 ≤ d.year ∧ d.year ≤ 9999)
    (hrelative : text ∈ relativeReferences)
    (hreference : Entries.get? "reference_date" params = some (.string text))
    (today : Calendar.Date) :
    rule value params d =
      rule value (Entries.put "reference_date" (.string d.text) params) today := by
  refine rule_congr ?_ hreference (Entries.get?_put_self _ _ _) ?_ ?_
  · rw [Parameters.rejectOthers, Parameters.rejectOthers, Entries.find?_keys_put (by decide)]
  · exact (Entries.get?_put_of_ne (by decide) _ _).symm
  · rw [reference?_text hd hyear, reference?, if_pos hrelative]

/-- **Written dates are read back**: as days of months, as weekdays of weeks, and as the Mondays of
weeks without a weekday; of the texts for the weekday of a week a date has one. So a reference to
today can be given as the date of today in writing. -/
theorem written_dates_readBack {d : Calendar.Date} (hd : d.IsDate) :
    (0 ≤ d.year ∧ d.year ≤ 9999 →
      (∀ hyphens, parseIsoDate? (d.dayText hyphens) = some d) ∧
      ∀ value params, ∀ text ∈ relativeReferences,
        Entries.get? "reference_date" params = some (.string text) →
        ∀ today, rule value params d =
          rule value (Entries.put "reference_date" (.string (d.dayText true)) params) today) ∧
    (0 ≤ d.weekYear ∧ d.weekYear ≤ 9999 → ∀ hyphens,
      parseIsoDate? (d.weekdayText hyphens) = some d ∧
      parseIsoDate? (d.weekText hyphens) = some d.monday) ∧
    ∀ hyphens s s', IsWeekdayText hyphens s → IsWeekdayText hyphens s' → s ≠ s' →
      ¬ (parseIsoDate? s = some d ∧ parseIsoDate? s' = some d) := by
  refine ⟨fun hyear => ⟨fun hyphens => ?_, fun value params text htext hreference today => ?_⟩,
    fun hyear hyphens => ⟨?_, ?_⟩, fun hyphens s s' hs hs' hne h => ?_⟩
  · exact Calendar.parseIsoDate?_of_dateText (hd.dateText_dayText hyear hyphens)
  · rw [← Calendar.Date.text_eq_dayText]
    exact rule_relative hd hyear htext hreference today
  · exact Calendar.parseIsoDate?_of_dateText (hd.dateText_weekdayText hyear hyphens)
  · exact Calendar.parseIsoDate?_of_dateText (hd.dateText_weekText hyear hyphens)
  · exact hne (hs.eq_of_parseIsoDate? hs' h.1 h.2)

/-- The first of January 2027 is a Friday, of the last week of the year before. -/
theorem written_dates_readBack_newYear :
    IsDate ⟨2027, 1, 1⟩ ∧
      parseIsoDate? "20270101" = some ⟨2027, 1, 1⟩ ∧
      parseIsoDate? "2026-W53-5" = some ⟨2027, 1, 1⟩ ∧
      parseIsoDate? "2026W53" = some ⟨2026, 12, 28⟩ ∧
      (∀ s, IsWeekdayText true s → s ≠ "2026-W53-5" → parseIsoDate? s ≠ some ⟨2027, 1, 1⟩) ∧
      ∀ value today,
        rule value [("operator", .string "gt"), ("reference_date", .string "now")] ⟨2027, 1, 1⟩ =
        rule value [("operator", .string "gt"), ("reference_date", .string "2027-01-01")] today := by
  have hdate : IsDate ⟨2027, 1, 1⟩ := ⟨by decide, by decide⟩
  obtain ⟨hday, hweek, hunique⟩ := written_dates_readBack hdate
  obtain ⟨hread, hrule⟩ := hday (by decide)
  have hyear : 0 ≤ weekYear ⟨2027, 1, 1⟩ ∧ weekYear ⟨2027, 1, 1⟩ ≤ 9999 := by decide
  have hweekday : parseIsoDate? "2026-W53-5" = some ⟨2027, 1, 1⟩ := (hweek hyear true).1
  refine ⟨hdate, hread false, hweekday, (hweek hyear false).2, fun s hs hne h => ?_, ?_⟩
  · exact hunique true s "2026-W53-5" hs (hdate.isWeekdayText hyear true) hne ⟨h, hweekday⟩
  · exact fun value today => hrule value _ "now" (by decide) rfl today

end CustomFields.Rule.Date
