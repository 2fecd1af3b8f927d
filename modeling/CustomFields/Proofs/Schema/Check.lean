import CustomFields.Schema.Check

/-!
# What the check of a schema lets through

The check of a field asks three things of it, each about a part of the field, and the check of a
schema asks them of its fields one by one.

## Main results

* `FieldDefinition.checkOptions_eq_ok_iff`, `FieldDefinition.checkPattern_eq_ok_iff`,
  `FieldDefinition.check_eq_ok_iff`: the fields that satisfy their checks
* `Schema.checkFields_cons`: the rows of fields that do
-/

namespace CustomFields

namespace FieldDefinition

variable {f : FieldDefinition}

/-- The check of the options looks at their number only. -/
theorem checkOptions_eq_ok_iff : f.checkOptions = .ok () ↔
    if f.type = .select then ∃ n, f.options.map List.length = some (n + 1)
    else f.options.map List.length = none := by
  unfold checkOptions
  cases f.type with
  -- a field of this type needs an option, and no other field may have any
  | select =>
    rcases f.options with _ | _ | ⟨o, os⟩
    · exact iff_of_false (by rintro ⟨⟩) (by rintro ⟨n, ⟨⟩⟩)
    · exact iff_of_false (by rintro ⟨⟩) (by rintro ⟨n, ⟨⟩⟩)
    · exact iff_of_true rfl ⟨os.length, rfl⟩
  | string => cases f.options with
    | none => exact iff_of_true rfl rfl
    | some os => exact iff_of_false (by rintro ⟨⟩) (by rintro ⟨⟩)
  | integer => cases f.options with
    | none => exact iff_of_true rfl rfl
    | some os => exact iff_of_false (by rintro ⟨⟩) (by rintro ⟨⟩)
  | boolean => cases f.options with
    | none => exact iff_of_true rfl rfl
    | some os => exact iff_of_false (by rintro ⟨⟩) (by rintro ⟨⟩)

/-- The check of the pattern looks at the pattern and the type only. -/
theorem checkPattern_eq_ok_iff : f.checkPattern = .ok () ↔
    ∀ source, f.pattern = some source → f.type = .string ∧ ∃ p, Pattern.parse source = .ok p := by
  unfold checkPattern
  cases f.pattern with
  | none => exact iff_of_true rfl (by rintro source ⟨⟩)
  | some source =>
    by_cases ht : f.type = .string
    -- the check of a pattern is that it can be read
    · cases hp : Pattern.parse source with
      | ok p =>
        simp only [ht, hp, ne_eq, not_true_eq_false, if_false]
        exact iff_of_true rfl fun source' hs => ⟨trivial, p, Option.some.inj hs ▸ hp⟩
      | error reason =>
        simp only [ht, hp, ne_eq, not_true_eq_false, if_false]
        refine iff_of_false (by rintro ⟨⟩) fun h => ?_
        obtain ⟨-, p, hp'⟩ := h source rfl
        rw [hp] at hp'
        cases hp'
    · simp only [ne_eq, ht, not_false_eq_true, if_true]
      exact iff_of_false (by rintro ⟨⟩) fun h => absurd (h source rfl).1 (by simp)

theorem check_eq_ok_iff : f.check = .ok () ↔
    Text.isBlankText f.name = false ∧ f.checkOptions = .ok () ∧ f.checkPattern = .ok () := by
  unfold check
  cases Text.isBlankText f.name with
  | true => exact iff_of_false (by rintro ⟨⟩) (by rintro ⟨⟨⟩, -⟩)
  | false =>
    rcases f.checkOptions with e | ⟨⟩
    · exact iff_of_false (by rintro ⟨⟩) (by rintro ⟨-, ⟨⟩, -⟩)
    · exact ⟨fun h => ⟨rfl, rfl, h⟩, fun h => h.2.2⟩

end FieldDefinition

/-- A row of fields is checked one by one, and none has the name of an earlier one. -/
theorem Schema.checkFields_cons {seen : List String} {f : FieldDefinition}
    {fs : List FieldDefinition} :
    checkFields seen (f :: fs) = .ok () ↔
      f.check = .ok () ∧ f.name ∉ seen ∧ checkFields (f.name :: seen) fs = .ok () := by
  rw [checkFields]
  rcases f.check with e | ⟨⟩
  · exact iff_of_false (by rintro ⟨⟩) (by rintro ⟨⟨⟩, -⟩)
  · by_cases hseen : f.name ∈ seen
    · rw [if_pos hseen]
      exact iff_of_false (by rintro ⟨⟩) fun h => h.2.1 hseen
    · rw [if_neg hseen]
      exact ⟨fun h => ⟨rfl, hseen, h⟩, fun h => h.2.2⟩

end CustomFields
