import CustomFields.Proofs.Schema.Check
import CustomFields.Validation.Compiled

/-!
# Compiling a schema

What the check of a schema has let through can be compiled: the second reading of a pattern and of
the options of a field meets nothing that the first one has not met.

## Main results

* `CompiledSchema.exists_compile_iff`: the schemas that compile are those that satisfy their check
-/

namespace CustomFields

/-- A field that satisfies its check has a shape. -/
theorem FieldDefinition.exists_shape {f : FieldDefinition} (h : f.check = .ok ()) :
    ∃ shape, Shape.ofField f = .ok shape := by
  obtain ⟨-, hoptions, hpattern⟩ := check_eq_ok_iff.1 h
  rw [checkOptions_eq_ok_iff] at hoptions
  rw [checkPattern_eq_ok_iff] at hpattern
  unfold Shape.ofField
  cases ht : f.type with
  | integer => exact ⟨_, rfl⟩
  | boolean => exact ⟨_, rfl⟩
  | string =>
    cases hp : f.pattern with
    | none => exact ⟨_, rfl⟩
    | some source =>
      obtain ⟨-, p, hparse⟩ := hpattern source hp
      exact ⟨.pattern p, by simp only [hparse]; rfl⟩
  | select =>
    -- the check has seen an option, so the shape has one
    rw [if_pos ht] at hoptions
    obtain ⟨n, hn⟩ := hoptions
    rcases ho : f.options with _ | _ | ⟨o, os⟩
    · rw [ho] at hn
      cases hn
    · rw [ho] at hn
      cases hn
    · exact ⟨_, rfl⟩

/-- Fields that satisfy their checks can be compiled. -/
theorem CompiledField.exists_ofDefinition {f : FieldDefinition} (h : f.check = .ok ()) :
    ∃ c, CompiledField.ofDefinition f = .ok c := by
  obtain ⟨shape, hshape⟩ := f.exists_shape h
  exact ⟨_, by rw [ofDefinition, hshape]; rfl⟩

theorem Schema.exists_mapM_of_checkFields {seen : List String} {fs : List FieldDefinition}
    (h : checkFields seen fs = .ok ()) : ∃ cs, fs.mapM CompiledField.ofDefinition = .ok cs := by
  induction fs generalizing seen with
  | nil => exact ⟨[], rfl⟩
  | cons f fs ih =>
    obtain ⟨hf, -, hfs⟩ := checkFields_cons.1 h
    obtain ⟨c, hc⟩ := CompiledField.exists_ofDefinition hf
    obtain ⟨cs, hcs⟩ := ih hfs
    exact ⟨c :: cs, by rw [List.mapM_cons, hc, hcs]; rfl⟩

/-- **The schemas that compile are those that satisfy their check.** -/
theorem CompiledSchema.exists_compile_iff {s : Schema} :
    (∃ k, compile s = .ok k) ↔ s.check = .ok () := by
  constructor
  · rintro ⟨k, hk⟩
    rcases hc : s.check with e | ⟨⟩
    · rw [compile, hc] at hk
      cases hk
    · rfl
  · intro h
    obtain ⟨cs, hcs⟩ := Schema.exists_mapM_of_checkFields h
    exact ⟨_, by rw [compile, h, hcs]; rfl⟩

end CustomFields
