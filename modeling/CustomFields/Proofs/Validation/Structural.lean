import Mathlib.Algebra.Order.BigOperators.Group.List
import Mathlib.Algebra.Order.Group.Nat
import CustomFields.Proofs.Validation.Blocks

/-!
# The structural pass

A compiled schema can be asked for the issues about the form of values alone. It goes through its
fields by itself, without an engine and so without any rule. The engine goes through the same
fields and puts the findings of the rules between the structural ones.

The two passes are compared field by field. The block of a field has a structural issue if and
only if its outcome is invalid, and it executes the rules of the field if and only if its outcome
is valid; whatever the rules answer, the kinds of their issues are not structural. So the
structural issues among all issues are those of the structural pass, and the number of executions
is a sum over the valid fields.

## Main definitions

* `FieldOutcome.isValid`: the outcome that lets the rules of a field run
* `CompiledField.structuralIssue?`: what the structural pass finds on one field

## Main results

* `Engine.FieldBlock.filter_isStructural`, `Engine.FieldBlock.length_executions`: both for one
  field
* `Engine.structuralErrors_agree`: the passes agree, and how many rules are applied
-/

namespace CustomFields

/-- Whether a field has a value that is valid. -/
def FieldOutcome.isValid : FieldOutcome → Bool
  | .valid _ => true
  | .skipped | .invalid _ _ => false

namespace CompiledField

/-- The issue about the form of the value of one field, if there is one. -/
def structuralIssue? (f : CompiledField) (payload : Json.Object) (container : String) :
    Option Issue :=
  match f.check payload with
  | .invalid kind message => some (.new container f.name kind message)
  | .skipped | .valid _ => none

/-- A field is valid if it has a value and its shape has nothing against this value. -/
theorem isValid_check_iff {f : CompiledField} {payload : Json.Object} :
    (f.check payload).isValid = true ↔
      ∃ v, Json.Holds payload f.name v ∧ f.shape.check v = .ok () := by
  rcases Json.lacks_or_holds payload f.name with hl | ⟨v, hv⟩
  · rw [check_of_lacks hl]
    constructor
    · intro h
      split at h <;> cases h
    · rintro ⟨v, hv, -⟩
      exact absurd hl hv.not_lacks
  · rw [check_of_holds hv]
    constructor
    · intro h
      refine ⟨v, hv, ?_⟩
      rcases hs : f.shape.check v with _ | _
      · rw [hs] at h
        cases h
      · rfl
    · rintro ⟨w, hw, hs⟩
      obtain rfl := hv.unique hw
      rw [hs]
      rfl

end CompiledField

namespace CompiledSchema

theorem structuralErrors_eq_filterMap (c : CompiledSchema) (payload : Json.Object)
    (container : String) :
    c.structuralErrors payload container =
      c.fields.filterMap (·.structuralIssue? payload container) := by
  unfold structuralErrors
  congr 1
  funext f
  unfold CompiledField.structuralIssue?
  cases f.check payload <;> rfl

/-- The structural pass does not look at the rules of the fields. -/
theorem structuralErrors_map_rules (c : CompiledSchema)
    (rules : CompiledField → List RuleInvocation) (payload : Json.Object) (container : String) :
    structuralErrors { c with fields := c.fields.map fun f => { f with rules := rules f } }
      payload container = c.structuralErrors payload container := by
  rw [structuralErrors_eq_filterMap, structuralErrors_eq_filterMap, List.filterMap_map]
  rfl

/-- The invocations of a schema are those of the valid fields and those of the others. -/
theorem ruleCount_eq_add (c : CompiledSchema) (payload : Json.Object) :
    c.ruleCount =
      ((c.fields.filter fun f => (f.check payload).isValid).map (·.rules.length)).sum +
        ((c.fields.filter fun f => !(f.check payload).isValid).map (·.rules.length)).sum := by
  have hperm := List.filter_append_perm (fun f => (f.check payload).isValid) c.fields
  rw [ruleCount, List.length_flatMap, ← (hperm.map _).sum_eq, List.map_append, List.sum_append]

end CompiledSchema

namespace Engine

variable {e : Engine} {today : Calendar.Date} {payload : Json.Object}

/-! ## One field -/

/-- What a rule finds is about the rule, and not about the form of the value. -/
theorem RuleFinding.not_isStructural {field : String} {v : Json.Value} {r : RuleInvocation}
    {found : Option Issue} (h : RuleFinding e today field v r found) :
    ∀ i ∈ found, i.kind.isStructural = false := by
  cases h <;> simp [IssueKind.isStructural]

theorem filter_isStructural_findings {field : String} {v : Json.Value}
    {rules : List RuleInvocation} {found : List (Option Issue)}
    (h : List.Forall₂ (RuleFinding e today field v) rules found) :
    found.reduceOption.filter (·.kind.isStructural) = [] := by
  induction h with
  | nil => rfl
  | @cons _ o _ _ hr _ ih =>
    cases o with
    | none => exact ih
    | some i =>
      rw [List.reduceOption_cons_of_some, List.filter_cons_of_neg, ih]
      simp [hr.not_isStructural i rfl]

/-- The structural issues of a block are those that the structural pass finds on its field. -/
theorem FieldBlock.filter_isStructural {f : CompiledField} {b : Block}
    (h : e.FieldBlock today payload f b) :
    b.issues.filter (·.kind.isStructural) =
      (f.structuralIssue? payload e.containerKey).toList := by
  unfold CompiledField.structuralIssue?
  cases h with
  | skipped missing optional => simp [CompiledField.check_of_lacks missing, optional]
  | absent missing required =>
    rw [CompiledField.check_of_lacks missing, if_pos required]
    rfl
  | malformed present bad structural =>
    rw [CompiledField.check_of_holds present, bad]
    -- the kind is one of the three that a shape reports
    rcases structural with rfl | rfl | rfl <;> rfl
  | judged present good findings =>
    rw [CompiledField.check_of_holds present, good]
    exact filter_isStructural_findings findings

/-- A block executes all rules of its field if the field is valid, and none otherwise. -/
theorem FieldBlock.length_executions {f : CompiledField} {b : Block}
    (h : e.FieldBlock today payload f b) :
    b.executions.length = if (f.check payload).isValid then f.rules.length else 0 := by
  cases h with
  | skipped missing optional =>
    simp [CompiledField.check_of_lacks missing, optional, FieldOutcome.isValid]
  | absent missing required =>
    simp [CompiledField.check_of_lacks missing, required, FieldOutcome.isValid]
  | malformed present bad =>
    simp [CompiledField.check_of_holds present, bad, FieldOutcome.isValid]
  | judged present good =>
    simp [CompiledField.check_of_holds present, good, FieldOutcome.isValid]

/-! ## All fields -/

theorem filter_isStructural_blocks {fs : List CompiledField} {bs : List Block}
    (h : List.Forall₂ (e.FieldBlock today payload) fs bs) :
    (bs.flatMap (·.issues)).filter (·.kind.isStructural) =
      fs.filterMap (·.structuralIssue? payload e.containerKey) := by
  induction h with
  | nil => rfl
  | @cons f b fs bs hb _ ih =>
    rw [List.flatMap_cons, List.filter_append, hb.filter_isStructural, ih, List.filterMap_cons]
    cases f.structuralIssue? payload e.containerKey <;> rfl

theorem length_executions_blocks {fs : List CompiledField} {bs : List Block}
    (h : List.Forall₂ (e.FieldBlock today payload) fs bs) :
    (bs.flatMap (·.executions)).length =
      ((fs.filter fun f => (f.check payload).isValid).map (·.rules.length)).sum := by
  induction h with
  | nil => rfl
  | @cons f b fs bs hb _ ih =>
    rw [List.flatMap_cons, List.length_append, hb.length_executions, ih]
    by_cases hf : (f.check payload).isValid = true
    · simp [hf]
    · simp [hf]

theorem structuralErrors_eq_filter (e : Engine) (c : CompiledSchema) (payload : Json.Object)
    (today : Calendar.Date) :
    c.structuralErrors payload e.containerKey =
      (e.collectIssues c payload today).issues.filter (·.kind.isStructural) := by
  obtain ⟨blocks, hblocks⟩ := exists_unique_blocks e today payload c.fields
  have h := (hblocks blocks).2 rfl
  rw [collectIssues_of_blocks h, filter_isStructural_blocks h, c.structuralErrors_eq_filterMap]

theorem rulesApplied_eq_sum (e : Engine) (c : CompiledSchema) (payload : Json.Object)
    (today : Calendar.Date) :
    (e.collectIssues c payload today).rulesApplied =
      ((c.fields.filter fun f => (f.check payload).isValid).map (·.rules.length)).sum := by
  obtain ⟨blocks, hblocks⟩ := exists_unique_blocks e today payload c.fields
  have h := (hblocks blocks).2 rfl
  rw [collectIssues_of_blocks h, length_executions_blocks h]

/-- **The structural pass and the full pass agree.** The issues that the structural pass finds are
those of all issues that have a structural kind, in their order; so they are the same for every
registry and every choice of rules for the fields, on any day. The rules applied are those of the
fields whose outcome is valid. They are at most all rules of the schema, and they are all exactly
if each field with rules has a value that is well formed. -/
theorem structuralErrors_agree (e : Engine) (c : CompiledSchema) (payload : Json.Object)
    (today : Calendar.Date) :
    c.structuralErrors payload e.containerKey =
        (e.collectIssues c payload today).issues.filter (·.kind.isStructural) ∧
      (∀ (r : Rule.Registry) (rules : CompiledField → List RuleInvocation)
          (today' : Calendar.Date),
        (({ e with registry := r } : Engine).collectIssues
            { c with fields := c.fields.map fun f => { f with rules := rules f } }
            payload today').issues.filter (·.kind.isStructural) =
          (e.collectIssues c payload today).issues.filter (·.kind.isStructural)) ∧
      (e.collectIssues c payload today).rulesApplied =
        ((c.fields.filter fun f => (f.check payload).isValid).map (·.rules.length)).sum ∧
      (e.collectIssues c payload today).rulesApplied ≤ c.ruleCount ∧
      ((e.collectIssues c payload today).rulesApplied = c.ruleCount ↔
        ∀ f ∈ c.fields, f.rules ≠ [] →
          ∃ v, Json.Holds payload f.name v ∧ f.shape.check v = .ok ()) := by
  have happlied := rulesApplied_eq_sum e c payload today
  have hcount := c.ruleCount_eq_add payload
  refine ⟨structuralErrors_eq_filter e c payload today, ?_, happlied, by omega, ?_⟩
  · intro r rules today'
    rw [← structuralErrors_eq_filter e, ← structuralErrors_eq_filter { e with registry := r }]
    exact c.structuralErrors_map_rules rules payload e.containerKey
  · -- nothing is left for the fields that are not valid
    rw [happlied, hcount, left_eq_add, List.sum_eq_zero_iff]
    simp only [List.mem_map, List.mem_filter, Bool.not_eq_true', forall_exists_index, and_imp]
    constructor
    · intro h f hf hr
      rw [← CompiledField.isValid_check_iff]
      by_contra hv
      exact hr (List.length_eq_zero_iff.1 (h _ f hf (by simpa using hv) rfl))
    · rintro h _ f hf hv rfl
      by_contra hr
      rw [CompiledField.isValid_check_iff.2 (h f hf (mt List.length_eq_zero_iff.2 hr))] at hv
      cases hv

end Engine

end CustomFields
