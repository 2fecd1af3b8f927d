import Mathlib.Algebra.GroupWithZero.Nat
import Mathlib.Data.List.Forall2
import Mathlib.Data.List.ReduceOption
import CustomFields.Validation.Engine

/-!
# The issues of a payload, block by block

The engine pushes what it finds on one list while it goes through the fields of a payload. That
list is the concatenation of one block for each field, in the order of the fields, and a block is
determined by its field alone: by what the payload has under the name of the field, by the shape
of the field, and by what the rules of the field answer.

A block records the rules that have been executed as well as the issues. This is what allows it to
be said that a field which is missing or malformed executes none: the engine counts the executions
of the blocks, and its answer depends on the registry only through them.

## Main definitions

* `Json.Lacks`, `Json.Holds`: what a payload has under a name
* `Engine.RuleFinding`: what one invocation of a rule finds
* `Engine.FieldBlock`: what the judgement of one field executes and finds

## Main results

* `Engine.FieldBlock.exists_unique`: each field has exactly one block
* `Engine.collectIssues_eq_blocks`: the issues of a payload, and its report, are made of the blocks
-/

namespace CustomFields

/-- A payload has no value under a name: the key is absent, or it holds a null. -/
def Json.Lacks (payload : Json.Object) (name : String) : Prop :=
  ∀ v, Entries.get? name payload = some v → v = .null

/-- A payload has a value under a name. -/
def Json.Holds (payload : Json.Object) (name : String) (v : Json.Value) : Prop :=
  Entries.get? name payload = some v ∧ v ≠ .null

theorem Json.lacks_or_holds (payload : Json.Object) (name : String) :
    Json.Lacks payload name ∨ ∃ v, Json.Holds payload name v := by
  by_cases h : Json.Lacks payload name
  · exact Or.inl h
  · simp only [Json.Lacks, not_forall] at h
    obtain ⟨v, hv, hn⟩ := h
    exact Or.inr ⟨v, hv, hn⟩

theorem Json.Holds.unique {payload : Json.Object} {name : String} {v w : Json.Value}
    (hv : Json.Holds payload name v) (hw : Json.Holds payload name w) : v = w :=
  Option.some.inj (hv.1.symm.trans hw.1)

theorem Json.Holds.not_lacks {payload : Json.Object} {name : String} {v : Json.Value}
    (hv : Json.Holds payload name v) : ¬ Json.Lacks payload name :=
  fun h => hv.2 (h v hv.1)

/-! ## One field by itself -/

/-- What a shape has against a value is its type, the pattern, or the options. -/
theorem Shape.kind_of_check_eq_error {s : Shape} {v : Json.Value} {kind : IssueKind}
    {message : String} (h : s.check v = .error (kind, message)) :
    kind = .typeError ∨ kind = .patternError ∨ kind = .enumError := by
  cases s <;> cases v <;> simp only [Shape.check] at h
  -- a value of the wrong kind, one that a pattern or a list of options is asked about, or a success
  all_goals first
    | cases h; simp
    | split at h <;> cases h; simp
    | cases h

namespace CompiledField

variable {f : CompiledField} {payload : Json.Object} {v : Json.Value}

theorem check_of_lacks (h : Json.Lacks payload f.name) :
    f.check payload = if f.required then .invalid .requiredError requiredMessage else .skipped := by
  unfold check
  cases hg : Entries.get? f.name payload with
  | none => rfl
  | some w => rw [h w hg]

theorem check_of_holds (h : Json.Holds payload f.name v) :
    f.check payload =
      match f.shape.check v with
      | .ok () => .valid v
      | .error (kind, message) => .invalid kind message := by
  unfold check
  rw [h.1]
  cases v with
  | null => exact absurd rfl h.2
  | bool _ | number _ | string _ | array _ | object _ => rfl

end CompiledField

/-! ## One invocation of a rule -/

/-- The call of a rule by its name ends in one of three ways. -/
theorem Rule.Registry.execute_cases (r : Rule.Registry) (name : String) (v : Json.Value)
    (params : Rule.Parameters) (today : Calendar.Date) :
    (r.contains name = false ∧ r.execute name v params today = .error (.unknown name)) ∨
      (∃ function b, r.lookup? name = some function ∧ function v params today = .ok b ∧
        r.execute name v params today = .ok b) ∨
      ∃ function failure, r.lookup? name = some function ∧
        function v params today = .error failure ∧
        r.execute name v params today = .error (.execution name failure) := by
  unfold execute
  cases h : r.lookup? name with
  | none =>
    have hc : r.contains name = false := by
      simpa [contains, Entries.contains, lookup?] using h
    exact Or.inl ⟨hc, rfl⟩
  | some function =>
    cases hf : function v params today with
    | ok b => exact Or.inr (Or.inl ⟨function, b, rfl, hf, by simp [hf, pure, Except.pure]⟩)
    | error failure =>
      exact Or.inr (Or.inr ⟨function, failure, rfl, hf, by simp [hf, throw, throwThe,
        MonadExceptOf.throw]⟩)

namespace Engine

/-- What one invocation of a rule finds on the value of a field: nothing where the rule holds, and
one issue that names the rule where it refuses, fails, or is not registered. -/
inductive RuleFinding (e : Engine) (today : Calendar.Date) (field : String) (v : Json.Value)
    (r : RuleInvocation) : Option Issue → Prop
  | holds {function : Rule.Function} (known : e.registry.lookup? r.action = some function)
      (answer : function v r.params today = .ok true) : RuleFinding e today field v r none
  | refused {function : Rule.Function} (known : e.registry.lookup? r.action = some function)
      (answer : function v r.params today = .ok false) :
      RuleFinding e today field v r (some
        { fieldPath := [e.containerKey, field], kind := .businessRuleError
          message := r.errorMessage, rule := some r.action, cause := none })
  | failed {function : Rule.Function} {failure : Rule.Failure}
      (known : e.registry.lookup? r.action = some function)
      (answer : function v r.params today = .error failure) :
      RuleFinding e today field v r (some
        { fieldPath := [e.containerKey, field], kind := .businessRuleError
          message := "Rule '" ++ r.action ++ "' failed: " ++ failure.message
          rule := some r.action, cause := some failure.message })
  | unregistered (unknown : e.registry.contains r.action = false) :
      RuleFinding e today field v r (some
        { fieldPath := [e.containerKey, field], kind := .unknownRuleError
          message := "Validation rule '" ++ r.action ++ "' is not registered"
          rule := some r.action, cause := none })

section Rules

variable {e : Engine} {today : Calendar.Date} {field : String} {v : Json.Value}

/-- The finding of an invocation is read off the result of its execution, and this is what the
engine adds to its list. -/
theorem exists_ruleFinding_applyRule (e : Engine) (today : Calendar.Date) (field : String)
    (v : Json.Value) (r : RuleInvocation) :
    ∃ found, RuleFinding e today field v r found ∧
      ∀ p, e.applyRule today field v p r =
        ⟨p.issues ++ found.toList, p.rulesApplied + 1⟩ := by
  obtain ⟨hn, hx⟩ | ⟨function, b, hk, ha, hx⟩ | ⟨function, failure, hk, ha, hx⟩ :=
    e.registry.execute_cases r.action v r.params today
  -- not registered
  · exact ⟨_, .unregistered hn, fun p => by simp only [applyRule, hx]; rfl⟩
  -- executed, with an answer
  · cases b with
    | true => exact ⟨_, .holds hk ha, fun p => by simp only [applyRule, hx]; rfl⟩
    | false => exact ⟨_, .refused hk ha, fun p => by simp only [applyRule, hx]; rfl⟩
  -- executed, without one
  · exact ⟨_, .failed hk ha, fun p => by simp only [applyRule, hx]; rfl⟩

theorem RuleFinding.unique {r : RuleInvocation} {found found' : Option Issue}
    (h : RuleFinding e today field v r found) (h' : RuleFinding e today field v r found') :
    found = found' := by
  have known_contains {function : Rule.Function}
      (known : e.registry.lookup? r.action = some function) :
      e.registry.contains r.action = true := by
    simp only [Rule.Registry.lookup?, Option.map_eq_some_iff] at known
    obtain ⟨registered, hr, -⟩ := known
    simp [Rule.Registry.contains, Entries.contains, hr]
  -- a rule that is registered is one function, which has one answer
  cases h <;> cases h' <;> simp_all

/-- A list of invocations adds its findings in order, and counts each invocation. -/
theorem foldl_applyRule {rules : List RuleInvocation} {found : List (Option Issue)}
    (h : List.Forall₂ (RuleFinding e today field v) rules found) (p : Progress) :
    rules.foldl (e.applyRule today field v) p =
      ⟨p.issues ++ found.reduceOption, p.rulesApplied + rules.length⟩ := by
  -- on the invocations, for any progress so far
  induction h generalizing p with
  | nil => simp
  | @cons r o rules found hr _ ih =>
    obtain ⟨o', ho', happly⟩ := exists_ruleFinding_applyRule e today field v r
    obtain rfl := hr.unique ho'
    rw [List.foldl_cons, happly, ih]
    cases o <;> simp [Nat.add_assoc, Nat.add_comm 1]

end Rules

/-! ## One field -/

/-- One execution of a rule: the field, its value, and the invocation. -/
structure Execution where
  field : String
  value : Json.Value
  rule : RuleInvocation

/-- What the judgement of one field executes, and the issues that it finds, both in order. -/
structure Block where
  executions : List Execution
  issues : List Issue

/-- The judgement of one field of a payload. A field without a value or with a malformed one
executes no rule; one that is well formed executes all of its own, and each may have an issue. -/
inductive FieldBlock (e : Engine) (today : Calendar.Date) (payload : Json.Object)
    (f : CompiledField) : Block → Prop
  | skipped (missing : Json.Lacks payload f.name) (optional : f.required = false) :
      FieldBlock e today payload f ⟨[], []⟩
  | absent (missing : Json.Lacks payload f.name) (required : f.required = true) :
      FieldBlock e today payload f
        ⟨[], [.new e.containerKey f.name .requiredError "Field required"]⟩
  | malformed {v : Json.Value} {kind : IssueKind} {message : String}
      (present : Json.Holds payload f.name v) (bad : f.shape.check v = .error (kind, message))
      (structural : kind = .typeError ∨ kind = .patternError ∨ kind = .enumError) :
      FieldBlock e today payload f ⟨[], [.new e.containerKey f.name kind message]⟩
  | judged {v : Json.Value} {found : List (Option Issue)}
      (present : Json.Holds payload f.name v) (good : f.shape.check v = .ok ())
      (findings : List.Forall₂ (RuleFinding e today f.name v) f.rules found) :
      FieldBlock e today payload f
        ⟨f.rules.map fun r => ⟨f.name, v, r⟩, found.reduceOption⟩

section Fields

variable {e : Engine} {today : Calendar.Date} {payload : Json.Object}

theorem exists_findings (e : Engine) (today : Calendar.Date) (field : String) (v : Json.Value)
    (rules : List RuleInvocation) :
    ∃ found, List.Forall₂ (RuleFinding e today field v) rules found := by
  induction rules with
  | nil => exact ⟨[], .nil⟩
  | cons r rules ih =>
    obtain ⟨found, hf⟩ := ih
    obtain ⟨o, ho, -⟩ := exists_ruleFinding_applyRule e today field v r
    exact ⟨o :: found, .cons ho hf⟩

theorem findings_unique {field : String} {v : Json.Value} {rules : List RuleInvocation}
    {found found' : List (Option Issue)}
    (h : List.Forall₂ (RuleFinding e today field v) rules found)
    (h' : List.Forall₂ (RuleFinding e today field v) rules found') : found = found' := by
  induction h generalizing found' with
  | nil => cases h'; rfl
  | cons ho _ ih =>
    cases h' with
    | cons ho' hf' => rw [ho.unique ho', ih hf']

/-- **Each field has exactly one block.** -/
theorem FieldBlock.exists_unique (e : Engine) (today : Calendar.Date) (payload : Json.Object)
    (f : CompiledField) :
    ∃ b, ∀ b', e.FieldBlock today payload f b' ↔ b' = b := by
  obtain hm | ⟨v, hv⟩ := Json.lacks_or_holds payload f.name
  -- without a value, the field is skipped or missed
  · cases hr : f.required with
    | false =>
      refine ⟨⟨[], []⟩, fun b' => ⟨fun h => ?_, fun h => h ▸ .skipped hm hr⟩⟩
      cases h with
      | skipped => rfl
      | absent _ required => rw [hr] at required; cases required
      | malformed present => exact absurd hm present.not_lacks
      | judged present => exact absurd hm present.not_lacks
    | true =>
      refine ⟨_, fun b' => ⟨fun h => ?_, fun h => h ▸ .absent hm hr⟩⟩
      cases h with
      | skipped _ optional => rw [hr] at optional; cases optional
      | absent => rfl
      | malformed present => exact absurd hm present.not_lacks
      | judged present => exact absurd hm present.not_lacks
  -- with a value, its shape decides whether the rules are executed
  · cases hc : f.shape.check v with
    | error why =>
      obtain ⟨kind, message⟩ := why
      refine ⟨_, fun b' => ⟨fun h => ?_, fun h => h ▸ .malformed hv hc
        (Shape.kind_of_check_eq_error hc)⟩⟩
      cases h with
      | skipped missing => exact absurd missing hv.not_lacks
      | absent missing => exact absurd missing hv.not_lacks
      | malformed present bad =>
        obtain rfl := present.unique hv
        rw [hc] at bad
        cases bad
        rfl
      | judged present good =>
        obtain rfl := present.unique hv
        rw [hc] at good
        cases good
    | ok =>
      obtain ⟨found, hf⟩ := exists_findings e today f.name v f.rules
      refine ⟨_, fun b' => ⟨fun h => ?_, fun h => h ▸ .judged hv hc hf⟩⟩
      cases h with
      | skipped missing => exact absurd missing hv.not_lacks
      | absent missing => exact absurd missing hv.not_lacks
      | malformed present bad =>
        obtain rfl := present.unique hv
        rw [hc] at bad
        cases bad
      | judged present good findings =>
        obtain rfl := present.unique hv
        rw [findings_unique findings hf]

/-- The engine adds the block of a field to what it has found before. -/
theorem checkField_of_fieldBlock {f : CompiledField} {b : Block}
    (h : e.FieldBlock today payload f b) (p : Progress) :
    e.checkField today payload p f =
      ⟨p.issues ++ b.issues, p.rulesApplied + b.executions.length⟩ := by
  unfold checkField
  cases h with
  | skipped missing optional => simp [CompiledField.check_of_lacks missing, optional]
  | absent missing required =>
    rw [CompiledField.check_of_lacks missing, if_pos required]
    rfl
  | malformed present bad => simp only [CompiledField.check_of_holds present, bad]; rfl
  | judged present good findings =>
    simp only [CompiledField.check_of_holds present, good, List.length_map]
    exact foldl_applyRule findings p

/-- The block of a field is the same for every registry that answers its executions alike. -/
theorem FieldBlock.congr_registry {f : CompiledField} {b : Block} {r : Rule.Registry}
    (h : e.FieldBlock today payload f b)
    (agree : ∀ x ∈ b.executions, r.execute x.rule.action x.value x.rule.params today =
      e.registry.execute x.rule.action x.value x.rule.params today) (p : Progress) :
    { e with registry := r }.checkField today payload p f = e.checkField today payload p f := by
  unfold checkField
  cases h with
  | skipped missing optional => simp [CompiledField.check_of_lacks missing, optional]
  | absent missing required => simp [CompiledField.check_of_lacks missing, required]
  | malformed present bad => simp [CompiledField.check_of_holds present, bad]
  | @judged v found present good findings =>
    simp only [CompiledField.check_of_holds present, good]
    -- only here is the registry asked, and only for the executions of the block
    refine List.foldl_ext _ _ _ fun p i hi => ?_
    simp only [applyRule, agree ⟨f.name, v, i⟩ (List.mem_map.mpr ⟨i, hi, rfl⟩)]

end Fields

/-! ## All fields -/

section Schemas

variable {e : Engine} {today : Calendar.Date} {payload : Json.Object}

/-- The loop over the fields appends their blocks. -/
theorem foldl_checkField {fs : List CompiledField} {bs : List Block}
    (h : List.Forall₂ (e.FieldBlock today payload) fs bs) (p : Progress) :
    fs.foldl (e.checkField today payload) p =
      ⟨p.issues ++ bs.flatMap (·.issues),
        p.rulesApplied + (bs.flatMap (·.executions)).length⟩ := by
  induction h generalizing p with
  | nil => simp
  | @cons f b fs bs hb _ ih =>
    rw [List.foldl_cons, checkField_of_fieldBlock hb, ih]
    simp [Nat.add_assoc]

theorem exists_unique_blocks (e : Engine) (today : Calendar.Date) (payload : Json.Object)
    (fs : List CompiledField) :
    ∃ blocks, ∀ bs, List.Forall₂ (e.FieldBlock today payload) fs bs ↔ bs = blocks := by
  induction fs with
  | nil => exact ⟨[], fun bs => by simp⟩
  | cons f fs ih =>
    obtain ⟨b, hb⟩ := FieldBlock.exists_unique e today payload f
    obtain ⟨blocks, hblocks⟩ := ih
    refine ⟨b :: blocks, fun bs => ⟨fun h => ?_, fun h => ?_⟩⟩
    · cases h with
      | cons h₁ h₂ => rw [(hb _).mp h₁, (hblocks _).mp h₂]
    · exact h ▸ .cons ((hb b).mpr rfl) ((hblocks blocks).mpr rfl)

theorem collectIssues_of_blocks {c : CompiledSchema} {bs : List Block}
    (h : List.Forall₂ (e.FieldBlock today payload) c.fields bs) :
    e.collectIssues c payload today =
      ⟨bs.flatMap (·.issues), (bs.flatMap (·.executions)).length⟩ := by
  simpa [collectIssues] using foldl_checkField h ⟨[], 0⟩

/-- A loop over fields answers alike for registries that answer the executions alike. -/
theorem foldl_checkField_congr_registry {r : Rule.Registry} {fs : List CompiledField}
    {bs : List Block} (h : List.Forall₂ (e.FieldBlock today payload) fs bs)
    (agree : ∀ x ∈ bs.flatMap (·.executions),
      r.execute x.rule.action x.value x.rule.params today =
        e.registry.execute x.rule.action x.value x.rule.params today) (p : Progress) :
    fs.foldl (({ e with registry := r } : Engine).checkField today payload) p =
      fs.foldl (e.checkField today payload) p := by
  induction h generalizing p with
  | nil => rfl
  | @cons f b fs bs hb _ ih =>
    simp only [List.flatMap_cons, List.mem_append] at agree
    rw [List.foldl_cons, List.foldl_cons, hb.congr_registry fun x hx => agree x (Or.inl hx)]
    exact ih (fun x hx => agree x (Or.inr hx)) _

/-- The report of a field alone is its block. -/
theorem report_singleton {f : CompiledField} {b : Block}
    (h : e.FieldBlock today payload f b) (fingerprint : String) :
    e.report ⟨[f], fingerprint⟩ payload today =
      { valid := b.issues.isEmpty, issues := b.issues, fieldsChecked := 1
        rulesApplied := b.executions.length } := by
  have hp := collectIssues_of_blocks (c := ⟨[f], fingerprint⟩) (.cons h .nil)
  simp only [List.flatMap_cons, List.flatMap_nil, List.append_nil] at hp
  simp only [report, hp, List.length_singleton]

/-- The reports of fields alone, put together, are the blocks put together. -/
theorem reports_of_blocks {fs : List CompiledField} {bs : List Block}
    (h : List.Forall₂ (e.FieldBlock today payload) fs bs) (fingerprint : String) :
    (fs.all fun f => (e.report ⟨[f], fingerprint⟩ payload today).valid) =
        bs.all (·.issues.isEmpty) ∧
      (fs.flatMap fun f => (e.report ⟨[f], fingerprint⟩ payload today).issues) =
        bs.flatMap (·.issues) ∧
      (fs.map fun f => (e.report ⟨[f], fingerprint⟩ payload today).rulesApplied).sum =
        (bs.flatMap (·.executions)).length := by
  induction h with
  | nil => simp
  | cons hb _ ih => simp [report_singleton hb, ih]

/-- **The issues of a payload are the blocks of the fields, one behind the other.** There is one
block for each field in the order of the fields, and no other list of blocks; the rules that the
engine counts are the executions of the blocks, and no answer of the registry beyond them matters.
Hence a payload passes exactly if no block has an issue, and the report by a schema is made of the
reports by its fields alone. -/
theorem collectIssues_eq_blocks (e : Engine) (c : CompiledSchema) (payload : Json.Object)
    (today : Calendar.Date) :
    ∃ blocks : List Block,
      (∀ bs, List.Forall₂ (e.FieldBlock today payload) c.fields bs ↔ bs = blocks) ∧
      (e.collectIssues c payload today).issues = blocks.flatMap (·.issues) ∧
      (e.collectIssues c payload today).rulesApplied =
        (blocks.flatMap (·.executions)).length ∧
      (∀ r : Rule.Registry,
        (∀ x ∈ blocks.flatMap (·.executions),
          r.execute x.rule.action x.value x.rule.params today =
            e.registry.execute x.rule.action x.value x.rule.params today) →
        ({ e with registry := r } : Engine).collectIssues c payload today =
          e.collectIssues c payload today) ∧
      e.validateCompiled c payload today =
        (if blocks.all (·.issues.isEmpty) then .ok payload
          else .error ⟨blocks.flatMap (·.issues)⟩) ∧
      e.report c payload today =
        { valid := c.fields.all fun f => (e.report ⟨[f], c.fingerprint⟩ payload today).valid
          issues := c.fields.flatMap fun f =>
            (e.report ⟨[f], c.fingerprint⟩ payload today).issues
          fieldsChecked := c.fields.length
          rulesApplied := (c.fields.map fun f =>
            (e.report ⟨[f], c.fingerprint⟩ payload today).rulesApplied).sum } := by
  obtain ⟨blocks, hblocks⟩ := exists_unique_blocks e today payload c.fields
  have h := (hblocks blocks).mpr rfl
  -- the whole answer of the engine is read off the blocks
  have hp := collectIssues_of_blocks h
  have hall : blocks.all (·.issues.isEmpty) = (blocks.flatMap (·.issues)).isEmpty := by
    rw [Bool.eq_iff_iff]
    simp
  refine ⟨blocks, hblocks, by rw [hp], by rw [hp], fun r agree => ?_, ?_, ?_⟩
  · exact foldl_checkField_congr_registry h agree _
  · simp only [validateCompiled, hp, hall]
    cases blocks.flatMap (·.issues) <;> rfl
  · obtain ⟨hvalid, hissues, hrules⟩ := reports_of_blocks h c.fingerprint
    rw [hvalid, hissues, hrules, hall]
    simp only [report, hp]

end Schemas

end Engine

end CustomFields
