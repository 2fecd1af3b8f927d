import CustomFields.Proofs.Data.Entries
import CustomFields.Proofs.Schema.Faults
import CustomFields.Proofs.Validation.Footprint
import CustomFields.Proofs.Validation.Structural

/-!
# Rules that are not registered

A schema may invoke rules by names that a registry does not know. Which names these are is told by
the schema and the registry alone. Where a payload is judged, each such invocation has an issue,
but only if the value of its field is well formed, since no rule is looked up before.

## Main definitions

* `Schema.Misses`: the names that a registry does not know
* `Engine.unknownIssues`: the issues that a field has about them

## Main results

* `Schema.misses_iff`: which of the names that a schema refers to are missed
* `Engine.filter_unknown_collectIssues`: the issues of a payload about rules that are not registered
* `Engine.kind_ne_unknown_of_misses_nil`, `Engine.report_of_misses`: what the names tell of them
-/

namespace CustomFields

theorem Rule.Registry.contains_eq_true_iff {r : Rule.Registry} {name : String} :
    r.contains name = true ↔ name ∈ r.names := by
  rw [contains, Entries.contains, Option.isSome_iff_ne_none, ne_eq, Entries.get?_eq_none_iff,
    not_not, names, List.mem_mergeSort]

theorem Rule.Registry.contains_eq_isSome_lookup? (r : Rule.Registry) (name : String) :
    r.contains name = (r.lookup? name).isSome := by
  rw [contains, Entries.contains, lookup?, Option.isSome_map]

/-! ## The names -/

namespace Schema

/-- The names by which a schema invokes rules, in order. -/
def actions (s : Schema) : List String :=
  s.fields.flatMap fun f => f.rules.map (·.action)

/-- The names by which a schema invokes rules, and which a registry does not know: each once, in
the order of their first use. -/
structure Misses (s : Schema) (r : Rule.Registry) (names : List String) : Prop where
  mem_iff : ∀ name, name ∈ names ↔ name ∈ s.actions ∧ name ∉ r.names
  order : names.Pairwise fun a b => s.actions.idxOf a < s.actions.idxOf b

theorem Misses.unique {s : Schema} {r : Rule.Registry} {names names' : List String}
    (h : s.Misses r names) (h' : s.Misses r names') : names = names' := by
  have nodup {names : List String} (h : s.Misses r names) : names.Nodup :=
    h.order.imp fun hlt => by
      rintro rfl
      exact lt_irrefl _ hlt
  have hperm : names.Perm names' :=
    (List.perm_ext_iff_of_nodup (nodup h) (nodup h')).2 fun name =>
      (h.mem_iff name).trans (h'.mem_iff name).symm
  refine hperm.eq_of_pairwise (fun a b _ _ hab hba => ?_) h.order h'.order
  exact absurd hab hba.asymm

/-- What is left of a list comes in the order in which it stands there first. -/
theorem pairwise_distinctBeyond {seen : List String} (before xs : List String)
    (hseen : ∀ x, x ∈ seen ↔ x ∈ before) :
    (distinctBeyond seen xs).Pairwise
      fun a b => (before ++ xs).idxOf a < (before ++ xs).idxOf b := by
  induction xs generalizing seen before with
  | nil => exact List.Pairwise.nil
  | cons y ys ih =>
    have hassoc : before ++ y :: ys = (before ++ [y]) ++ ys := by simp
    rw [distinctBeyond]
    by_cases hy : y ∈ seen
    · rw [if_pos hy, hassoc]
      refine ih _ fun x => ?_
      rw [hseen, List.mem_append, List.mem_singleton]
      refine ⟨Or.inl, fun h => h.elim id ?_⟩
      rintro rfl
      exact (hseen x).1 hy
    · rw [if_neg hy]
      refine List.pairwise_cons.2 ⟨fun b hb => ?_, ?_⟩
      -- what stands behind the first element is another one
      · obtain ⟨-, hb⟩ := mem_distinctBeyond.1 hb
        obtain ⟨hne, hb⟩ := not_or.1 (List.mem_cons.not.1 hb)
        rw [List.idxOf_append_of_notMem (mt (hseen y).2 hy),
          List.idxOf_append_of_notMem (mt (hseen b).2 hb), List.idxOf_cons_self,
          List.idxOf_cons_ne _ (Ne.symm hne)]
        omega
      · rw [hassoc]
        refine ih _ fun x => ?_
        rw [List.mem_cons, hseen, List.mem_append, List.mem_singleton, or_comm]

/-- **The names that are missed** are those among the references of a schema that a registry does
not know. -/
theorem misses_iff {s : Schema} {r : Rule.Registry} {names : List String} :
    s.Misses r names ↔ names = s.referencedRules.filter (!r.contains ·) := by
  have h : s.Misses r (s.referencedRules.filter (!r.contains ·)) :=
    { mem_iff name := by
        rw [List.mem_filter, Bool.not_eq_true', ← Bool.not_eq_true,
          Rule.Registry.contains_eq_true_iff, referencedRules, mem_distinctBeyond]
        simp [actions]
      order := (pairwise_distinctBeyond [] _ fun _ => Iff.rfl).filter _ }
  refine ⟨fun h' => h'.unique h, ?_⟩
  rintro rfl
  exact h

/-- Among the invocations of a field, those of missed names are those that a registry does not
know. -/
theorem Misses.filter_rules {s : Schema} {r : Rule.Registry} {names : List String}
    (h : s.Misses r names) {f : FieldDefinition} (hf : f ∈ s.fields) :
    f.rules.filter (·.action ∈ names) = f.rules.filter (!r.contains ·.action) := by
  refine List.filter_congr fun i hi => ?_
  have haction : i.action ∈ s.actions := List.mem_flatMap.2 ⟨f, hf, List.mem_map_of_mem hi⟩
  rw [decide_eq_decide.2 (h.mem_iff i.action)]
  cases hcontains : r.contains i.action with
  | true =>
    exact decide_eq_false fun hmem => hmem.2 (Rule.Registry.contains_eq_true_iff.1 hcontains)
  | false =>
    refine decide_eq_true ⟨haction, fun hmem => ?_⟩
    rw [Rule.Registry.contains_eq_true_iff.2 hmem] at hcontains
    cases hcontains

end Schema

theorem exists_mem_of_forall₂ {α β : Type} {R : α → β → Prop} {as : List α} {bs : List β}
    (h : List.Forall₂ R as bs) {a : α} (ha : a ∈ as) : ∃ b ∈ bs, R a b := by
  induction h with
  | nil => cases ha
  | @cons _ b _ _ hab _ ih =>
    rcases List.mem_cons.1 ha with rfl | ha
    · exact ⟨b, List.mem_cons_self, hab⟩
    · obtain ⟨b', hb', hab'⟩ := ih ha
      exact ⟨b', List.mem_cons_of_mem _ hb', hab'⟩

/-! ## The issues -/

namespace Engine

variable {e : Engine} {today : Calendar.Date} {payload : Json.Object}

/-- The issue about an invocation of a rule that is not registered. -/
def unknownIssue (e : Engine) (field : String) (r : RuleInvocation) : Issue where
  fieldPath := [e.containerKey, field]
  kind := .unknownRuleError
  message := "Validation rule '" ++ r.action ++ "' is not registered"
  rule := some r.action
  cause := none

/-- The issues about the invocations of a field of rules that are not registered. Only the rules of
a valid field are looked up. -/
def unknownIssues (e : Engine) (payload : Json.Object) (f : CompiledField) : List Issue :=
  if (f.check payload).isValid then
    (f.rules.filter (!e.registry.contains ·.action)).map (e.unknownIssue f.name)
  else []

theorem RuleFinding.filter_unknown {field : String} {v : Json.Value} {r : RuleInvocation}
    {found : Option Issue} (h : RuleFinding e today field v r found) :
    found.toList.filter (·.kind = .unknownRuleError) =
      if e.registry.contains r.action then [] else [e.unknownIssue field r] := by
  cases h with
  | unregistered unknown =>
    rw [unknown]
    rfl
  | holds known | refused known | failed known =>
    rw [Rule.Registry.contains_eq_isSome_lookup?, known]
    rfl

theorem filter_unknown_findings {field : String} {v : Json.Value} {rules : List RuleInvocation}
    {found : List (Option Issue)}
    (h : List.Forall₂ (RuleFinding e today field v) rules found) :
    found.reduceOption.filter (·.kind = .unknownRuleError) =
      (rules.filter (!e.registry.contains ·.action)).map (e.unknownIssue field) := by
  induction h with
  | nil => rfl
  | @cons r o rules found hr _ ih =>
    have hsplit : (o :: found).reduceOption = o.toList ++ found.reduceOption := by
      cases o <;> rfl
    rw [hsplit, List.filter_append, hr.filter_unknown, ih]
    cases hr : e.registry.contains r.action <;> simp [hr]

/-- The issues of a block about rules that are not registered are those of its field. -/
theorem FieldBlock.filter_unknown {f : CompiledField} {b : Block}
    (h : e.FieldBlock today payload f b) :
    b.issues.filter (·.kind = .unknownRuleError) = e.unknownIssues payload f := by
  unfold unknownIssues
  cases h with
  | skipped missing optional =>
    simp [CompiledField.check_of_lacks missing, optional, FieldOutcome.isValid]
  | absent missing required =>
    rw [CompiledField.check_of_lacks missing, if_pos required]
    rfl
  | malformed present bad structural =>
    rw [CompiledField.check_of_holds present, bad]
    -- the kind is one of the three that a shape reports
    rcases structural with rfl | rfl | rfl <;> rfl
  | judged present good findings =>
    rw [CompiledField.check_of_holds present, good]
    exact filter_unknown_findings findings

theorem filter_unknown_blocks {fs : List CompiledField} {bs : List Block}
    (h : List.Forall₂ (e.FieldBlock today payload) fs bs) :
    (bs.flatMap (·.issues)).filter (·.kind = .unknownRuleError) =
      fs.flatMap (e.unknownIssues payload) := by
  induction h with
  | nil => rfl
  | cons hb _ ih =>
    rw [List.flatMap_cons, List.filter_append, hb.filter_unknown, ih, List.flatMap_cons]

/-- **The issues of a payload about rules that are not registered** are those of its fields, one
behind the other. -/
theorem filter_unknown_collectIssues (e : Engine) (c : CompiledSchema) (payload : Json.Object)
    (today : Calendar.Date) :
    (e.collectIssues c payload today).issues.filter (·.kind = .unknownRuleError) =
      c.fields.flatMap (e.unknownIssues payload) := by
  obtain ⟨blocks, hblocks⟩ := exists_unique_blocks e today payload c.fields
  have h := (hblocks blocks).2 rfl
  rw [collectIssues_of_blocks h, filter_unknown_blocks h]

/-- **Where no name is missed, no payload has such an issue.** -/
theorem kind_ne_unknown_of_misses_nil {s : Schema} {c : CompiledSchema}
    (compiles : CompiledSchema.compile s = .ok c) (h : s.Misses e.registry []) :
    ∀ i ∈ (e.report c payload today).issues, i.kind ≠ .unknownRuleError := by
  have hnone : c.fields.flatMap (e.unknownIssues payload) = [] := by
    refine List.flatMap_eq_nil_iff.2 fun k hk => ?_
    obtain ⟨f, hf, hmeans⟩ :=
      exists_mem_of_forall₂ (CompiledSchema.means_of_compile compiles).flip hk
    have hrules : k.rules.filter (!e.registry.contains ·.action) = [] := by
      rw [hmeans.rules_eq, ← h.filter_rules hf]
      exact List.filter_eq_nil_iff.2 fun r _ => by simp
    rw [unknownIssues, hrules]
    exact ite_self []
  rw [← filter_unknown_collectIssues e c payload today, List.filter_eq_nil_iff] at hnone
  exact fun i hi hkind => hnone i hi (decide_eq_true hkind)

theorem filter_fieldPath_unknownIssues (f : CompiledField) (name : String) :
    (e.unknownIssues payload f).filter (·.fieldPath = [e.containerKey, name]) =
      if f.name = name then e.unknownIssues payload f else [] := by
  have hpath : ∀ i ∈ e.unknownIssues payload f, i.fieldPath = [e.containerKey, f.name] := by
    intro i hi
    unfold unknownIssues at hi
    split at hi
    · obtain ⟨r, -, rfl⟩ := List.mem_map.1 hi
      rfl
    · cases hi
  split
  · rename_i hname
    exact List.filter_eq_self.2 fun i hi => by simp [hpath i hi, hname]
  · rename_i hname
    exact List.filter_eq_nil_iff.2 fun i hi => by simp [hpath i hi, hname]

/-- Such issues on one field are those of that field. -/
theorem filter_unknown_field (e : Engine) (payload : Json.Object) (today : Calendar.Date)
    {c : CompiledSchema} (distinct : (c.fields.map (·.name)).Nodup) {f : CompiledField}
    (hf : f ∈ c.fields) :
    (e.collectIssues c payload today).issues.filter
        (fun i => i.fieldPath = [e.containerKey, f.name] ∧ i.kind = .unknownRuleError) =
      e.unknownIssues payload f := by
  simp only [Bool.decide_and]
  rw [← List.filter_filter, filter_unknown_collectIssues, List.filter_flatMap]
  simp only [filter_fieldPath_unknownIssues]
  -- no field before that one, and none behind it, has its name
  obtain ⟨before, behind, hfields⟩ := List.append_of_mem hf
  rw [hfields] at distinct ⊢
  rw [List.map_append, List.map_cons, List.nodup_middle, List.nodup_cons, List.mem_append,
    not_or] at distinct
  have hbefore : ∀ g ∈ before, g.name ≠ f.name := fun g hg heq =>
    distinct.1.1 (List.mem_map.2 ⟨g, hg, heq⟩)
  have hbehind : ∀ g ∈ behind, g.name ≠ f.name := fun g hg heq =>
    distinct.1.2 (List.mem_map.2 ⟨g, hg, heq⟩)
  rw [List.flatMap_append, List.flatMap_cons, if_pos rfl,
    List.flatMap_eq_nil_iff.2 fun g hg => if_neg (hbefore g hg),
    List.flatMap_eq_nil_iff.2 fun g hg => if_neg (hbehind g hg), List.append_nil, List.nil_append]

/-- **A field with a value that it accepts has an issue for each invocation of a missed name**, and
none more of this kind. With such an invocation, the payload is not valid. -/
theorem report_of_misses {s : Schema} {c : CompiledSchema}
    (compiles : CompiledSchema.compile s = .ok c) {names : List String}
    (h : s.Misses e.registry names) {f : FieldDefinition} (hf : f ∈ s.fields) {v : Json.Value}
    (holds : Json.Holds payload f.name v) (accepts : f.Accepts v) :
    (e.report c payload today).issues.filter
        (fun i => i.fieldPath = [e.containerKey, f.name] ∧ i.kind = .unknownRuleError) =
      (f.rules.filter (·.action ∈ names)).map (e.unknownIssue f.name) ∧
    ((∃ r ∈ f.rules, r.action ∈ names) → (e.report c payload today).valid = false) := by
  obtain ⟨k, hk, hmeans⟩ := exists_mem_of_forall₂ (CompiledSchema.means_of_compile compiles) hf
  have hlawful := Schema.isLawful_iff.2 (CompiledSchema.exists_compile_iff.1 ⟨c, compiles⟩)
  have hdistinct : (c.fields.map (·.name)).Nodup := by
    rw [CompiledSchema.map_fields_of_compile compiles fun _ _ hm => hm.name_eq]
    exact hlawful.distinct
  have hvalid := (hmeans.check_iff payload (.valid v)).2 (.valid holds accepts)
  have hfilter := filter_unknown_field e payload today hdistinct hk
  rw [hmeans.name_eq, unknownIssues, hvalid, hmeans.rules_eq, hmeans.name_eq, FieldOutcome.isValid,
    if_pos rfl, ← h.filter_rules hf] at hfilter
  refine ⟨hfilter, ?_⟩
  rintro ⟨r, hr, hmem⟩
  have hissue : e.unknownIssue f.name r ∈
      (f.rules.filter (·.action ∈ names)).map (e.unknownIssue f.name) :=
    List.mem_map_of_mem (List.mem_filter.2 ⟨hr, decide_eq_true hmem⟩)
  rw [← hfilter] at hissue
  exact List.isEmpty_eq_false_iff_exists_mem.2 ⟨_, (List.mem_filter.1 hissue).1⟩

end Engine

end CustomFields
