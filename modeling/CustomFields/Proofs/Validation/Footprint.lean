import CustomFields.Proofs.Validation.Meaning

/-!
# What a report depends on

The engine is given a payload, a registry and a container key, and much of that has no influence on
what it finds. It looks into the payload only under the names of the fields, where it does not tell
a null from an absent key, and into the registry only under the names of the rules that the schema
refers to. The container key is written in front of the paths of the issues, and nothing else is
done with it.

The schema lists the rules that it refers to, each once; the engine reads the compiled fields. That
both name the same rules is what makes the list the footprint of the engine in a registry.

## Main definitions

* `Json.Alike`: two payloads that have the same under a name
* `Issue.under`, `Engine.Progress.under`: issues with another container key

## Main results

* `CompiledSchema.mem_referencedRules_iff`: the rules that a schema refers to are those of its
  compiled fields
* `Engine.collectIssues_footprint`: payloads, registries and keys that make no difference
-/

namespace CustomFields

/-- Two payloads have the same under a name: the same value, or both none. -/
def Json.Alike (payload payload' : Json.Object) (name : String) : Prop :=
  (Json.Lacks payload name ∧ Json.Lacks payload' name) ∨
    ∃ v, Json.Holds payload name v ∧ Json.Holds payload' name v

/-! ## The rules that a schema refers to -/

theorem Schema.mem_distinctBeyond {x : String} {seen xs : List String} :
    x ∈ distinctBeyond seen xs ↔ x ∈ xs ∧ x ∉ seen := by
  induction xs generalizing seen with
  | nil => simp [distinctBeyond]
  | cons y ys ih =>
    rw [distinctBeyond]
    by_cases hy : y ∈ seen
    · rw [if_pos hy, ih, List.mem_cons]
      constructor
      · rintro ⟨hx, hs⟩
        exact ⟨Or.inr hx, hs⟩
      · rintro ⟨rfl | hx, hs⟩
        · exact absurd hy hs
        · exact ⟨hx, hs⟩
    · rw [if_neg hy, List.mem_cons, List.mem_cons, ih, List.mem_cons, not_or]
      constructor
      · rintro (rfl | ⟨hx, -, hs⟩)
        · exact ⟨Or.inl rfl, hy⟩
        · exact ⟨Or.inr hx, hs⟩
      · rintro ⟨hx, hs⟩
        by_cases hxy : x = y
        · exact Or.inl hxy
        · exact Or.inr ⟨hx.resolve_left hxy, hxy, hs⟩

namespace CompiledSchema

variable {s : Schema} {c : CompiledSchema}

/-- The compiled fields are those of the definitions, one by one. -/
theorem means_of_compile (h : compile s = .ok c) :
    List.Forall₂ (fun f k => k.Means f) s.fields c.fields := by
  rw [compile] at h
  cases hcheck : s.check with
  | error e =>
    rw [hcheck] at h
    cases h
  | ok _ =>
    cases hfields : s.fields.mapM CompiledField.ofDefinition with
    | error e =>
      rw [hcheck, hfields] at h
      cases h
    | ok cs =>
      rw [hcheck, hfields] at h
      cases h
      exact CompiledField.means_of_mapM hfields

/-- What a compiled field has in common with its definition is found in both lists of fields. -/
theorem map_fields_of_compile {α : Type} (h : compile s = .ok c) {g : CompiledField → α}
    {g' : FieldDefinition → α} (same : ∀ k f, k.Means f → g k = g' f) :
    c.fields.map g = s.fields.map g' := by
  have hmeans := means_of_compile h
  generalize s.fields = fs, c.fields = ks at hmeans
  induction hmeans with
  | nil => rfl
  | cons hm _ ih => rw [List.map_cons, List.map_cons, same _ _ hm, ih]

/-- **The rules that a schema refers to are those of its compiled fields.** -/
theorem mem_referencedRules_iff (h : compile s = .ok c) {name : String} :
    name ∈ s.referencedRules ↔ ∃ k ∈ c.fields, ∃ r ∈ k.rules, r.action = name := by
  have hrules : c.fields.map (·.rules) = s.fields.map (·.rules) :=
    map_fields_of_compile h fun _ _ hm => hm.rules_eq
  have hactions : s.fields.flatMap (fun f => f.rules.map (·.action)) =
      (c.fields.map (·.rules)).flatMap (·.map (·.action)) := by
    rw [hrules, List.flatMap_map]
  rw [Schema.referencedRules, hactions]
  simp [Schema.mem_distinctBeyond]

end CompiledSchema

/-! ## Payloads and registries -/

/-- A field does not tell alike payloads apart. -/
theorem CompiledField.check_congr {f : CompiledField} {payload payload' : Json.Object}
    (h : Json.Alike payload payload' f.name) : f.check payload = f.check payload' := by
  rcases h with ⟨hl, hl'⟩ | ⟨v, hv, hv'⟩
  · rw [check_of_lacks hl, check_of_lacks hl']
  · rw [check_of_holds hv, check_of_holds hv']

namespace Engine

variable {today : Calendar.Date}

/-- A rule is looked up under its own name only. -/
theorem applyRule_congr {r r' : Rule.Registry} {key : String} {i : RuleInvocation}
    (h : r.lookup? i.action = r'.lookup? i.action) (field : String) (v : Json.Value)
    (p : Progress) :
    applyRule ⟨r, key⟩ today field v p i = applyRule ⟨r', key⟩ today field v p i := by
  have hexecute : r.execute i.action v i.params today = r'.execute i.action v i.params today := by
    unfold Rule.Registry.execute
    rw [h]
  unfold applyRule
  rw [hexecute]

theorem checkField_congr {r r' : Rule.Registry} {key : String} {payload payload' : Json.Object}
    {f : CompiledField} (hpayload : Json.Alike payload payload' f.name)
    (hrules : ∀ i ∈ f.rules, r.lookup? i.action = r'.lookup? i.action) (p : Progress) :
    checkField ⟨r, key⟩ today payload p f = checkField ⟨r', key⟩ today payload' p f := by
  unfold checkField
  rw [CompiledField.check_congr hpayload]
  cases f.check payload' with
  | skipped => rfl
  | invalid kind message => rfl
  | valid v =>
    apply List.foldl_ext
    intro p i hi
    exact applyRule_congr (hrules i hi) f.name v p

/-- Payloads that are alike under the names of the fields, and registries that have the same under
the names of the rules of the fields, lead to the same. -/
theorem collectIssues_congr {r r' : Rule.Registry} {c : CompiledSchema}
    {payload payload' : Json.Object} (key : String)
    (hpayload : ∀ f ∈ c.fields, Json.Alike payload payload' f.name)
    (hrules : ∀ f ∈ c.fields, ∀ i ∈ f.rules, r.lookup? i.action = r'.lookup? i.action) :
    collectIssues ⟨r, key⟩ c payload today = collectIssues ⟨r', key⟩ c payload' today := by
  apply List.foldl_ext
  intro p f hf
  exact checkField_congr (hpayload f hf) (hrules f hf) p

end Engine

/-! ## The container key -/

/-- An issue with another container key in front of its path. -/
def Issue.under (key : String) (i : Issue) : Issue :=
  { i with fieldPath := key :: i.fieldPath.tail }

namespace Engine

/-- What has been found, with another container key. -/
def Progress.under (key : String) (p : Progress) : Progress :=
  ⟨p.issues.map (·.under key), p.rulesApplied⟩

variable {r : Rule.Registry} {today : Calendar.Date} {payload : Json.Object}

theorem applyRule_under (key key' field : String) (v : Json.Value) (p : Progress)
    (i : RuleInvocation) :
    applyRule ⟨r, key'⟩ today field v (p.under key') i =
      (applyRule ⟨r, key⟩ today field v p i).under key' := by
  unfold applyRule Progress.under
  -- the answer of the rule is the same, whatever the key is
  rcases r.execute i.action v i.params today with (_ | _) | _ | _ <;>
    simp [Issue.under, Issue.new]

theorem checkField_under (key key' : String) (p : Progress) (f : CompiledField) :
    checkField ⟨r, key'⟩ today payload (p.under key') f =
      (checkField ⟨r, key⟩ today payload p f).under key' := by
  unfold checkField
  cases f.check payload with
  | skipped => rfl
  | invalid kind message => simp [Progress.under, Issue.under, Issue.new]
  | valid v => exact List.foldl_hom _ (applyRule_under key key' f.name v)

theorem collectIssues_under (key key' : String) (c : CompiledSchema) :
    collectIssues ⟨r, key'⟩ c payload today =
      (collectIssues ⟨r, key⟩ c payload today).under key' := by
  unfold collectIssues
  rw [← List.foldl_hom (Progress.under key') (checkField_under key key')]
  rfl

theorem head?_fieldPath_of_mem {key : String} {c : CompiledSchema} {i : Issue}
    (h : i ∈ (collectIssues ⟨r, key⟩ c payload today).issues) : i.fieldPath.head? = some key := by
  -- an issue is not changed by the key that it has
  rw [collectIssues_under key key] at h
  obtain ⟨j, -, rfl⟩ := List.mem_map.1 h
  rfl

/-- **What a report depends on.** Let a schema compile, let two payloads have the same under the
name of each field, where a null counts as none, and let two registries have the same function, or
none, under each name that the schema refers to. Then the issues are the same, and so is the number
of rules applied. Another container key replaces the first segment in the path of each issue, and
changes nothing else. -/
theorem collectIssues_footprint {s : Schema} {c : CompiledSchema}
    (compiles : CompiledSchema.compile s = .ok c) {payload payload' : Json.Object}
    (alike : ∀ f ∈ s.fields, Json.Alike payload payload' f.name) {r r' : Rule.Registry}
    (same : ∀ name ∈ s.referencedRules, r.lookup? name = r'.lookup? name)
    (key key' : String) (today : Calendar.Date) :
    collectIssues ⟨r, key⟩ c payload today = collectIssues ⟨r', key⟩ c payload' today ∧
      (∀ i ∈ (collectIssues ⟨r, key⟩ c payload today).issues,
        i.fieldPath.head? = some key) ∧
      (collectIssues ⟨r', key'⟩ c payload' today).issues =
        (collectIssues ⟨r, key⟩ c payload today).issues.map (·.under key') ∧
      (collectIssues ⟨r', key'⟩ c payload' today).rulesApplied =
        (collectIssues ⟨r, key⟩ c payload today).rulesApplied := by
  have hnames : c.fields.map (·.name) = s.fields.map (·.name) :=
    CompiledSchema.map_fields_of_compile compiles fun _ _ hm => hm.name_eq
  have hpayload : ∀ k ∈ c.fields, Json.Alike payload payload' k.name := by
    intro k hk
    have hname : k.name ∈ s.fields.map (·.name) := hnames ▸ List.mem_map_of_mem hk
    obtain ⟨f, hf, heq⟩ := List.mem_map.1 hname
    exact heq ▸ alike f hf
  have hrules : ∀ k ∈ c.fields, ∀ i ∈ k.rules, r.lookup? i.action = r'.lookup? i.action := by
    intro k hk i hi
    apply same
    exact (CompiledSchema.mem_referencedRules_iff compiles).2 ⟨k, hk, i, hi, rfl⟩
  have hsame : collectIssues ⟨r, key⟩ c payload today = collectIssues ⟨r', key⟩ c payload' today :=
    collectIssues_congr key hpayload hrules
  refine ⟨hsame, fun i hi => head?_fieldPath_of_mem hi, ?_, ?_⟩
  · rw [hsame, collectIssues_under key key']
    rfl
  · rw [hsame, collectIssues_under key key']
    rfl

/-- A rule for numbers from ten on. -/
def stockRule : RuleInvocation :=
  ((RuleInvocation.new Rule.Numeric.name "Too few").withParam "operator" (.string "gte")).withParam
    "threshold" (.number (.integer 10))

/-- A schema with one rule, for an integer, and with a note. -/
def stockSchema : Schema :=
  ⟨[(FieldDefinition.new "count" "Count" .integer).withRule stockRule, .new "note" "Note" .string]⟩

/-- The numeric rule, and a rule that is not built in. -/
def stockRules : Rule.Registry :=
  (Rule.Registry.empty.register Rule.Numeric.name Rule.Numeric.rule Rule.Numeric.metadata).register
    "even" (fun _ _ _ => .ok false) Rule.Numeric.metadata

/-- A null for the note and a key beyond the schema make no difference to a count that is too
small, and neither do the rules that are not for it. -/
theorem collectIssues_footprint_stockSchema :
    ∃ c, CompiledSchema.compile stockSchema = .ok c ∧
      (∀ f ∈ stockSchema.fields,
        Json.Alike [("count", .number (.integer 3)), ("extra", .bool true), ("note", .null)]
          [("count", .number (.integer 3))] f.name) ∧
      (∀ name ∈ stockSchema.referencedRules,
        Rule.Registry.builtins.lookup? name = stockRules.lookup? name) ∧
      (collectIssues ⟨.builtins, "a"⟩ c [("count", .number (.integer 3)), ("extra", .bool true),
        ("note", .null)] ⟨2024, 2, 29⟩).issues.map (·.path) = ["a.count"] ∧
      (collectIssues ⟨stockRules, "b"⟩ c [("count", .number (.integer 3))]
        ⟨2024, 2, 29⟩).issues.map (·.path) = ["b.count"] ∧
      (collectIssues ⟨.builtins, "a"⟩ c [("count", .number (.integer 12))] ⟨2024, 2, 29⟩).issues =
        [] ∧
      collectIssues ⟨.builtins, "a"⟩ c [("count", .number (.integer 3)), ("extra", .bool true),
          ("note", .null)] ⟨2024, 2, 29⟩ =
        collectIssues ⟨stockRules, "a"⟩ c [("count", .number (.integer 3))] ⟨2024, 2, 29⟩ := by
  have hc : CompiledSchema.compile stockSchema =
      .ok ⟨stockSchema.fields.map fun f =>
        ⟨f.name, f.label, f.required, if f.type = .integer then .integer else .string, f.rules⟩,
        stockSchema.fingerprint⟩ := by
    have hcheck : stockSchema.check = .ok () := by decide +kernel
    rw [CompiledSchema.compile, hcheck]
    rfl
  have alike : ∀ f ∈ stockSchema.fields,
      Json.Alike [("count", .number (.integer 3)), ("extra", .bool true), ("note", .null)]
        [("count", .number (.integer 3))] f.name := by
    intro f hf
    simp only [stockSchema, List.mem_cons, List.not_mem_nil, or_false] at hf
    rcases hf with rfl | rfl
    · exact Or.inr ⟨.number (.integer 3), ⟨rfl, by rintro ⟨⟩⟩, rfl, by rintro ⟨⟩⟩
    · exact Or.inl ⟨fun v hv => (Option.some.inj hv).symm, by rintro v ⟨⟩⟩
  have same : ∀ name ∈ stockSchema.referencedRules,
      Rule.Registry.builtins.lookup? name = stockRules.lookup? name := by
    have hrules : stockSchema.referencedRules = [Rule.Numeric.name] := by decide +kernel
    rw [hrules]
    simp only [List.mem_singleton, forall_eq]
    rfl
  exact ⟨_, hc, alike, same, by decide +kernel, by decide +kernel, by decide +kernel,
    (collectIssues_footprint hc alike same "a" "b" ⟨2024, 2, 29⟩).1⟩

end Engine

end CustomFields
