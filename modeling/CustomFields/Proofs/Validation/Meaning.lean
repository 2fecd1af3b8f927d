import CustomFields.Proofs.Pattern.Matching
import CustomFields.Proofs.Validation.Blocks
import CustomFields.Proofs.Validation.Compiled

/-!
# What a compiled schema means

A field definition says by itself which values it accepts: its type, its options and its pattern
do. A compiled field is judged by its shape, which is built in another pass and asks other
functions. The two agree on every payload, so nothing is gained or lost where a schema is
compiled.

The definition is read here without any function of the validator. An integer is one of the
signed or unsigned 64-bit range, a text has a match of a pattern where the pattern spans some part
of it, and an option is met by its own value only.

## Main definitions

* `FieldDefinition.Accepts`: the values that a definition accepts
* `FieldDefinition.Refuses`: what it says of the others
* `FieldDefinition.Judges`: the outcome for a payload

## Main results

* `CompiledField.check_eq_iff_judges`: a compiled field judges as its definition does
* `CompiledSchema.compile_keeps_meaning`: a schema compiles exactly if it satisfies its check, to
  fields that mean the same
-/

namespace CustomFields

theorem Pattern.source_of_parse {source : String} {p : Pattern}
    (h : Pattern.parse source = .ok p) : p.source = source := by
  unfold Pattern.parse at h
  cases he : Expression.parse source with
  | error reason =>
    rw [he] at h
    cases h
  | ok e =>
    rw [he] at h
    cases hn : e.toNode with
    | error reason =>
      simp only [bind, Except.bind, hn] at h
      cases h
    | ok node =>
      simp only [bind, Except.bind, hn] at h
      cases h
      rfl

/-! ## The reading of a definition -/

/-- A value is an option: it has the same type and the same value. -/
inductive OptionValue.Is : OptionValue → Json.Value → Prop
  | integer (n : Int64) : Is (.integer n) (.number (.integer n.toInt))
  | text (s : String) : Is (.text s) (.string s)

namespace FieldDefinition

/-- The values that a field accepts by its definition. -/
def Accepts (f : FieldDefinition) (v : Json.Value) : Prop :=
  match f.type with
  | .string =>
    ∃ s, v = .string s ∧
      ∀ source, f.pattern = some source → ∃ p, Pattern.parse source = .ok p ∧ p.Occurs s
  | .integer => ∃ n : ℤ, v = .number (.integer n) ∧ -2 ^ 63 ≤ n ∧ n < 2 ^ 64
  | .boolean => ∃ b, v = .bool b
  | .select => ∃ options, f.options = some options ∧ ∃ o ∈ options, o.value.Is v

/-- What a field reports about a value that it does not accept. -/
def refusal (f : FieldDefinition) (v : Json.Value) : IssueKind × String :=
  match f.type, v with
  | .string, .string _ =>
    (.patternError, "String should match pattern '" ++ f.pattern.getD "" ++ "'")
  | .string, _ => (.typeError, "Input should be a valid string")
  | .integer, _ => (.typeError, "Input should be a valid integer")
  | .boolean, _ => (.typeError, "Input should be a valid boolean")
  | .select, _ =>
    (.enumError, "Input should be " ++ Shape.describeOptions ((f.options.getD []).map (·.value)))

/-- The outcome that a definition asks for in a payload. -/
inductive Judges (f : FieldDefinition) (payload : Json.Object) : FieldOutcome → Prop
  | missing (lacks : Json.Lacks payload f.name) (required : f.required = true) :
      f.Judges payload (.invalid .requiredError "Field required")
  | skipped (lacks : Json.Lacks payload f.name) (optional : f.required = false) :
      f.Judges payload .skipped
  | valid {v : Json.Value} (holds : Json.Holds payload f.name v) (accepts : f.Accepts v) :
      f.Judges payload (.valid v)
  | invalid {v : Json.Value} (holds : Json.Holds payload f.name v) (refuses : ¬ f.Accepts v) :
      f.Judges payload (.invalid (f.refusal v).1 (f.refusal v).2)

end FieldDefinition

/-! ## Integers and options -/

theorem Json.Number.isInteger_iff {x : Json.Number} :
    x.isInteger = true ↔ ∃ n : ℤ, x = .integer n ∧ -2 ^ 63 ≤ n ∧ n < 2 ^ 64 := by
  cases x with
  | float y => exact iff_of_false (by rintro ⟨⟩) (by rintro ⟨n, ⟨⟩, -⟩)
  | integer m =>
    rw [isInteger, Bool.and_eq_true, decide_eq_true_iff, decide_eq_true_iff]
    constructor
    · intro h
      exact ⟨m, rfl, h⟩
    · rintro ⟨n, ⟨⟩, h⟩
      exact h

/-- A number is a 64-bit integer if it is an integer number and that one. -/
theorem Json.Number.toInt64?_eq_some_iff {x : Json.Number} {n : Int64} :
    x.toInt64? = some n.toInt ↔ x = .integer n.toInt := by
  cases x with
  | float y => exact iff_of_false (by rintro ⟨⟩) (by rintro ⟨⟩)
  | integer m =>
    constructor
    · intro h
      rw [toInt64?] at h
      split_ifs at h
      rw [Option.some.inj h]
    · rintro ⟨⟩
      rw [toInt64?, if_pos ⟨n.le_toInt, n.toInt_lt⟩]

theorem OptionValue.isMatch_iff_is {o : OptionValue} {v : Json.Value} :
    o.isMatch v = true ↔ o.Is v := by
  constructor
  · intro h
    cases o with
    | integer n =>
      cases v with
      | number x =>
        rw [isMatch, beq_iff_eq, Json.Number.toInt64?_eq_some_iff] at h
        exact h ▸ .integer n
      | null | bool _ | string _ | array _ | object _ => cases h
    | text s =>
      cases v with
      | string t =>
        rw [isMatch, beq_iff_eq] at h
        exact h ▸ .text s
      | null | bool _ | number _ | array _ | object _ => cases h
  · intro h
    cases h with
    | integer n => rw [isMatch, beq_iff_eq, Json.Number.toInt64?_eq_some_iff]
    | text s => rw [isMatch, beq_iff_eq]

/-! ## The shape of a field -/

/-- The shapes that fields of the four types ask for. -/
theorem Shape.ofField_cases {f : FieldDefinition} {shape : Shape} (h : ofField f = .ok shape) :
    (f.type = .string ∧ f.pattern = none ∧ shape = .string) ∨
      (∃ source p, f.type = .string ∧ f.pattern = some source ∧ Pattern.parse source = .ok p ∧
        shape = .pattern p) ∨
      (f.type = .integer ∧ shape = .integer) ∨
      (f.type = .boolean ∧ shape = .boolean) ∨
      ∃ options, f.type = .select ∧ f.options = some options ∧
        shape = .oneOf (options.map (·.value)) := by
  unfold ofField at h
  cases ht : f.type with
  | string =>
    rw [ht] at h
    cases hp : f.pattern with
    | none =>
      rw [hp] at h
      cases h
      exact Or.inl ⟨rfl, rfl, rfl⟩
    | some source =>
      rw [hp] at h
      cases hm : Pattern.parse source with
      | error reason =>
        simp only [hm] at h
        cases h
      | ok p =>
        simp only [hm] at h
        cases h
        exact Or.inr (Or.inl ⟨source, p, rfl, rfl, hm, rfl⟩)
  | integer =>
    rw [ht] at h
    cases h
    exact Or.inr (Or.inr (Or.inl ⟨rfl, rfl⟩))
  | boolean =>
    rw [ht] at h
    cases h
    exact Or.inr (Or.inr (Or.inr (Or.inl ⟨rfl, rfl⟩)))
  | select =>
    rw [ht] at h
    rcases ho : f.options with _ | _ | ⟨o, os⟩ <;> rw [ho] at h <;> cases h
    exact Or.inr (Or.inr (Or.inr (Or.inr ⟨o :: os, rfl, rfl, rfl⟩)))

/-- A shape has nothing against the values that its field accepts, and reports every other. -/
theorem Shape.check_cases {f : FieldDefinition} {shape : Shape} (h : ofField f = .ok shape)
    (v : Json.Value) :
    (f.Accepts v ∧ shape.check v = .ok ()) ∨
      (¬ f.Accepts v ∧ shape.check v = .error (f.refusal v)) := by
  obtain ⟨ht, hp, rfl⟩ | ⟨source, p, ht, hp, hm, rfl⟩ | ⟨ht, rfl⟩ | ⟨ht, rfl⟩ |
    ⟨options, ht, ho, rfl⟩ := ofField_cases h <;>
    simp only [FieldDefinition.Accepts, FieldDefinition.refusal, ht]
  · -- any text
    cases v with
    | string s =>
      left
      exact ⟨⟨s, rfl, by simp [hp]⟩, rfl⟩
    | null | bool _ | number _ | array _ | object _ =>
      right
      exact ⟨by rintro ⟨s, ⟨⟩, -⟩, rfl⟩
  · -- a text with a match
    cases v with
    | string s =>
      by_cases hs : p.isMatch s = true
      · left
        refine ⟨⟨s, rfl, ?_⟩, if_pos hs⟩
        rintro source' hp'
        cases hp.symm.trans hp'
        exact ⟨p, hm, Pattern.isMatch_iff_occurs.1 hs⟩
      · right
        constructor
        · rintro ⟨s', ⟨⟩, hall⟩
          obtain ⟨p', hm', ho⟩ := hall source hp
          cases hm.symm.trans hm'
          exact hs (Pattern.isMatch_iff_occurs.2 ho)
        · rw [hp, Option.getD_some, ← Pattern.source_of_parse hm]
          exact if_neg hs
    | null | bool _ | number _ | array _ | object _ =>
      right
      exact ⟨by rintro ⟨s, ⟨⟩, -⟩, rfl⟩
  · cases v with
    | number x =>
      by_cases hx : x.isInteger = true
      · left
        obtain ⟨n, rfl, hn⟩ := Json.Number.isInteger_iff.1 hx
        exact ⟨⟨n, rfl, hn⟩, if_pos hx⟩
      · right
        refine ⟨?_, if_neg hx⟩
        rintro ⟨n, ⟨⟩, hn⟩
        exact hx (Json.Number.isInteger_iff.2 ⟨n, rfl, hn⟩)
    | null | bool _ | string _ | array _ | object _ =>
      right
      exact ⟨by rintro ⟨n, ⟨⟩, -⟩, rfl⟩
  · cases v with
    | bool b =>
      left
      exact ⟨⟨b, rfl⟩, rfl⟩
    | null | number _ | string _ | array _ | object _ =>
      right
      exact ⟨by rintro ⟨b, ⟨⟩⟩, rfl⟩
  · have hany : (options.map (·.value)).any (·.isMatch v) = true ↔ ∃ o ∈ options, o.value.Is v := by
      simp only [List.any_map, List.any_eq_true, Function.comp_apply, OptionValue.isMatch_iff_is]
    by_cases hv : ∃ o ∈ options, o.value.Is v
    · left
      exact ⟨⟨options, ho, hv⟩, if_pos (hany.2 hv)⟩
    · right
      constructor
      · rintro ⟨options', ho', hv'⟩
        cases ho.symm.trans ho'
        exact hv hv'
      · rw [ho, Option.getD_some]
        exact if_neg (mt hany.1 hv)

/-! ## Compiled fields -/

namespace CompiledField

variable {f : FieldDefinition} {c : CompiledField}

/-- A compiled field has the name, the label, the rules of its definition, and its shape. -/
theorem ofDefinition_eq_ok (h : ofDefinition f = .ok c) :
    c.name = f.name ∧ c.label = f.label ∧ c.required = f.required ∧ c.rules = f.rules ∧
      Shape.ofField f = .ok c.shape := by
  unfold ofDefinition at h
  cases hs : Shape.ofField f with
  | error e =>
    rw [hs] at h
    cases h
  | ok shape =>
    rw [hs] at h
    cases h
    exact ⟨rfl, rfl, rfl, rfl, rfl⟩

/-- **A compiled field judges a payload as its definition does.** -/
theorem check_eq_iff_judges (h : ofDefinition f = .ok c) {payload : Json.Object}
    {o : FieldOutcome} : c.check payload = o ↔ f.Judges payload o := by
  obtain ⟨hname, -, hrequired, -, hshape⟩ := ofDefinition_eq_ok h
  constructor
  · rintro rfl
    rcases Json.lacks_or_holds payload c.name with hl | ⟨v, hv⟩
    · rw [check_of_lacks hl, hrequired]
      cases hr : f.required with
      | true => exact .missing (hname ▸ hl) hr
      | false => exact .skipped (hname ▸ hl) hr
    · rw [check_of_holds hv]
      rw [hname] at hv
      rcases Shape.check_cases hshape v with ⟨ha, hc⟩ | ⟨ha, hc⟩ <;> rw [hc]
      · exact .valid hv ha
      · exact .invalid hv ha
  · intro hj
    cases hj with
    | missing hl hr =>
      rw [check_of_lacks (hname ▸ hl), hrequired, hr]
      rfl
    | skipped hl hr =>
      rw [check_of_lacks (hname ▸ hl), hrequired, hr]
      rfl
    | valid hv ha =>
      rw [check_of_holds (hname ▸ hv)]
      rcases Shape.check_cases hshape _ with ⟨-, hc⟩ | ⟨hn, -⟩
      · rw [hc]
      · exact absurd ha hn
    | invalid hv ha =>
      rw [check_of_holds (hname ▸ hv)]
      rcases Shape.check_cases hshape _ with ⟨hy, -⟩ | ⟨-, hc⟩
      · exact absurd hy ha
      · rw [hc]

end CompiledField

/-! ## Compiled schemas -/

/-- A compiled field says the same as a definition: it has its name, its label and its rules, and
it judges every payload in the same way. -/
structure CompiledField.Means (c : CompiledField) (f : FieldDefinition) : Prop where
  name_eq : c.name = f.name
  label_eq : c.label = f.label
  required_eq : c.required = f.required
  rules_eq : c.rules = f.rules
  check_iff : ∀ payload o, c.check payload = o ↔ f.Judges payload o

theorem CompiledField.Means.of_ofDefinition {f : FieldDefinition} {c : CompiledField}
    (h : ofDefinition f = .ok c) : c.Means f := by
  obtain ⟨hname, hlabel, hrequired, hrules, -⟩ := ofDefinition_eq_ok h
  exact ⟨hname, hlabel, hrequired, hrules, fun _ _ => check_eq_iff_judges h⟩

theorem CompiledField.means_of_mapM {fs : List FieldDefinition} {cs : List CompiledField}
    (h : fs.mapM ofDefinition = .ok cs) : List.Forall₂ (fun f c => c.Means f) fs cs := by
  induction fs generalizing cs with
  | nil =>
    cases h
    exact .nil
  | cons f fs ih =>
    rw [List.mapM_cons] at h
    cases hc : ofDefinition f with
    | error e =>
      rw [hc] at h
      cases h
    | ok c =>
      rw [hc] at h
      cases hcs : fs.mapM ofDefinition with
      | error e =>
        rw [hcs] at h
        cases h
      | ok cs' =>
        rw [hcs] at h
        cases h
        exact .cons (.of_ofDefinition hc) (ih hcs)

/-- **Compiling keeps the meaning of a schema.** A schema fails to compile exactly if its check
fails, with the same error. One that satisfies its check compiles to as many fields, in the same
order, and each means what its definition does. -/
theorem CompiledSchema.compile_keeps_meaning (s : Schema) :
    (∀ e, compile s = .error e ↔ s.check = .error e) ∧
      (s.check = .ok () →
        ∃ k, compile s = .ok k ∧ k.fingerprint = s.fingerprint ∧
          List.Forall₂ (fun f c => c.Means f) s.fields k.fields) := by
  cases hc : s.check with
  | error e =>
    refine ⟨fun e' => ?_, nofun⟩
    rw [compile, hc]
    constructor <;> rintro ⟨⟩ <;> rfl
  | ok _ =>
    -- what the check has let through is read a second time without an error
    obtain ⟨cs, hcs⟩ := Schema.exists_mapM_of_checkFields hc
    have hk : compile s = .ok ⟨cs, s.fingerprint⟩ := by
      rw [compile, hc, hcs]
      rfl
    refine ⟨fun e => ?_, fun _ => ⟨_, hk, rfl, CompiledField.means_of_mapM hcs⟩⟩
    rw [hk]
    exact iff_of_false (by rintro ⟨⟩) (by rintro ⟨⟩)

/-- A schema with a field of each type. -/
def orderSchema : Schema :=
  ⟨[(FieldDefinition.new "code" "Code" .string).asRequired.withPattern "^[A-Z]+-[0-9]{2,3}$",
    .new "note" "Note" .string, .new "count" "Count" .integer, .new "open" "Open" .boolean,
    .select "size" "Size" [⟨"Small", .text "s"⟩, ⟨"Forty", .integer 40⟩]]⟩

theorem CompiledSchema.compile_keeps_meaning_orderSchema :
    orderSchema.check = .ok () ∧
      ∃ k, compile orderSchema = .ok k ∧ k.fingerprint = orderSchema.fingerprint ∧
        List.Forall₂ (fun f c => c.Means f) orderSchema.fields k.fields := by
  have hcheck : orderSchema.check = .ok () := by decide +kernel
  exact ⟨hcheck, (compile_keeps_meaning orderSchema).2 hcheck⟩

end CustomFields
