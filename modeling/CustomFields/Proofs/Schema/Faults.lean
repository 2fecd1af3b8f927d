import Mathlib.Data.List.Nodup
import Mathlib.Data.List.TakeWhile
import CustomFields.Proofs.Schema.Check

/-!
# What is wrong with a schema

A schema is lawful if each of its fields is on its own and no two have one name. Where it is not,
there is a first field that is not lawful behind those before it, and the check tells what is wrong
with that one: its name first, then its options, then its pattern, and last that a field before it
has its name. Nothing behind that field is looked at.

## Main definitions

* `FieldDefinition.IsLawful`, `Schema.IsLawful`: the laws of fields and schemas
* `FieldDefinition.HasFault`, `Schema.HasFault`: what is wrong with fields and schemas

## Main results

* `FieldDefinition.isLawful_iff`, `FieldDefinition.hasFault_iff`: the check of a field
* `Schema.checkFields_eq_ok_iff`, `Schema.checkFields_eq_error_iff`: the check of a row of fields
* `Schema.checkFields_append_of_error`: what is behind a fault does not count
* `Schema.check_decides`: the check of a schema
-/

namespace CustomFields

/-- A text is blank if nothing is left of it without its blank ends. -/
theorem Text.isBlankText_iff {s : String} : isBlankText s = true ↔ trim s = "" := by
  have hempty : trim s = "" ↔ trimEnd (trimStart s.toList) = [] := by
    rw [trim, ← String.toList_inj, String.toList_ofList]
    rfl
  rw [hempty, isBlankText, List.all_eq_true, trimEnd, List.reverse_eq_nil_iff,
    List.dropWhile_eq_nil_iff, trimStart]
  constructor
  · intro hall c hc
    exact hall c ((List.dropWhile_sublist isBlank).mem (List.mem_reverse.1 hc))
  -- what is left without the blank front would start with a character that is not blank
  · intro hleft
    rw [← List.dropWhile_eq_nil_iff]
    by_contra hne
    have hhead := List.head_dropWhile_not isBlank hne
    rw [hleft _ (List.mem_reverse.2 (List.head_mem hne))] at hhead
    cases hhead

/-! ## Fields -/

namespace FieldDefinition

/-- Options stand on select fields, at least one, and on no others. -/
def LawfulOptions (f : FieldDefinition) : Prop :=
  if f.type = .select then ∃ o os, f.options = some (o :: os) else f.options = none

/-- A pattern stands on string fields only and is well formed. -/
def LawfulPattern (f : FieldDefinition) : Prop :=
  ∀ source, f.pattern = some source → f.type = .string ∧ ∃ p, Pattern.parse source = .ok p

/-- What a field has to be on its own. -/
structure IsLawful (f : FieldDefinition) : Prop where
  named : Text.trim f.name ≠ ""
  options : f.LawfulOptions
  pattern : f.LawfulPattern

/-- What can be wrong with the options of a field. -/
inductive OptionsFault (f : FieldDefinition) : SchemaError → Prop
  | missing (select : f.type = .select) (none : f.options = none ∨ f.options = some []) :
    OptionsFault f (.missingOptions f.name)
  | notAllowed {os : List FieldOption} (other : f.type ≠ .select) (given : f.options = some os) :
    OptionsFault f (.optionsNotAllowed f.name f.type)

/-- What can be wrong with the pattern of a field. -/
inductive PatternFault (f : FieldDefinition) : SchemaError → Prop
  | notAllowed {source : String} (other : f.type ≠ .string) (given : f.pattern = some source) :
    PatternFault f (.patternNotAllowed f.name f.type)
  | invalid {source : String} {reason : Pattern.Error} (string : f.type = .string)
    (given : f.pattern = some source) (refused : Pattern.parse source = .error reason) :
    PatternFault f (.invalidPattern f.name reason)

/-- What is wrong with a field on its own: the name comes before the options, and these before the
pattern. -/
inductive HasFault (f : FieldDefinition) : SchemaError → Prop
  | name (blank : Text.trim f.name = "") : HasFault f .emptyFieldName
  | options {e : SchemaError} (named : Text.trim f.name ≠ "") (fault : f.OptionsFault e) :
    HasFault f e
  | pattern {e : SchemaError} (named : Text.trim f.name ≠ "") (options : f.LawfulOptions)
    (fault : f.PatternFault e) : HasFault f e

variable {f : FieldDefinition}

theorem checkOptions_eq_ok_iff_lawful : f.checkOptions = .ok () ↔ f.LawfulOptions := by
  rw [checkOptions_eq_ok_iff, LawfulOptions]
  split
  · constructor
    · rintro ⟨n, h⟩
      obtain ⟨os, hos, hlength⟩ := Option.map_eq_some_iff.1 h
      obtain ⟨o, os, rfl⟩ := List.exists_cons_of_length_eq_add_one hlength
      exact ⟨o, os, hos⟩
    · rintro ⟨o, os, h⟩
      exact ⟨os.length, by rw [h]; rfl⟩
  · exact Option.map_eq_none_iff

/-- **The check of a field** lets the lawful ones through. -/
theorem isLawful_iff : f.IsLawful ↔ f.check = .ok () := by
  rw [check_eq_ok_iff, ← Bool.not_eq_true, Text.isBlankText_iff, checkOptions_eq_ok_iff_lawful,
    checkPattern_eq_ok_iff]
  exact ⟨fun h => ⟨h.named, h.options, h.pattern⟩, fun h => ⟨h.1, h.2.1, h.2.2⟩⟩

theorem OptionsFault.checkOptions_eq {e : SchemaError} (h : f.OptionsFault e) :
    f.checkOptions = .error e := by
  unfold checkOptions
  cases h with
  | missing select none =>
    rcases none with none | empty
    · rw [select, none]
      rfl
    · rw [select, empty]
      rfl
  | notAllowed other given =>
    rw [given]
    cases htype : f.type with
    | select => exact absurd htype other
    | _ => rfl

theorem PatternFault.checkPattern_eq {e : SchemaError} (h : f.PatternFault e) :
    f.checkPattern = .error e := by
  unfold checkPattern
  cases h with
  | notAllowed other given =>
    rw [given]
    exact if_pos other
  | invalid string given refused =>
    simp only [given, refused, string, ne_eq, not_true_eq_false, if_false]
    rfl

theorem HasFault.check_eq {e : SchemaError} (h : f.HasFault e) : f.check = .error e := by
  unfold check
  cases h with
  | name blank =>
    rw [Text.isBlankText_iff.2 blank]
    rfl
  | options named fault =>
    rw [Bool.eq_false_iff.2 (mt Text.isBlankText_iff.1 named), fault.checkOptions_eq]
    rfl
  | pattern named options fault =>
    rw [Bool.eq_false_iff.2 (mt Text.isBlankText_iff.1 named),
      checkOptions_eq_ok_iff_lawful.2 options, fault.checkPattern_eq]
    rfl

theorem lawfulOptions_or_fault (f : FieldDefinition) : f.LawfulOptions ∨ ∃ e, f.OptionsFault e := by
  unfold LawfulOptions
  by_cases hselect : f.type = .select
  · rw [if_pos hselect]
    rcases hoptions : f.options with _ | _ | ⟨o, os⟩
    · exact .inr ⟨_, .missing hselect (.inl hoptions)⟩
    · exact .inr ⟨_, .missing hselect (.inr hoptions)⟩
    · exact .inl ⟨o, os, rfl⟩
  · rw [if_neg hselect]
    cases hoptions : f.options with
    | none => exact .inl rfl
    | some os => exact .inr ⟨_, .notAllowed hselect hoptions⟩

theorem lawfulPattern_or_fault (f : FieldDefinition) : f.LawfulPattern ∨ ∃ e, f.PatternFault e := by
  cases hpattern : f.pattern with
  | none => exact .inl fun source hsource => by rw [hpattern] at hsource; cases hsource
  | some source =>
    by_cases hstring : f.type = .string
    · cases hparse : Pattern.parse source with
      | error reason => exact .inr ⟨_, .invalid hstring hpattern hparse⟩
      | ok p =>
        refine .inl fun source' hsource' => ⟨hstring, p, ?_⟩
        rw [hpattern] at hsource'
        rwa [← Option.some.inj hsource']
    · exact .inr ⟨_, .notAllowed hstring hpattern⟩

/-- A field is lawful, or there is something wrong with it. -/
theorem isLawful_or_hasFault (f : FieldDefinition) : f.IsLawful ∨ ∃ e, f.HasFault e := by
  by_cases hnamed : Text.trim f.name = ""
  · exact .inr ⟨_, .name hnamed⟩
  rcases f.lawfulOptions_or_fault with hoptions | ⟨e, hfault⟩
  · rcases f.lawfulPattern_or_fault with hpattern | ⟨e, hfault⟩
    · exact .inl ⟨hnamed, hoptions, hpattern⟩
    · exact .inr ⟨e, .pattern hnamed hoptions hfault⟩
  · exact .inr ⟨e, .options hnamed hfault⟩

/-- **The check of a field** tells what is wrong with the others. -/
theorem hasFault_iff {e : SchemaError} : f.HasFault e ↔ f.check = .error e := by
  refine ⟨HasFault.check_eq, fun h => ?_⟩
  rcases f.isLawful_or_hasFault with hlawful | ⟨e', hfault⟩
  · rw [isLawful_iff.1 hlawful] at h
    cases h
  · rw [hfault.check_eq] at h
    cases h
    exact hfault

/-- What is wrong with a field behind fields with the given names. -/
inductive FaultBehind (names : List String) (f : FieldDefinition) : SchemaError → Prop
  | own {e : SchemaError} (fault : f.HasFault e) : FaultBehind names f e
  | duplicate (lawful : f.IsLawful) (mem : f.name ∈ names) :
    FaultBehind names f (.duplicateField f.name)

/-- The order of the names, and how often they occur, do not count. -/
theorem FaultBehind.congr {names names' : List String} {e : SchemaError}
    (h : ∀ name, name ∈ names ↔ name ∈ names') :
    f.FaultBehind names e ↔ f.FaultBehind names' e := by
  constructor
  · rintro (⟨fault⟩ | ⟨lawful, mem⟩)
    · exact .own fault
    · exact .duplicate lawful ((h _).1 mem)
  · rintro (⟨fault⟩ | ⟨lawful, mem⟩)
    · exact .own fault
    · exact .duplicate lawful ((h _).2 mem)

end FieldDefinition

/-! ## Schemas -/

namespace Schema

open FieldDefinition (FaultBehind)

variable {seen : List String} {f : FieldDefinition} {fs before : List FieldDefinition}
  {e : SchemaError}

/-- **A row of fields passes** if each of them is lawful and their names differ from each other and
from those seen before. -/
theorem checkFields_eq_ok_iff : checkFields seen fs = .ok () ↔
    (∀ f ∈ fs, f.IsLawful) ∧ (fs.map (·.name)).Nodup ∧ ∀ f ∈ fs, f.name ∉ seen := by
  -- on the fields: the first one has to be new among those seen, and is seen by the others
  induction fs generalizing seen with
  | nil => exact iff_of_true rfl ⟨by simp, List.nodup_nil, by simp⟩
  | cons f fs ih =>
    rw [checkFields_cons, ← FieldDefinition.isLawful_iff, ih, List.map_cons, List.nodup_cons,
      List.forall_mem_cons, List.forall_mem_cons]
    simp only [List.mem_cons, not_or, List.mem_map, not_exists, not_and]
    constructor
    · rintro ⟨hlawful, hfresh, hrest, hnodup, hnames⟩
      exact ⟨⟨hlawful, hrest⟩, ⟨fun g hg => (hnames g hg).1, hnodup⟩, hfresh,
        fun g hg => (hnames g hg).2⟩
    · rintro ⟨⟨hlawful, hrest⟩, ⟨hnew, hnodup⟩, hfresh, hnames⟩
      exact ⟨hlawful, hfresh, hrest, hnodup, fun g hg => ⟨hnew g hg, hnames g hg⟩⟩

/-- The first field of a row is at fault, or one behind it is. -/
theorem checkFields_cons_eq_error_iff : checkFields seen (f :: fs) = .error e ↔
    f.FaultBehind seen e ∨
      f.IsLawful ∧ f.name ∉ seen ∧ checkFields (f.name :: seen) fs = .error e := by
  rw [checkFields]
  -- its own fault comes before the question whether its name was seen, and this before the rest
  rcases hcheck : f.check with e' | ⟨⟩
  · have hfault := FieldDefinition.hasFault_iff.2 hcheck
    have hlawful : ¬ f.IsLawful := by
      rw [FieldDefinition.isLawful_iff, hcheck]
      rintro ⟨⟩
    constructor
    · rintro ⟨⟩
      exact .inl (.own hfault)
    · rintro (⟨⟨fault⟩ | ⟨lawful, -⟩⟩ | ⟨lawful, -⟩)
      · rw [← Except.error.inj (hcheck.symm.trans fault.check_eq)]
        rfl
      · exact absurd lawful hlawful
      · exact absurd lawful hlawful
  · have hlawful := FieldDefinition.isLawful_iff.2 hcheck
    have hown : ¬ f.HasFault e := by
      rw [FieldDefinition.hasFault_iff, hcheck]
      rintro ⟨⟩
    by_cases hseen : f.name ∈ seen
    · rw [if_pos hseen]
      constructor
      · rintro ⟨⟩
        exact .inl (.duplicate hlawful hseen)
      · rintro (⟨⟨fault⟩ | -⟩ | ⟨-, hfresh, -⟩)
        · exact absurd fault hown
        · rfl
        · exact absurd hseen hfresh
    · rw [if_neg hseen]
      constructor
      · intro h
        exact .inr ⟨hlawful, hseen, h⟩
      · rintro (⟨⟨fault⟩ | ⟨-, mem⟩⟩ | ⟨-, -, h⟩)
        · exact absurd fault hown
        · exact absurd mem hseen
        · exact h

/-- A field is seen by those behind it as the names before it are. -/
theorem mem_names_cons (name : String) : name ∈ f.name :: seen ++ before.map (·.name) ↔
    name ∈ seen ++ (f :: before).map (·.name) := by
  simp only [List.cons_append, List.map_cons, List.mem_cons, List.mem_append]
  exact or_left_comm

/-- **The fault of a row of fields** is that of the first field that is at fault behind those before
it. -/
theorem checkFields_eq_error_iff : checkFields seen fs = .error e ↔
    ∃ before f behind, fs = before ++ f :: behind ∧ checkFields seen before = .ok () ∧
      f.FaultBehind (seen ++ before.map (·.name)) e := by
  -- on the fields: the first one is at fault, or it stands before the one that is
  induction fs generalizing seen with
  | nil => exact iff_of_false (by rintro ⟨⟩) (by simp)
  | cons g fs ih =>
    rw [checkFields_cons_eq_error_iff]
    constructor
    · rintro (hfault | ⟨hlawful, hfresh, hrest⟩)
      · exact ⟨[], g, fs, rfl, rfl, by simpa using hfault⟩
      · obtain ⟨before, f, behind, rfl, hbefore, hfault⟩ := ih.1 hrest
        refine ⟨g :: before, f, behind, rfl, ?_, ?_⟩
        · exact checkFields_cons.2 ⟨FieldDefinition.isLawful_iff.1 hlawful, hfresh, hbefore⟩
        · exact (FaultBehind.congr mem_names_cons).1 hfault
    · rintro ⟨_ | ⟨g', before⟩, f, behind, hfs, hbefore, hfault⟩
      · obtain ⟨rfl, rfl⟩ := List.cons.inj hfs
        exact .inl (by simpa using hfault)
      · obtain ⟨rfl, rfl⟩ := List.cons.inj hfs
        obtain ⟨hcheck, hfresh, hbefore⟩ := checkFields_cons.1 hbefore
        refine .inr ⟨FieldDefinition.isLawful_iff.2 hcheck, hfresh, ?_⟩
        exact ih.2 ⟨before, f, behind, rfl, hbefore, (FaultBehind.congr mem_names_cons).2 hfault⟩

/-- What stands behind a fault does not count. -/
theorem checkFields_append_of_error (h : checkFields seen fs = .error e)
    (more : List FieldDefinition) : checkFields seen (fs ++ more) = .error e := by
  obtain ⟨before, f, behind, rfl, hbefore, hfault⟩ := checkFields_eq_error_iff.1 h
  refine checkFields_eq_error_iff.2 ⟨before, f, behind ++ more, ?_, hbefore, hfault⟩
  rw [List.append_assoc, List.cons_append]

/-- The laws of schemas: each field is lawful, and no two have one name. -/
structure IsLawful (s : Schema) : Prop where
  fields : ∀ f ∈ s.fields, f.IsLawful
  distinct : (s.fields.map (·.name)).Nodup

/-- What is wrong with a schema: the first field that breaks a law behind those before it. -/
def HasFault (s : Schema) (e : SchemaError) : Prop :=
  ∃ before f behind, s.fields = before ++ f :: behind ∧ IsLawful ⟨before⟩ ∧
    f.FaultBehind (before.map (·.name)) e

theorem isLawful_iff {s : Schema} : s.IsLawful ↔ s.check = .ok () := by
  rw [check, checkFields_eq_ok_iff]
  exact ⟨fun h => ⟨h.fields, h.distinct, by simp⟩, fun h => ⟨h.1, h.2.1⟩⟩

theorem hasFault_iff {s : Schema} : s.HasFault e ↔ s.check = .error e := by
  rw [check, checkFields_eq_error_iff]
  constructor
  · rintro ⟨before, f, behind, hfields, hlawful, hfault⟩
    exact ⟨before, f, behind, hfields, isLawful_iff.1 hlawful, hfault⟩
  · rintro ⟨before, f, behind, hfields, hbefore, hfault⟩
    exact ⟨before, f, behind, hfields, isLawful_iff.2 hbefore, hfault⟩

/-- **The check of a schema decides its laws**: it lets a schema through exactly if the schema is
lawful, and else tells what is wrong with the first field that breaks a law, whatever stands behind
that field. -/
theorem check_decides (s : Schema) :
    (s.check = .ok () ↔ s.IsLawful) ∧ (∀ e, s.check = .error e ↔ s.HasFault e) ∧
      ∀ e more, s.check = .error e → check ⟨s.fields ++ more⟩ = .error e :=
  ⟨isLawful_iff.symm, fun _ => hasFault_iff.symm,
    fun _ more h => checkFields_append_of_error h more⟩

/-- A second field with a name has a fault of its own, which comes before its name. -/
theorem check_decides_secondCode :
    let code := FieldDefinition.new "code" "Code" .string
    let choice := FieldDefinition.new "code" "Choice" .select
    check ⟨[code, choice]⟩ = .error (.missingOptions "code") ∧
      check ⟨[code, choice] ++ [.new " " "Blank" .string]⟩ = .error (.missingOptions "code") := by
  intro code choice
  obtain ⟨-, herror, happend⟩ := check_decides ⟨[code, choice]⟩
  have hbefore : IsLawful ⟨[code]⟩ := isLawful_iff.2 (by decide)
  have hfault : choice.HasFault (.missingOptions "code") :=
    .options (by decide) (.missing rfl (.inl rfl))
  have h : check ⟨[code, choice]⟩ = .error (.missingOptions "code") :=
    (herror _).2 ⟨[code], choice, [], rfl, hbefore, .own hfault⟩
  exact ⟨h, happend _ _ h⟩

end Schema

end CustomFields
