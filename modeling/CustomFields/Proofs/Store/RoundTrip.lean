import CustomFields.Proofs.Json.Restoring
import CustomFields.Proofs.Schema.CanonicalText
import CustomFields.Proofs.Store.Keys
import CustomFields.Store.Persistent

/-!
# Documents are read back

Schemas, configs and records are written as JSON documents that leave out what is not there:
options, a pattern and rules of a field, and the name of a config. What is left out is read as just
that, so an empty list of options stays different from none, and the value of an option is told
from a text with the same digits although nothing says which of the two it is.

A document is read back from its text if the parts of free form in it, the parameters of rules and
the values of records, are in order and have numbers that are kept, and if it does not nest too
deep as a whole. Ids are always kept, and of the times it is asked that their texts are. The numbers
of the other parts are integers of 64 bits, so what the parts of free form ask of numbers holds of a
document as a whole.

## Main definitions

* `Json.Value.IsPlain`: a value of free form that is kept
* `Schema.HasOrderedRules`: the parameters of all rules are in order
* `ReadBack`: a document is read back from its text

## Main results

* `Schema.restores`, `EntityConfig.restores`, `Record.restores`: decoding what was written
* `Schema.allNumbers_toJson`, `EntityConfig.allNumbers_toJson`, `Record.allNumbers_toJson`: the
  numbers of a document
* `documents_readBack`: documents are read back, and the canonical text determines a schema
-/

namespace CustomFields

open Json (Decoder Fields)

/-- A value of free form that its text keeps: in order, with numbers that are kept. -/
structure Json.Value.IsPlain (v : Json.Value) : Prop where
  inOrder : v.InOrder
  numbersKept : v.NumbersKept

/-! ## Schemas -/

theorem FieldType.restores (t : FieldType) : FieldType.decode.Restores (.string t.name) t := by
  apply Decoder.Restores.oneOf
  cases t <;> rfl

/-- An integer is read as one and a text as one, also where the text shows the integer. -/
theorem OptionValue.restores (o : OptionValue) : OptionValue.decode.Restores o.toJson o := by
  cases o with
  | text s => exact .of_inOrder (.string s) rfl
  | integer n =>
    apply Decoder.Restores.of_inOrder (.number _)
    have hn : Json.Number.toInt64? (.integer n.toInt) = some n.toInt :=
      if_pos ⟨n.le_toInt, n.toInt_lt⟩
    have hvalue : Json.Decoder.value (.number (.integer n.toInt)) =
        .ok (.number (.integer n.toInt)) := rfl
    simp only [OptionValue.decode, Json.Tree.ofValue, hvalue, bind, Except.bind, hn,
      Int64.ofInt_toInt]
    rfl

theorem FieldOption.restores (o : FieldOption) : FieldOption.decode.Restores o.toJson o := by
  refine .of_record (o.label, o.value, ()) (by decide) ?_ rfl
  exact .member (.string o.label) (.member o.value.restores .nil)

theorem RuleInvocation.restores {r : RuleInvocation}
    (hr : (Json.Value.object r.params).InOrder) : RuleInvocation.decode.Restores r.toJson r := by
  refine .of_record (r.action, r.params, r.errorMessage, ()) (by decide) ?_ rfl
  exact .member (.string r.action) <| .member (.object hr) <| .member (.string r.errorMessage) .nil

namespace FieldDefinition

variable {f : FieldDefinition}

/-- The parameters of the rules of a field are kept. -/
def HasPlainRules (f : FieldDefinition) : Prop :=
  ∀ r ∈ f.rules, (Json.Value.object r.params).IsPlain

/-- The parameters of the rules of a field are in order. -/
def HasOrderedRules (f : FieldDefinition) : Prop :=
  ∀ r ∈ f.rules, (Json.Value.object r.params).InOrder

theorem restores_options (f : FieldDefinition) :
    ∀ v ∈ f.options.map fun os => Json.Value.array (os.map (·.toJson)),
      (Decoder.nullable (Decoder.list FieldOption.decode)).Restores v f.options := by
  intro v hv
  obtain ⟨os, hos, rfl⟩ := Option.map_eq_some_iff.1 hv
  rw [hos]
  exact (Decoder.Restores.list fun o _ => o.restores).nullable nofun

theorem restores_pattern (f : FieldDefinition) :
    ∀ v ∈ f.pattern.map Json.Value.string,
      (Decoder.nullable Decoder.string).Restores v f.pattern := by
  intro v hv
  obtain ⟨source, hsource, rfl⟩ := Option.map_eq_some_iff.1 hv
  rw [hsource]
  exact (Decoder.Restores.string source).nullable nofun

/-- The document of a field, with the members that may be left out. -/
theorem toJson_eq (f : FieldDefinition) : f.toJson = .object
    ([("name", .string f.name), ("label", .string f.label), ("type", .string f.type.name),
      ("required", .bool f.required)] ++
    (Json.memberIf "options" (f.options.map fun os => .array (os.map (·.toJson))) ++
    (Json.memberIf "regex" (f.pattern.map .string) ++
    (Json.memberIf "validations"
      (if f.rules.isEmpty then none else some (.array (f.rules.map (·.toJson)))) ++ [])))) := by
  simp only [toJson, rulesMember_eq_memberIf, List.append_assoc, List.append_nil]

/-- Nothing that is left out is lost: no options, no pattern, and an empty list of rules. -/
theorem restores (hf : f.HasOrderedRules) : FieldDefinition.decode.Restores f.toJson f := by
  rw [toJson_eq]
  refine .of_record (f.name, f.label, f.type, f.required, f.options, f.pattern, f.rules, ())
    (by decide) ?_ rfl
  refine .member (.string f.name) <| .member (.string f.label) <| .member f.type.restores <|
    .member (.bool f.required) <| .memberIf f.restores_options ?options <|
    .memberIf f.restores_pattern ?pattern <| .memberIf ?rules ?noRules .nil
  case options =>
    intro h
    rw [Option.map_eq_none_iff.1 h]
    rfl
  case pattern =>
    intro h
    rw [Option.map_eq_none_iff.1 h]
    rfl
  case rules =>
    intro v hv
    split at hv
    · cases hv
    · obtain rfl := Option.some.inj hv
      exact .list fun r hr => RuleInvocation.restores (hf r hr)
  case noRules =>
    intro h
    split at h
    · rename_i hempty
      rw [List.isEmpty_iff.1 hempty]
      rfl
    · cases h

end FieldDefinition

/-- The parameters of all rules of a schema are kept. -/
def Schema.HasPlainRules (s : Schema) : Prop :=
  ∀ f ∈ s.fields, f.HasPlainRules

/-- The parameters of all rules of a schema are in order. -/
def Schema.HasOrderedRules (s : Schema) : Prop :=
  ∀ f ∈ s.fields, f.HasOrderedRules

theorem Schema.HasPlainRules.hasOrderedRules {s : Schema} (hs : s.HasPlainRules) :
    s.HasOrderedRules :=
  fun f hf r hr => (hs f hf r hr).inOrder

theorem Schema.restores {s : Schema} (hs : s.HasOrderedRules) :
    Schema.decode.Restores s.toJson s := by
  refine .of_record (s.fields, ()) (by decide) ?_ rfl
  exact .member (.list fun f hf => FieldDefinition.restores (hs f hf)) .nil

/-! ## Configs and records -/

theorem Uuid.restores (u : Uuid) : Uuid.decode.Restores (.string u.text) u :=
  .ofText u.parse?_text

namespace Calendar.Timestamp

/-- The text of a time says which time it is. -/
def IsKept (t : Timestamp) : Prop :=
  parse? t.text = some t

theorem restores {t : Timestamp} (ht : t.IsKept) : Timestamp.decode.Restores (.string t.text) t :=
  .ofText ht

end Calendar.Timestamp

namespace EntityConfig

variable {c : EntityConfig}

theorem restores_name (c : EntityConfig) :
    ∀ v ∈ c.name.map Json.Value.string,
      (Decoder.nullable Decoder.string).Restores v c.name := by
  intro v hv
  obtain ⟨name, hname, rfl⟩ := Option.map_eq_some_iff.1 hv
  rw [hname]
  exact (Decoder.Restores.string name).nullable nofun

theorem toJson_eq (c : EntityConfig) : c.toJson = .object
    ([("id", .string c.id.text), ("tenant_id", .string c.tenantId.text),
      ("entity_type", .string c.entityType)] ++
    (Json.memberIf "name" (c.name.map .string) ++
    [("config", c.schema.toJson), ("created_at", .string c.createdAt.text),
      ("updated_at", .string c.updatedAt.text)])) := by
  rw [toJson, List.append_assoc]

theorem restores (hs : c.schema.HasOrderedRules) (hcreated : c.createdAt.IsKept)
    (hupdated : c.updatedAt.IsKept) : EntityConfig.decode.Restores c.toJson c := by
  rw [toJson_eq]
  refine .of_record (c.id, c.tenantId, c.entityType, c.name, c.schema, c.createdAt, c.updatedAt, ())
    (by decide) ?_ rfl
  refine .member c.id.restores <| .member c.tenantId.restores <| .member (.string c.entityType) <|
    .memberIf c.restores_name ?noName <| .member (Schema.restores hs) <|
    .member (Calendar.Timestamp.restores hcreated) <|
    .member (Calendar.Timestamp.restores hupdated) .nil
  case noName =>
    intro h
    rw [Option.map_eq_none_iff.1 h]
    rfl

end EntityConfig

theorem Record.restores {r : Record} (hdata : (Json.Value.object r.customData).InOrder)
    (hcreated : r.createdAt.IsKept) (hupdated : r.updatedAt.IsKept) :
    Record.decode.Restores r.toJson r := by
  refine .of_record (r.id, r.tenantId, r.entityType, r.customData, r.createdAt, r.updatedAt, ())
    (by decide) ?_ rfl
  exact .member r.id.restores <| .member r.tenantId.restores <| .member (.string r.entityType) <|
    .member (.object hdata) <| .member (Calendar.Timestamp.restores hcreated) <|
    .member (Calendar.Timestamp.restores hupdated) .nil

/-! ## The numbers of documents -/

section Numbers

open Json (Number)

variable {P : Number → Prop} (hP : ∀ n, -2 ^ 63 ≤ n → n < 2 ^ 63 → P (.integer n))

include hP

theorem OptionValue.allNumbers_toJson (o : OptionValue) : o.toJson.AllNumbers P := by
  cases o with
  | text s => exact .string s
  | integer n => exact .number (hP n.toInt n.le_toInt n.toInt_lt)

theorem FieldOption.allNumbers_toJson (o : FieldOption) : o.toJson.AllNumbers P :=
  .cons (.string o.label) <| .cons (o.value.allNumbers_toJson hP) .nil

omit hP in
theorem RuleInvocation.allNumbers_toJson {r : RuleInvocation}
    (hr : (Json.Value.object r.params).AllNumbers P) : r.toJson.AllNumbers P :=
  .cons (.string r.action) <| .cons hr <| .cons (.string r.errorMessage) .nil

theorem FieldDefinition.allNumbers_toJson {f : FieldDefinition}
    (hf : ∀ r ∈ f.rules, (Json.Value.object r.params).AllNumbers P) : f.toJson.AllNumbers P := by
  rw [toJson_eq]
  refine .cons (.string f.name) <| .cons (.string f.label) <| .cons (.string f.type.name) <|
    .cons (.bool f.required) <| .memberIf ?options <| .memberIf ?pattern <| .memberIf ?rules .nil
  case options =>
    intro v hv
    obtain ⟨os, -, rfl⟩ := Option.map_eq_some_iff.1 hv
    exact .map fun o _ => o.allNumbers_toJson hP
  case pattern =>
    intro v hv
    obtain ⟨source, -, rfl⟩ := Option.map_eq_some_iff.1 hv
    exact .string source
  case rules =>
    intro v hv
    split at hv
    · cases hv
    · obtain rfl := Option.some.inj hv
      exact .map fun r hr => RuleInvocation.allNumbers_toJson (hf r hr)

theorem Schema.allNumbers_toJson {s : Schema}
    (hs : ∀ f ∈ s.fields, ∀ r ∈ f.rules, (Json.Value.object r.params).AllNumbers P) :
    s.toJson.AllNumbers P :=
  .cons (.map fun f hf => FieldDefinition.allNumbers_toJson hP (hs f hf)) .nil

theorem EntityConfig.allNumbers_toJson {c : EntityConfig}
    (hs : ∀ f ∈ c.schema.fields, ∀ r ∈ f.rules, (Json.Value.object r.params).AllNumbers P) :
    c.toJson.AllNumbers P := by
  rw [toJson_eq]
  refine .cons (.string c.id.text) <| .cons (.string c.tenantId.text) <|
    .cons (.string c.entityType) <| .memberIf ?name <|
    .cons (Schema.allNumbers_toJson hP hs) <| .cons (.string c.createdAt.text) <|
    .cons (.string c.updatedAt.text) .nil
  case name =>
    intro v hv
    obtain ⟨name, -, rfl⟩ := Option.map_eq_some_iff.1 hv
    exact .string name

omit hP in
theorem Record.allNumbers_toJson {r : Record}
    (hdata : (Json.Value.object r.customData).AllNumbers P) : r.toJson.AllNumbers P :=
  .cons (.string r.id.text) <| .cons (.string r.tenantId.text) <| .cons (.string r.entityType) <|
    .cons hdata <| .cons (.string r.createdAt.text) <| .cons (.string r.updatedAt.text) .nil

end Numbers

theorem Json.Number.isKept_of_lt {n : ℤ} (hle : -2 ^ 63 ≤ n) (hlt : n < 2 ^ 63) :
    (Json.Number.integer n).IsKept :=
  ⟨hle, by omega⟩

theorem Schema.HasPlainRules.numbersKept {s : Schema} (hs : s.HasPlainRules) : s.toJson.NumbersKept :=
  Schema.allNumbers_toJson (fun _ => Json.Number.isKept_of_lt) fun f hf r hr =>
    (hs f hf r hr).numbersKept

/-! ## Documents -/

/-- A document is read back from its compact text: by a decoder that follows the text, up to its
end, and by a store. -/
structure ReadBack {α : Type} (d : Decoder α) (v : Json.Value) (a : α) : Prop where
  decoded : d (Json.readTree v.compact.toList).1 = .ok a
  rest : (Json.readTree v.compact.toList).2 = some []
  stored : PersistentStore.readBack d v.compact = .ok a

namespace Json.Decoder.Restores

variable {α : Type} {d : Decoder α} {v : Json.Value} {a : α}

/-- What the value with the numbers of the text restores is read back. -/
theorem readBack (h : d.Restores v.reread a) (hproper : v.NumbersProper)
    (hnesting : v.nesting ≤ Json.Tree.maxNesting) : ReadBack d v a := by
  obtain ⟨hrest, hdecoded⟩ := h.eq_ok_of_readTree hproper hnesting
  obtain ⟨w, hparse, hw⟩ := h.eq_ok_of_parse? hproper hnesting
  refine ⟨hdecoded, hrest, ?_⟩
  rw [PersistentStore.readBack, hparse]
  simp only [hw]
  rfl

theorem readBack_of_numbersKept (h : d.Restores v a) (hkept : v.NumbersKept)
    (hnesting : v.nesting ≤ Json.Tree.maxNesting) : ReadBack d v a := by
  refine readBack ?_ hkept.numbersProper hnesting
  rwa [hkept.reread_eq]

end Json.Decoder.Restores

/-- **Stored documents are read back.** Let the parameters of rules and the values of records have
increasing keys, and numbers that are integers of the 64-bit ranges or that are read back from
their texts, let a document not nest deeper than a reader allows, and let its times be read back.
Then a schema, a config and a record are decoded from their compact texts, without a change. Two
schemas with one canonical text are equal. -/
theorem documents_readBack :
    (∀ s : Schema, s.HasPlainRules → s.toJson.nesting ≤ Json.Tree.maxNesting →
        ReadBack Schema.decode s.toJson s) ∧
      (∀ c : EntityConfig, c.schema.HasPlainRules → c.createdAt.IsKept → c.updatedAt.IsKept →
        c.toJson.nesting ≤ Json.Tree.maxNesting → ReadBack EntityConfig.decode c.toJson c) ∧
      (∀ r : Record, (Json.Value.object r.customData).IsPlain → r.createdAt.IsKept →
        r.updatedAt.IsKept → r.toJson.nesting ≤ Json.Tree.maxNesting →
        ReadBack Record.decode r.toJson r) ∧
      ∀ s t : Schema, s.canonicalText = t.canonicalText → s = t := by
  refine ⟨?schema, ?config, ?record, fun s t h => Schema.canonicalText_injective h⟩
  case schema =>
    intro s hs hnesting
    exact (Schema.restores hs.hasOrderedRules).readBack_of_numbersKept hs.numbersKept hnesting
  case config =>
    intro c hs hcreated hupdated hnesting
    have hkept := EntityConfig.allNumbers_toJson (fun _ => Json.Number.isKept_of_lt) fun f hf r hr =>
      (hs f hf r hr).numbersKept
    exact (EntityConfig.restores hs.hasOrderedRules hcreated hupdated).readBack_of_numbersKept hkept
      hnesting
  case record =>
    intro r hdata hcreated hupdated hnesting
    have hkept := Record.allNumbers_toJson hdata.numbersKept
    exact (Record.restores hdata.inOrder hcreated hupdated).readBack_of_numbersKept hkept hnesting

/-- Two options that show the same digits, a list of options that is empty, and a rule whose
parameters are nested, with a binary64 number that is an integer. -/
def sizeSchema : Schema :=
  ⟨[.select "size" "The \"size\"" [⟨"One", .integer 1⟩, ⟨"One", .text "1"⟩],
    { FieldDefinition.select "note" "Note" [] with
      rules := [
        { action := "between", errorMessage := ""
          params := [
            ("above", .number (.integer (-3))),
            ("below", .number (.integer 18446744073709551615)),
            ("least", .array [.object [("of", .number (.float (.ofInt 3)))], .null])] }] }]⟩

/-- A config without a name. -/
def sizeConfig : EntityConfig :=
  .new (.ofNat 1) (.ofNat 2) "shirt" none sizeSchema ⟨1709164800, 0⟩

/-- A record with a line break in a value. -/
def shirt : Record :=
  .new (.ofNat 3) (.ofNat 2) "shirt" [("note", .string "\n"), ("size", .string "1")]
    ⟨1709164800, 0⟩

theorem hasPlainRules_sizeSchema : sizeSchema.HasPlainRules := by
  intro f hf r hr
  simp only [sizeSchema, List.mem_cons, List.not_mem_nil, or_false] at hf
  rcases hf with rfl | rfl
  · cases hr
  obtain rfl := List.mem_singleton.1 hr
  have hfloat : Json.Number.IsKept (.float (.ofInt 3)) := rfl
  constructor
  · refine .object (by decide) fun k v hmem => ?_
    simp only [List.mem_cons, Prod.mk.injEq, List.not_mem_nil, or_false] at hmem
    rcases hmem with ⟨-, rfl⟩ | ⟨-, rfl⟩ | ⟨-, rfl⟩
    · exact .number _
    · exact .number _
    · refine .array fun v hv => ?_
      simp only [List.mem_cons, List.not_mem_nil, or_false] at hv
      rcases hv with rfl | rfl
      · refine .object (by decide) fun k v hmem => ?_
        rw [(Prod.mk.inj (List.mem_singleton.1 hmem)).2]
        exact .number _
      · exact .null
  · refine .cons (.number ⟨by decide, by decide⟩) <| .cons (.number ⟨by decide, by decide⟩) <|
      .cons (.array fun v hv => ?_) .nil
    simp only [List.mem_cons, List.not_mem_nil, or_false] at hv
    rcases hv with rfl | rfl
    · exact .cons (.number hfloat) .nil
    · exact .null

theorem documents_readBack_sizeSchema :
    ReadBack Schema.decode sizeSchema.toJson sizeSchema ∧
      ReadBack EntityConfig.decode sizeConfig.toJson sizeConfig ∧
      ReadBack Record.decode shirt.toJson shirt ∧
      sizeSchema.canonicalText ≠ Schema.canonicalText ⟨sizeSchema.fields.reverse⟩ := by
  have htime : (⟨1709164800, 0⟩ : Calendar.Timestamp).IsKept := by
    unfold Calendar.Timestamp.IsKept
    decide +kernel
  have hdata : (Json.Value.object shirt.customData).IsPlain := by
    constructor
    · refine .object (by decide) fun k v hmem => ?_
      simp only [shirt, Record.new, List.mem_cons, Prod.mk.injEq, List.not_mem_nil,
        or_false] at hmem
      rcases hmem with ⟨-, rfl⟩ | ⟨-, rfl⟩
      · exact .string _
      · exact .string _
    · exact .cons (.string _) <| .cons (.string _) .nil
  obtain ⟨hschema, hconfig, hrecord, hcanonical⟩ := documents_readBack
  refine ⟨hschema sizeSchema hasPlainRules_sizeSchema (by decide),
    hconfig sizeConfig hasPlainRules_sizeSchema htime htime (by decide),
    hrecord shirt hdata htime htime (by decide), fun h => ?_⟩
  -- the fields are not the same in the other order
  have hnames := congrArg (fun s : Schema => s.fields.map (·.name)) (hcanonical _ _ h)
  exact absurd hnames (by decide)

end CustomFields
