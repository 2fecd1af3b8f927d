import CustomFields.Proofs.Json.Decoder
import CustomFields.Proofs.Schema.Check
import CustomFields.Proofs.Store.Storage

/-!
# What is read for a stored document

A persistent store reads back the text of what was stored. Numbers in it may have changed, but the
names, the types and the texts of a schema have not, and with them nothing that its check looks at.
So a schema that has satisfied its check when it was stored does so when it is read, and ids, the
entity type and the name are read as they were written.

## Main definitions

* `FieldDefinition.SameForm`: two fields differ at most in labels, values of options, and rules
* `EntityConfig.IsReadAs`, `Record.IsReadAs`: what is read for a thing

## Main results

* `Schema.check_of_recovers`: what is recovered of a schema that satisfies its check satisfies it
* `EntityConfig.isReadAs_of_recovers`, `Record.isReadAs_of_recovers`: what is recovered of a thing
* `StorageKind.ReadsConfig.check_schema`, `StorageKind.ReadsConfig.entityType_eq`,
  `StorageKind.ReadsRecord.entityType_eq`: what is read for a stored config or record
-/

namespace CustomFields

open Json (Decoder memberIf)
open Json.Field (recovers_required recovers_optional)

theorem mem_memberIf {key k : String} {o : Option Json.Value} {v : Json.Value} :
    (k, v) ∈ memberIf key o ↔ k = key ∧ o = some v := by
  cases o with
  | none => simp [memberIf]
  | some w => simp [memberIf, eq_comm]

/-! ## Schemas -/

/-- Two fields differ at most in labels, values of options, and rules. -/
structure FieldDefinition.SameForm (f g : FieldDefinition) : Prop where
  name : g.name = f.name
  type : g.type = f.type
  options : g.options.map List.length = f.options.map List.length
  pattern : g.pattern = f.pattern

namespace FieldDefinition

variable {f g : FieldDefinition}

/-- The check of a field looks at its form only. -/
theorem check_of_sameForm (h : f.SameForm g) (hf : f.check = .ok ()) : g.check = .ok () := by
  obtain ⟨hname, hoptions, hpattern⟩ := check_eq_ok_iff.1 hf
  rw [checkOptions_eq_ok_iff] at hoptions
  rw [checkPattern_eq_ok_iff] at hpattern
  refine check_eq_ok_iff.2 ⟨h.name ▸ hname, ?_, ?_⟩
  · rw [checkOptions_eq_ok_iff, h.type, h.options]
    exact hoptions
  · rw [checkPattern_eq_ok_iff, h.type, h.pattern]
    exact hpattern

end FieldDefinition

/-- The check of a schema looks at the forms of its fields only. -/
theorem Schema.checkFields_of_sameForm {seen : List String} {fs gs : List FieldDefinition}
    (h : List.Forall₂ FieldDefinition.SameForm fs gs) (hfs : checkFields seen fs = .ok ()) :
    checkFields seen gs = .ok () := by
  induction h generalizing seen with
  | nil => rfl
  | cons hf _ ih =>
    obtain ⟨hcheck, hseen, hrest⟩ := checkFields_cons.1 hfs
    refine checkFields_cons.2 ⟨FieldDefinition.check_of_sameForm hf hcheck, hf.name ▸ hseen, ?_⟩
    exact hf.name ▸ ih hrest

theorem FieldType.eq_of_recovers {t t' : FieldType}
    (h : FieldType.decode.Recovers (.string t.name) t') : t' = t := by
  obtain ⟨levels, w, hw, hd⟩ := h
  obtain rfl := Option.some.inj hw
  cases t <;> exact (Except.ok.inj hd).symm

namespace FieldDefinition

/-- The members of the document of a field. -/
def members (f : FieldDefinition) : Json.Object :=
  [("name", .string f.name), ("label", .string f.label), ("type", .string f.type.name),
    ("required", .bool f.required)] ++
  memberIf "options" (f.options.map fun os => .array (os.map (·.toJson))) ++
  memberIf "regex" (f.pattern.map .string) ++
  if f.rules.isEmpty then [] else [("validations", .array (f.rules.map (·.toJson)))]

variable {f : FieldDefinition} {v : Json.Value}

theorem mem_options : ("options", v) ∈ f.members ↔
    (f.options.map fun os => Json.Value.array (os.map (·.toJson))) = some v := by
  unfold members
  split <;> simp [mem_memberIf]

theorem mem_regex : ("regex", v) ∈ f.members ↔ f.pattern.map Json.Value.string = some v := by
  unfold members
  split <;> simp [mem_memberIf]

end FieldDefinition

theorem FieldDefinition.sameForm_of_recovers {f g : FieldDefinition}
    (h : FieldDefinition.decode.Recovers f.toJson g) : f.SameForm g := by
  obtain ⟨⟨name, label, type, required, options, pattern, rules, ⟨⟩⟩, hrecord, heq⟩ := h.of_bind
  obtain rfl := Except.ok.inj heq
  obtain ⟨hname, -, htype, -, hoptions, hpattern, -, -⟩ := hrecord.record (by decide)
  refine ⟨?_, ?_, ?_, ?_⟩
  · obtain ⟨v, hv, hname⟩ := recovers_required hname
    obtain rfl : v = .string f.name := by simpa [mem_memberIf] using hv
    exact hname.string
  · obtain ⟨v, hv, htype⟩ := recovers_required htype
    obtain rfl : v = .string f.type.name := by simpa [mem_memberIf] using hv
    exact FieldType.eq_of_recovers htype
  -- the options may have other values, but there are as many of them, or none at all
  · have hmem (v : Json.Value) := mem_options (f := f) (v := v)
    obtain ⟨v, hv, hoptions⟩ | ⟨hnone, rfl⟩ := recovers_optional hoptions
    · obtain ⟨os, hos, rfl⟩ := Option.map_eq_some_iff.1 ((hmem v).1 hv)
      obtain ⟨os', rfl, hlist⟩ := hoptions.nullable (by rintro ⟨⟩)
      have hlength := hlist.list.length_eq
      rw [List.length_map] at hlength
      rw [hos, Option.map_some, Option.map_some, hlength]
    · cases hos : f.options with
      | none => rfl
      | some os => exact absurd ((hmem _).2 (by rw [hos]; rfl)) (hnone _)
  · have hmem (v : Json.Value) := mem_regex (f := f) (v := v)
    obtain ⟨v, hv, hpattern⟩ | ⟨hnone, rfl⟩ := recovers_optional hpattern
    · obtain ⟨source, hsource, rfl⟩ := Option.map_eq_some_iff.1 ((hmem v).1 hv)
      obtain ⟨source', rfl, hstring⟩ := hpattern.nullable (by rintro ⟨⟩)
      rw [hsource, hstring.string]
    · cases hsource : f.pattern with
      | none => rfl
      | some source => exact absurd ((hmem _).2 (by rw [hsource]; rfl)) (hnone _)

/-- **What is recovered of a schema that satisfies its check satisfies it.** -/
theorem Schema.check_of_recovers {s s' : Schema} (h : Schema.decode.Recovers s.toJson s')
    (hs : s.check = .ok ()) : s'.check = .ok () := by
  obtain ⟨⟨fields, ⟨⟩⟩, hrecord, heq⟩ := h.of_bind
  obtain rfl := Except.ok.inj heq
  obtain ⟨hfields, -⟩ := hrecord.record (by decide)
  obtain ⟨v, hv, hfields⟩ := recovers_required hfields
  obtain rfl : v = .array (s.fields.map (·.toJson)) := by simpa using hv
  -- field by field, in the same order
  have hforms := List.forall₂_map_left_iff.1 hfields.list
  exact checkFields_of_sameForm (hforms.imp fun _ _ => FieldDefinition.sameForm_of_recovers) hs

/-! ## Configs and records -/

/-- A text that is written is read as it is. -/
theorem Json.Decoder.Recovers.ofText {α : Type} {form s : String} {read? : String → Option α}
    {a : α} (h : (Decoder.ofText form read?).Recovers (.string s) a) : read? s = some a := by
  obtain ⟨s', hs, hread⟩ := h.of_bind
  rw [hs.string] at hread
  split at hread
  · rename_i b hb
    exact hb.trans (congrArg some (Except.ok.inj hread))
  · cases hread

theorem Uuid.eq_of_recovers {u u' : Uuid} (h : Uuid.decode.Recovers (.string u.text) u') :
    u' = u :=
  Option.some.inj (h.ofText.symm.trans (parse?_text u))

/-- The second of two configs is what is read for the first. -/
structure EntityConfig.IsReadAs (c c' : EntityConfig) : Prop where
  id : c'.id = c.id
  tenantId : c'.tenantId = c.tenantId
  entityType : c'.entityType = c.entityType
  name : c'.name = c.name
  schema : Schema.decode.Recovers c.schema.toJson c'.schema
  createdAt : Calendar.Timestamp.parse? c.createdAt.text = some c'.createdAt

/-- The second of two records is what is read for the first. -/
structure Record.IsReadAs (r r' : Record) : Prop where
  id : r'.id = r.id
  tenantId : r'.tenantId = r.tenantId
  entityType : r'.entityType = r.entityType
  createdAt : Calendar.Timestamp.parse? r.createdAt.text = some r'.createdAt

theorem EntityConfig.isReadAs_of_recovers {c c' : EntityConfig}
    (h : EntityConfig.decode.Recovers c.toJson c') : c.IsReadAs c' := by
  obtain ⟨⟨id, tenantId, entityType, name, schema, createdAt, updatedAt, ⟨⟩⟩, hrecord, heq⟩ :=
    h.of_bind
  obtain rfl := Except.ok.inj heq
  obtain ⟨hid, htenant, htype, hname, hschema, hcreated, -, -⟩ := hrecord.record (by decide)
  refine ⟨?_, ?_, ?_, ?_, ?_, ?_⟩
  · obtain ⟨v, hv, hid⟩ := recovers_required hid
    obtain rfl : v = .string c.id.text := by simpa [mem_memberIf] using hv
    exact Uuid.eq_of_recovers hid
  · obtain ⟨v, hv, htenant⟩ := recovers_required htenant
    obtain rfl : v = .string c.tenantId.text := by simpa [mem_memberIf] using hv
    exact Uuid.eq_of_recovers htenant
  · obtain ⟨v, hv, htype⟩ := recovers_required htype
    obtain rfl : v = .string c.entityType := by simpa [mem_memberIf] using hv
    exact htype.string
  · have hmem (v : Json.Value) : ("name", v) ∈ ([("id", .string c.id.text),
        ("tenant_id", .string c.tenantId.text), ("entity_type", .string c.entityType)] ++
        memberIf "name" (c.name.map .string) ++ [("config", c.schema.toJson),
        ("created_at", .string c.createdAt.text), ("updated_at", .string c.updatedAt.text)] :
        Json.Object) ↔ c.name.map Json.Value.string = some v := by
      simp [mem_memberIf]
    obtain ⟨v, hv, hname⟩ | ⟨hnone, rfl⟩ := recovers_optional hname
    · obtain ⟨s, hs, rfl⟩ := Option.map_eq_some_iff.1 ((hmem v).1 hv)
      obtain ⟨s', rfl, hstring⟩ := hname.nullable (by rintro ⟨⟩)
      rw [hs, hstring.string]
    · cases hs : c.name with
      | none => rfl
      | some s => exact absurd ((hmem _).2 (by rw [hs]; rfl)) (hnone _)
  · obtain ⟨v, hv, hschema⟩ := recovers_required hschema
    obtain rfl : v = c.schema.toJson := by simpa [mem_memberIf] using hv
    exact hschema
  · obtain ⟨v, hv, hcreated⟩ := recovers_required hcreated
    obtain rfl : v = .string c.createdAt.text := by simpa [mem_memberIf] using hv
    exact hcreated.ofText

theorem Record.isReadAs_of_recovers {r r' : Record} (h : Record.decode.Recovers r.toJson r') :
    r.IsReadAs r' := by
  obtain ⟨⟨id, tenantId, entityType, customData, createdAt, updatedAt, ⟨⟩⟩, hrecord, heq⟩ :=
    h.of_bind
  obtain rfl := Except.ok.inj heq
  obtain ⟨hid, htenant, htype, -, hcreated, -, -⟩ := hrecord.record (by decide)
  refine ⟨?_, ?_, ?_, ?_⟩
  · obtain ⟨v, hv, hid⟩ := recovers_required hid
    obtain rfl : v = .string r.id.text := by simpa using hv
    exact Uuid.eq_of_recovers hid
  · obtain ⟨v, hv, htenant⟩ := recovers_required htenant
    obtain rfl : v = .string r.tenantId.text := by simpa using hv
    exact Uuid.eq_of_recovers htenant
  · obtain ⟨v, hv, htype⟩ := recovers_required htype
    obtain rfl : v = .string r.entityType := by simpa using hv
    exact htype.string
  · obtain ⟨v, hv, hcreated⟩ := recovers_required hcreated
    obtain rfl : v = .string r.createdAt.text := by simpa using hv
    exact hcreated.ofText

/-- What is read back from a text is recovered from it. -/
theorem PersistentStore.recovers_of_readBack {α : Type} {d : Decoder α} {v : Json.Value} {a : α}
    (h : readBack d v.compact = .ok a) : d.Recovers v a := by
  rw [readBack, Json.Value.parse?_compact] at h
  split at h
  · cases h
  · rename_i w hw
    split at h
    · rename_i b hb
      obtain rfl := Except.ok.inj h
      exact ⟨_, w, hw, hb⟩
    · cases h

namespace StorageKind

variable {k : StorageKind}

theorem ReadsConfig.entityType_eq {c c' : EntityConfig} (h : k.ReadsConfig c c') :
    c'.entityType = c.entityType := by
  cases k with
  | memory => exact congrArg EntityConfig.entityType h
  | tree =>
    exact (EntityConfig.isReadAs_of_recovers (PersistentStore.recovers_of_readBack h)).entityType

/-- A schema that has satisfied its check when it was stored does so when it is read. -/
theorem ReadsConfig.check_schema {c c' : EntityConfig} (h : k.ReadsConfig c c')
    (hc : c.schema.check = .ok ()) : c'.schema.check = .ok () := by
  cases k with
  | memory =>
    obtain rfl : c' = c := h
    exact hc
  | tree =>
    have hread := EntityConfig.isReadAs_of_recovers (PersistentStore.recovers_of_readBack h)
    exact Schema.check_of_recovers hread.schema hc

theorem ReadsRecord.entityType_eq {r r' : Record} (h : k.ReadsRecord r r') :
    r'.entityType = r.entityType := by
  cases k with
  | memory => exact congrArg Record.entityType h
  | tree => exact (Record.isReadAs_of_recovers (PersistentStore.recovers_of_readBack h)).entityType

end StorageKind

end CustomFields
