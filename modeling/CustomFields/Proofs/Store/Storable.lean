import CustomFields.Proofs.Json.Decoded
import CustomFields.Proofs.Store.Identity
import CustomFields.Proofs.Store.RoundTrip

/-!
# What is decoded can be stored

A config is stored as a document with the schema that a body had, and a record as one with the values
of a body. In the document they lie as deep as in the body, so that the document does not nest deeper
than a reader allows; the parts of free form are in order because they were decoded, and their numbers
are those of literals; and of the times it is enough that a clock has shown them. So a document that
is stored is always read. All that may be different then is a number in a part of free form, where
its text is read as another one.

## Main definitions

* `Schema.IsDecoded`: a schema whose parts of free form have been decoded
* `EntityConfig.reread`, `Record.reread`: what is read for a document
* `Calendar.Timestamp.IsShown`: a time that a clock can show

## Main results

* `Schema.isDecoded_of_decode`: schemas that have been decoded
* `EntityConfig.toJson_reread`, `Record.toJson_reread`: only numbers are read as other ones
* `Calendar.Timestamp.IsShown.isKept`: the text of a time says which time it is
* `EntityConfig.readBack_toJson`, `Record.readBack_toJson`: what is read for a stored document
-/

namespace CustomFields

open Json (Decoder Tree memberIf)
open Json.Value (nesting_object_le nesting_array_le)

/-! ## Decoding schemas -/

/-- The parameters of the rules of a field have been decoded, some levels below it. -/
def FieldDefinition.IsDecoded (levels : ℕ) (f : FieldDefinition) : Prop :=
  ∀ r ∈ f.rules, (Json.Value.object r.params).IsDecoded (levels + 1)

/-- The parameters of all rules of a schema have been decoded, some levels below it. -/
def Schema.IsDecoded (levels : ℕ) (s : Schema) : Prop :=
  ∀ f ∈ s.fields, f.IsDecoded levels

section Decoding

variable {levels : ℕ} {t : Tree}

/-- An object that is decoded, or left out, has no more levels than there are below the whole. -/
theorem isDecoded_of_withDefault {name : String} {members : Json.Object}
    (h : (Json.Field.withDefault name Decoder.object []).IsFrom t.children members)
    (ht : t.IsRead (levels + 2)) : (Json.Value.object members).IsDecoded (levels + 1) := by
  obtain ⟨u, hu, hdecode⟩ | rfl := h.withDefault
  · exact Decoder.isDecoded_of_object (ht.of_mem_children hu) hdecode
  · exact (Json.Value.areDecoded_nil levels).object

theorem RuleInvocation.isDecoded_of_decode {r : RuleInvocation} (h : decode t = .ok r)
    (ht : t.IsRead (levels + 2)) : (Json.Value.object r.params).IsDecoded (levels + 1) := by
  obtain ⟨⟨action, params, message, ⟨⟩⟩, hrecord, heq⟩ := Json.exists_of_bind_eq_ok h
  obtain rfl := Except.ok.inj heq
  obtain ⟨-, hparams, -⟩ := Decoder.areFrom_of_record (by decide) hrecord
  exact isDecoded_of_withDefault hparams ht

theorem FieldDefinition.isDecoded_of_decode {f : FieldDefinition} (h : decode t = .ok f)
    (ht : t.IsRead (levels + 4)) : f.IsDecoded levels := by
  obtain ⟨⟨name, label, type, required, options, pattern, rules, ⟨⟩⟩, hrecord, heq⟩ :=
    Json.exists_of_bind_eq_ok h
  obtain rfl := Except.ok.inj heq
  obtain ⟨-, -, -, -, -, -, hrules, -⟩ := Decoder.areFrom_of_record (by decide) hrecord
  intro r hr
  obtain ⟨u, hu, hlist⟩ | rfl := hrules.withDefault
  · obtain ⟨w, hw, hrule⟩ := Decoder.exists_of_list hlist hr
    exact RuleInvocation.isDecoded_of_decode hrule ((ht.of_mem_children hu).of_mem_children hw)
  · cases hr

/-- **The parts of free form of a schema have been decoded** where the schema has been. -/
theorem Schema.isDecoded_of_decode {s : Schema} (h : decode t = .ok s)
    (ht : t.IsRead (levels + 6)) : s.IsDecoded levels := by
  obtain ⟨⟨fields, ⟨⟩⟩, hrecord, heq⟩ := Json.exists_of_bind_eq_ok h
  obtain rfl := Except.ok.inj heq
  obtain ⟨hfields, -⟩ := Decoder.areFrom_of_record (by decide) hrecord
  intro f hf
  obtain ⟨u, hu, hlist⟩ := hfields.required
  obtain ⟨w, hw, hfield⟩ := Decoder.exists_of_list hlist hf
  exact FieldDefinition.isDecoded_of_decode hfield ((ht.of_mem_children hu).of_mem_children hw)

end Decoding

/-! ## How deep documents nest -/

namespace Json.Value

variable {levels : ℕ} {members : Object}

theorem nesting_nil_le : (object []).nesting ≤ levels + 1 :=
  nesting_object_le.2 fun _ h => absurd h List.not_mem_nil

theorem nesting_cons_le {key : String} {v : Value} (hv : v.nesting ≤ levels)
    (h : (object members).nesting ≤ levels + 1) :
    (object ((key, v) :: members)).nesting ≤ levels + 1 :=
  nesting_object_le.2 (List.forall_mem_cons.2 ⟨hv, nesting_object_le.1 h⟩)

theorem nesting_memberIf_le {key : String} {v? : Option Value} (hv : ∀ v ∈ v?, v.nesting ≤ levels)
    (h : (object members).nesting ≤ levels + 1) :
    (object (memberIf key v? ++ members)).nesting ≤ levels + 1 := by
  cases v? with
  | none => exact h
  | some v => exact nesting_cons_le (hv v rfl) h

theorem nesting_map_le {α : Type} {f : α → Value} {as : List α}
    (h : ∀ a ∈ as, (f a).nesting ≤ levels) : (array (as.map f)).nesting ≤ levels + 1 :=
  nesting_array_le.2 (List.forall_mem_map.2 h)

end Json.Value

section Nesting

open Json.Value (nesting_nil_le nesting_cons_le nesting_memberIf_le nesting_map_le)

variable {levels : ℕ}

theorem OptionValue.nesting_toJson (o : OptionValue) : o.toJson.nesting = 0 := by
  cases o <;> rfl

theorem FieldOption.nesting_toJson_le (o : FieldOption) : o.toJson.nesting ≤ 1 :=
  nesting_cons_le le_rfl <| nesting_cons_le o.value.nesting_toJson.le nesting_nil_le

theorem RuleInvocation.nesting_toJson_le {r : RuleInvocation}
    (h : (Json.Value.object r.params).IsDecoded (levels + 1)) : r.toJson.nesting ≤ levels + 2 :=
  nesting_cons_le (Nat.zero_le _) <| nesting_cons_le h.nesting_le <|
    nesting_cons_le (Nat.zero_le _) nesting_nil_le

theorem FieldDefinition.nesting_toJson_le {f : FieldDefinition} (h : f.IsDecoded levels) :
    f.toJson.nesting ≤ levels + 4 := by
  rw [toJson_eq]
  refine nesting_cons_le (Nat.zero_le _) <| nesting_cons_le (Nat.zero_le _) <|
    nesting_cons_le (Nat.zero_le _) <| nesting_cons_le (Nat.zero_le _) <|
    nesting_memberIf_le ?options <| nesting_memberIf_le ?pattern <|
    nesting_memberIf_le ?rules nesting_nil_le
  case options =>
    intro v hv
    obtain ⟨os, -, rfl⟩ := Option.map_eq_some_iff.1 hv
    exact nesting_map_le fun o _ => o.nesting_toJson_le.trans (by omega)
  case pattern =>
    intro v hv
    obtain ⟨source, -, rfl⟩ := Option.map_eq_some_iff.1 hv
    exact Nat.zero_le _
  case rules =>
    intro v hv
    split at hv
    · cases hv
    · obtain rfl := Option.some.inj hv
      exact nesting_map_le fun r hr => RuleInvocation.nesting_toJson_le (h r hr)

theorem Schema.nesting_toJson_le {s : Schema} (h : s.IsDecoded levels) :
    s.toJson.nesting ≤ levels + 6 :=
  nesting_cons_le (nesting_map_le fun f hf => FieldDefinition.nesting_toJson_le (h f hf))
    nesting_nil_le

theorem EntityConfig.nesting_toJson_le {c : EntityConfig} (h : c.schema.IsDecoded levels) :
    c.toJson.nesting ≤ levels + 7 := by
  rw [toJson_eq]
  refine nesting_cons_le (Nat.zero_le _) <| nesting_cons_le (Nat.zero_le _) <|
    nesting_cons_le (Nat.zero_le _) <| nesting_memberIf_le ?name <|
    nesting_cons_le (Schema.nesting_toJson_le h) <| nesting_cons_le (Nat.zero_le _) <|
    nesting_cons_le (Nat.zero_le _) nesting_nil_le
  case name =>
    intro v hv
    obtain ⟨name, -, rfl⟩ := Option.map_eq_some_iff.1 hv
    exact Nat.zero_le _

theorem Record.nesting_toJson_le {r : Record}
    (h : (Json.Value.object r.customData).nesting ≤ levels) : r.toJson.nesting ≤ levels + 1 :=
  nesting_cons_le (Nat.zero_le _) <| nesting_cons_le (Nat.zero_le _) <|
    nesting_cons_le (Nat.zero_le _) <| nesting_cons_le h <| nesting_cons_le (Nat.zero_le _) <|
    nesting_cons_le (Nat.zero_le _) nesting_nil_le

end Nesting

/-! ## Documents with numbers that are read again -/

theorem Json.Value.reread_append (ms ns : Json.Object) :
    reread.ofMembers (ms ++ ns) = reread.ofMembers ms ++ reread.ofMembers ns := by
  rw [reread_members, reread_members, reread_members, List.map_append]

theorem Json.Value.reread_memberIf (key : String) (v? : Option Json.Value) :
    reread.ofMembers (memberIf key v?) = memberIf key (v?.map reread) := by
  cases v? <;> rfl

theorem Json.Value.reread_map {α : Type} {f : α → Json.Value} {g : α → α} {as : List α}
    (h : ∀ a ∈ as, (f a).reread = f (g a)) :
    reread (.array (as.map f)) = .array ((as.map g).map f) := by
  rw [reread, reread_items, List.map_map, List.map_map]
  exact congrArg Json.Value.array (List.map_congr_left h)

/-- A rule as its document is read. -/
def RuleInvocation.reread (r : RuleInvocation) : RuleInvocation :=
  { r with params := Json.Value.reread.ofMembers r.params }

/-- A field as its document is read. -/
def FieldDefinition.reread (f : FieldDefinition) : FieldDefinition :=
  { f with rules := f.rules.map (·.reread) }

/-- A schema as its document is read. -/
def Schema.reread (s : Schema) : Schema :=
  ⟨s.fields.map (·.reread)⟩

/-- A config as its document is read. -/
def EntityConfig.reread (c : EntityConfig) : EntityConfig :=
  { c with schema := c.schema.reread }

/-- A record as its document is read. -/
def Record.reread (r : Record) : Record :=
  { r with customData := Json.Value.reread.ofMembers r.customData }

theorem FieldOption.reread_toJson (o : FieldOption) : o.toJson.reread = o.toJson :=
  Json.Value.NumbersKept.reread_eq (o.allNumbers_toJson fun _ => Json.Number.isKept_of_lt)

theorem FieldDefinition.toJson_reread (f : FieldDefinition) : f.reread.toJson = f.toJson.reread := by
  have hoptions : (f.options.map fun os => Json.Value.array (os.map (·.toJson))).map
      Json.Value.reread = f.options.map fun os => .array (os.map (·.toJson)) := by
    cases f.options with
    | none => rfl
    | some os =>
      have hos : (Json.Value.array (os.map (·.toJson))).reread =
          .array ((os.map id).map (·.toJson)) :=
        Json.Value.reread_map fun o _ => o.reread_toJson
      rw [List.map_id] at hos
      exact congrArg some hos
  have hpattern : (f.pattern.map Json.Value.string).map Json.Value.reread = f.pattern.map .string := by
    cases f.pattern <;> rfl
  have hrules : (if f.rules.isEmpty then none else some (Json.Value.array (f.rules.map (·.toJson)))).map
      Json.Value.reread = if f.reread.rules.isEmpty then none else
        some (.array (f.reread.rules.map (·.toJson))) := by
    rw [show f.reread.rules = f.rules.map (·.reread) from rfl, List.isEmpty_map]
    split
    · rfl
    · exact congrArg some (Json.Value.reread_map fun _ _ => rfl)
  rw [toJson_eq, toJson_eq, Json.Value.reread]
  simp only [Json.Value.reread_append, Json.Value.reread_memberIf, hoptions, hpattern, hrules]
  rfl

theorem Schema.toJson_reread (s : Schema) : s.reread.toJson = s.toJson.reread := by
  have hfields : (Json.Value.array (s.fields.map (·.toJson))).reread =
      .array ((s.fields.map (·.reread)).map (·.toJson)) :=
    Json.Value.reread_map fun f _ => f.toJson_reread.symm
  exact congrArg (fun v => Json.Value.object [("fields", v)]) hfields.symm

theorem EntityConfig.toJson_reread (c : EntityConfig) : c.reread.toJson = c.toJson.reread := by
  have hname : (c.name.map Json.Value.string).map Json.Value.reread = c.name.map .string := by
    cases c.name <;> rfl
  rw [toJson_eq, toJson_eq, Json.Value.reread]
  simp only [Json.Value.reread_append, Json.Value.reread_memberIf, hname, reread,
    Schema.toJson_reread]
  rfl

theorem Record.toJson_reread (r : Record) : r.reread.toJson = r.toJson.reread :=
  rfl

/-! ## Times -/

namespace Calendar.Timestamp

/-- A time that a clock can show, outside of leap seconds and in a year that texts can have. -/
structure IsShown (t : Timestamp) : Prop where
  nanoseconds_lt : t.nanoseconds < 10 ^ 9
  le_year : -262143 ≤ (Date.ofDayNumber (t.seconds / 86400 + epochDay)).year
  year_le : (Date.ofDayNumber (t.seconds / 86400 + epochDay)).year ≤ 262142

/-- **The text of a time says which time it is.** -/
theorem IsShown.isKept {t : Timestamp} (h : t.IsShown) : t.IsKept := by
  obtain ⟨seconds, nanoseconds⟩ := t
  obtain ⟨hnanoseconds, hle, hge⟩ := h
  dsimp only at hnanoseconds hle hge
  obtain ⟨hdate, hday⟩ := Date.ofDayNumber_spec (seconds / 86400 + epochDay)
  obtain ⟨second, hsecond⟩ : ∃ s, s = (seconds % 86400).toNat := ⟨_, rfl⟩
  have hextra : nanoseconds / 10 ^ 9 = 0 := Nat.div_eq_of_lt hnanoseconds
  rw [IsKept, text_eq_parts,
    parse?_parts hdate (by omega) (by omega) (Nat.mod_lt _ (by decide)), hday]
  simp only [← hsecond, hextra, Nat.mod_eq_of_lt hnanoseconds]
  rw [if_neg (by omega), if_neg (by omega)]
  simp only [Option.some.injEq, mk.injEq, and_true]
  omega

/-- What has been read from the text of a time is kept. -/
theorem isKept_of_parse? {t t' : Timestamp} (h : parse? t.text = some t') : t'.IsKept := by
  rw [IsKept, text_of_parse?_text h, h]

end Calendar.Timestamp

namespace Storage

variable {S : Storage}

/-- When a config was created is kept where the config has been read from a text. -/
theorem Orderly.isKept_of_config? (h : S.Orderly) (hk : S.kind = .tree) {t : Uuid} {e : String}
    {c : EntityConfig} (hc : S.config? t e = .ok (some c)) : c.createdAt.IsKept := by
  obtain ⟨c₀, -, hread⟩ := h.configs.exists_reads hc
  rw [hk] at hread
  have hreadAs := EntityConfig.isReadAs_of_recovers (PersistentStore.recovers_of_readBack hread)
  exact Calendar.Timestamp.isKept_of_parse? hreadAs.createdAt

theorem Orderly.isKept_of_record? (h : S.Orderly) (hk : S.kind = .tree) {id : Uuid} {r : Record}
    (hr : S.record? id = .ok (some r)) : r.createdAt.IsKept := by
  obtain ⟨r₀, -, hread⟩ := h.records.exists_reads hr
  rw [hk] at hread
  have hreadAs := Record.isReadAs_of_recovers (PersistentStore.recovers_of_readBack hread)
  exact Calendar.Timestamp.isKept_of_parse? hreadAs.createdAt

end Storage

/-! ## Reading back -/

theorem Schema.IsDecoded.hasOrderedRules {levels : ℕ} {s : Schema} (hs : s.IsDecoded levels) :
    s.reread.HasOrderedRules := by
  intro f hf r hr
  obtain ⟨f, hf', rfl⟩ := List.mem_map.1 hf
  obtain ⟨r, hr', rfl⟩ := List.mem_map.1 hr
  exact (hs f hf' r hr').inOrder.reread

/-- **The document of a config is read,** if its schema has been decoded. Only numbers may be read as
other ones. -/
theorem EntityConfig.readBack_toJson {c : EntityConfig} (hs : c.schema.IsDecoded 120)
    (hcreated : c.createdAt.IsKept) (hupdated : c.updatedAt.IsKept) :
    PersistentStore.readBack decode c.toJson.compact = .ok c.reread := by
  have hrestores : decode.Restores c.toJson.reread c.reread := by
    rw [← toJson_reread]
    exact restores hs.hasOrderedRules hcreated hupdated
  have hproper : c.toJson.NumbersProper :=
    allNumbers_toJson (fun n hle hlt => ⟨hle, by omega⟩) fun f hf r hr => (hs f hf r hr).numbersProper
  exact (hrestores.readBack hproper (nesting_toJson_le hs)).stored

/-- **The document of a record is read,** if its values have been decoded. -/
theorem Record.readBack_toJson {r : Record} (hdata : (Json.Value.object r.customData).IsDecoded 126)
    (hcreated : r.createdAt.IsKept) (hupdated : r.updatedAt.IsKept) :
    PersistentStore.readBack decode r.toJson.compact = .ok r.reread := by
  have hrestores : decode.Restores r.toJson.reread r.reread := by
    rw [← toJson_reread]
    exact restores hdata.inOrder.reread hcreated hupdated
  have hproper : r.toJson.NumbersProper := allNumbers_toJson hdata.numbersProper
  exact (hrestores.readBack hproper (nesting_toJson_le hdata.nesting_le)).stored

end CustomFields
