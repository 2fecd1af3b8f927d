import CustomFields.Proofs.Json.Printer
import CustomFields.Validation.Compiled

/-!
# Canonical texts determine schemas

A schema is known to the cache by a digest of its canonical text. No two schemas have one
canonical text: the members that a document leaves out are those that a schema does not have, and
the text of a document determines it. So the digest is the only place where two schemas can be
taken for each other.

## Main definitions

* `CollisionFree`: the digest tells the canonical texts of some schemas apart

## Main results

* `Schema.canonicalText_injective`: different schemas have different canonical texts
* `CollisionFree.eq`: so a fingerprint names one schema, where the digest has no collision
-/

namespace CustomFields

open Json (memberIf)

/-! ## Documents of schemas -/

theorem FieldType.name_injective : Function.Injective FieldType.name := by
  intro a b
  cases a <;> cases b <;> decide

theorem OptionValue.toJson_injective : Function.Injective OptionValue.toJson := by
  intro a b h
  cases a <;> cases b <;> simp_all [OptionValue.toJson, Json.Value.int, Int64.toInt_inj]

theorem FieldOption.toJson_injective : Function.Injective FieldOption.toJson := by
  rintro ⟨l, v⟩ ⟨l', v'⟩ h
  simp only [FieldOption.toJson, Json.Value.object.injEq, List.cons.injEq, Prod.mk.injEq,
    Json.Value.string.injEq, true_and, and_true] at h
  obtain ⟨rfl, hv⟩ := h
  rw [OptionValue.toJson_injective hv]

theorem RuleInvocation.toJson_injective : Function.Injective RuleInvocation.toJson := by
  rintro ⟨a, p, m⟩ ⟨a', p', m'⟩ h
  simp only [RuleInvocation.toJson, Json.Value.object.injEq, List.cons.injEq, Prod.mk.injEq,
    Json.Value.string.injEq, true_and, and_true] at h
  obtain ⟨rfl, rfl, rfl⟩ := h
  rfl

theorem memberIf_injective (key : String) : Function.Injective (memberIf key) := by
  intro v w h
  cases v <;> cases w <;> simp_all [memberIf]

/-- A member that may be left out is told from those that follow it by its key. -/
theorem memberIf_append_inj {key : String} {v w : Option Json.Value} {ms ns : Json.Object}
    (hms : ∀ m ∈ ms, m.1 ≠ key) (hns : ∀ m ∈ ns, m.1 ≠ key)
    (h : memberIf key v ++ ms = memberIf key w ++ ns) : v = w ∧ ms = ns := by
  cases v with
  | none =>
    cases w with
    | none => exact ⟨rfl, h⟩
    -- the member would be one of those that follow
    | some w =>
      simp only [memberIf, List.nil_append] at h
      exact absurd rfl (hms (key, w) (by simp [h]))
  | some v =>
    cases w with
    | none =>
      simp only [memberIf, List.nil_append] at h
      exact absurd rfl (hns (key, v) (by simp [← h]))
    | some w =>
      simp only [memberIf, List.cons_append, List.nil_append, List.cons.injEq, Prod.mk.injEq,
        true_and] at h
      exact ⟨congrArg some h.1, h.2⟩

theorem fst_of_mem_memberIf {key : String} {v : Option Json.Value} {m : String × Json.Value}
    (h : m ∈ memberIf key v) : m.1 = key := by
  cases v with
  | none => cases h
  | some v => rw [List.mem_singleton.1 h]

theorem array_map_injective {α : Type} {f : α → Json.Value} (hf : Function.Injective f) :
    Function.Injective fun xs : List α => Json.Value.array (xs.map f) :=
  fun _ _ h => List.map_injective_iff.2 hf (Json.Value.array.inj h)

namespace FieldDefinition

/-- The rules of a field as a member that is left out where there are none. -/
theorem rulesMember_eq_memberIf (rules : List RuleInvocation) :
    (if rules.isEmpty then [] else [("validations", Json.Value.array (rules.map (·.toJson)))]) =
      memberIf "validations"
        (if rules.isEmpty then none else some (.array (rules.map (·.toJson)))) := by
  split <;> rfl

theorem rulesMember_injective {rules rules' : List RuleInvocation}
    (h : (if rules.isEmpty then none else some (Json.Value.array (rules.map (·.toJson)))) =
      if rules'.isEmpty then none else some (.array (rules'.map (·.toJson)))) :
    rules = rules' := by
  split at h <;> split at h <;> rename_i hr hr'
  · rw [List.isEmpty_iff.1 hr, List.isEmpty_iff.1 hr']
  · cases h
  · cases h
  · exact array_map_injective RuleInvocation.toJson_injective (Option.some.inj h)

theorem toJson_injective : Function.Injective FieldDefinition.toJson := by
  rintro ⟨n, l, t, r, o, p, rules⟩ ⟨n', l', t', r', o', p', rules'⟩ h
  simp only [FieldDefinition.toJson, rulesMember_eq_memberIf, Json.Value.object.injEq,
    List.cons_append, List.nil_append, List.append_assoc, List.cons.injEq, Prod.mk.injEq,
    Json.Value.string.injEq, Json.Value.bool.injEq, true_and] at h
  obtain ⟨rfl, rfl, ht, rfl, hmembers⟩ := h
  -- the members that may be left out come last, and are told apart by their keys
  obtain rfl := FieldType.name_injective ht
  have hlast (v : Option Json.Value) : ∀ m ∈ memberIf "validations" v, m.1 ≠ "regex" :=
    fun m hm => fst_of_mem_memberIf hm ▸ by decide
  have hrest (v w : Option Json.Value) :
      ∀ m ∈ memberIf "regex" v ++ memberIf "validations" w, m.1 ≠ "options" := by
    intro m hm
    rcases List.mem_append.1 hm with hm | hm
    · exact fst_of_mem_memberIf hm ▸ by decide
    · exact fst_of_mem_memberIf hm ▸ by decide
  obtain ⟨ho, htail⟩ := memberIf_append_inj (hrest _ _) (hrest _ _) hmembers
  obtain ⟨hp, hvalidations⟩ := memberIf_append_inj (hlast _) (hlast _) htail
  obtain rfl := Option.map_injective (array_map_injective FieldOption.toJson_injective) ho
  obtain rfl := Option.map_injective (fun _ _ => Json.Value.string.inj) hp
  obtain rfl := rulesMember_injective (memberIf_injective _ hvalidations)
  rfl

end FieldDefinition

theorem Schema.toJson_injective : Function.Injective Schema.toJson := by
  rintro ⟨fs⟩ ⟨gs⟩ h
  simp only [Schema.toJson, Json.Value.object.injEq, List.cons.injEq, Prod.mk.injEq, true_and,
    and_true] at h
  rw [array_map_injective FieldDefinition.toJson_injective h]

/-- **Different schemas have different canonical texts.** -/
theorem Schema.canonicalText_injective : Function.Injective Schema.canonicalText :=
  Json.Value.compact_injective.comp Schema.toJson_injective

/-! ## Fingerprints -/

/-- The digest of canonical texts does not take two texts of these schemas for each other. -/
def CollisionFree (used : List Schema) : Prop :=
  ∀ s ∈ used, ∀ t ∈ used, s.fingerprint = t.fingerprint → s.canonicalText = t.canonicalText

theorem CollisionFree.eq {used : List Schema} (h : CollisionFree used) {s t : Schema}
    (hs : s ∈ used) (ht : t ∈ used) (hst : s.fingerprint = t.fingerprint) : s = t :=
  Schema.canonicalText_injective (h s hs t ht hst)

end CustomFields
