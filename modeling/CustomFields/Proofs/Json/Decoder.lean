import CustomFields.Json.Decoder
import CustomFields.Proofs.Data.Entries
import CustomFields.Proofs.Json.Reader

/-!
# What a decoded record was read from

A record that has been decoded from an object has, for each of its fields, a value that was decoded
from a member with the name of the field, or the value that stands for a missing one, and then
there was no such member.

## Main definitions

* `Field.Takes`: a field has its value from the members of an object
* `Decoder.Recovers`: what a decoder makes of the text of a value

## Main results

* `Decoder.takes_of_record`: each field of a decoded record has its value from the members
* `Decoder.Recovers.string`, `Decoder.Recovers.list`, `Decoder.Recovers.record`: what is recovered
  from the texts of strings, arrays and objects
-/

namespace CustomFields.Json

/-- What goes on after a step has an answer only if the step has one. -/
theorem exists_of_bind_eq_ok {ε α β : Type} {x : Except ε α} {f : α → Except ε β} {b : β}
    (h : (x >>= f) = .ok b) : ∃ a, x = .ok a ∧ f a = .ok b := by
  cases x with
  | error e => cases h
  | ok a => exact ⟨a, rfl, h⟩

/-- The members of an object as the tree of a text has them. -/
abbrev Members := List (Option String × Tree)

namespace Field

variable {α : Type} (f : Field α) (members : Members)

/-- A field has its value from a member with its name, or there is none. -/
def Takes (a : α) : Prop :=
  (∃ t, (some f.name, t) ∈ members ∧ f.decode t = .ok a) ∨
    (∀ t, (some f.name, t) ∉ members) ∧ f.whenAbsent = some a

/-- A slot has what was decoded from the member of its field, if it has been met. -/
def Fills : Option α → Prop
  | none => ∀ t, (some f.name, t) ∉ members
  | some a => ∃ t, (some f.name, t) ∈ members ∧ f.decode t = .ok a

variable {f members}

/-- A member with another name leaves a slot as it is. -/
theorem Fills.append_of_ne {slot : Option α} (h : f.Fills members slot) {key : String}
    (hne : f.name ≠ key) (t : Tree) : f.Fills (members ++ [(some key, t)]) slot := by
  cases slot with
  | none =>
    intro u hu
    rcases List.mem_append.1 hu with hmem | hmem
    · exact h u hmem
    · exact hne (Option.some.inj (Prod.mk.inj (List.mem_singleton.1 hmem)).1)
  | some a =>
    obtain ⟨u, hu, hdecode⟩ := h
    exact ⟨u, List.mem_append_left _ hu, hdecode⟩

/-- A slot that has not been filled takes the value that stands for a missing one. -/
theorem Fills.takes {slot : Option α} (h : f.Fills members slot) {a : α}
    (ha : slot.or f.whenAbsent = some a) : f.Takes members a := by
  cases slot with
  | none => exact Or.inr ⟨h, ha⟩
  | some b =>
    obtain rfl := Option.some.inj ha
    exact Or.inl h

end Field

namespace Fields

/-- The names of the members. -/
def names : {αs : List Type} → Fields αs → List String
  | _, .nil => []
  | _, .cons f fs => f.name :: fs.names

/-- The slots have what was decoded from the members that have been met. -/
def Filled (members : Members) : {αs : List Type} → Fields αs → Slots αs → Prop
  | _, .nil, () => True
  | _, .cons f fs, (slot, slots) => f.Fills members slot ∧ fs.Filled members slots

/-- Each field of a record has its value from the members of an object. -/
def Takes (members : Members) : {αs : List Type} → Fields αs → Tuple αs → Prop
  | _, .nil, () => True
  | _, .cons f fs, (a, as) => f.Takes members a ∧ fs.Takes members as

theorem filled_nil {αs : List Type} (fs : Fields αs) : fs.Filled [] fs.emptySlots := by
  induction fs with
  | nil => trivial
  | cons f fs ih => exact ⟨fun _ => List.not_mem_nil, ih⟩

section Visit

variable {αs : List Type} {fs : Fields αs} {members : Members} {key : String} {t : Tree}

theorem Filled.append_of_not_mem {slots : Slots αs} (h : fs.Filled members slots)
    (hkey : key ∉ fs.names) : fs.Filled (members ++ [(some key, t)]) slots := by
  induction fs with
  | nil => trivial
  | cons f fs ih =>
    obtain ⟨hne, hkey⟩ := not_or.1 (List.mem_cons.not.1 hkey)
    exact ⟨h.1.append_of_ne (Ne.symm hne) t, ih h.2 hkey⟩

/-- **A member fills the slot of its name.** -/
theorem Filled.visit (hnames : fs.names.Nodup) {slots slots' : Slots αs}
    (h : fs.Filled members slots) (hvisit : fs.visit key t slots = .ok slots') :
    fs.Filled (members ++ [(some key, t)]) slots' := by
  induction fs with
  | nil => trivial
  | cons f fs ih =>
    obtain ⟨hfirst, hrest⟩ := List.nodup_cons.1 hnames
    obtain ⟨slot, slots⟩ := slots
    unfold Fields.visit at hvisit
    split at hvisit
    -- the member has the name of the first field, and of no other one
    · rename_i hname
      subst hname
      cases slot with
      -- a name that is met twice is an error
      | some _ => cases hvisit
      | none =>
        obtain ⟨a, hdecode, heq⟩ := exists_of_bind_eq_ok hvisit
        obtain rfl := Except.ok.inj heq
        exact ⟨⟨t, List.mem_append_right _ (List.mem_singleton_self _), hdecode⟩,
          h.2.append_of_not_mem hfirst⟩
    · rename_i hname
      obtain ⟨slots₁, hslots, heq⟩ := exists_of_bind_eq_ok hvisit
      obtain rfl := Except.ok.inj heq
      exact ⟨h.1.append_of_ne hname t, ih hrest h.2 hslots⟩

/-- Members that follow each other fill the slots of their names. -/
theorem Filled.foldlM (hnames : fs.names.Nodup) {ms : Members} {slots slots' : Slots αs}
    (h : fs.Filled members slots)
    (hfold : ms.foldlM (fun slots (key?, t) =>
      match key? with
      | none => throw DecodeError.broken
      | some key => fs.visit key t slots) slots = .ok slots') :
    fs.Filled (members ++ ms) slots' := by
  -- on the members to come, for any that have been met
  induction ms generalizing members slots with
  | nil =>
    obtain rfl := Except.ok.inj hfold
    rwa [List.append_nil]
  | cons m ms ih =>
    obtain ⟨key?, t⟩ := m
    rw [List.foldlM_cons] at hfold
    obtain ⟨slots₁, hvisit, hfoldms⟩ := exists_of_bind_eq_ok hfold
    cases key? with
    | none => cases hvisit
    | some key =>
      have hrest := ih (h.visit hnames hvisit) hfoldms
      rwa [List.append_assoc, List.singleton_append] at hrest

/-- What has not been met takes the value that stands for it. -/
theorem Filled.finish {slots : Slots αs} (h : fs.Filled members slots) {record : Tuple αs}
    (hfinish : fs.finish slots = .ok record) : fs.Takes members record := by
  induction fs with
  | nil => trivial
  | cons f fs ih =>
    obtain ⟨slot, slots⟩ := slots
    unfold Fields.finish at hfinish
    cases hvalue : slot.or f.whenAbsent with
    | none =>
      rw [hvalue] at hfinish
      cases hfinish
    | some a =>
      rw [hvalue] at hfinish
      obtain ⟨as, hrest, heq⟩ := exists_of_bind_eq_ok hfinish
      obtain rfl := Except.ok.inj heq
      exact ⟨h.1.takes hvalue, ih h.2 hrest⟩

end Visit

end Fields

namespace Decoder

open Fields (filled_nil)

/-- **Each field of a decoded record has its value from the members.** -/
theorem takes_of_record {type : String} {αs : List Type} {fs : Fields αs}
    (hnames : fs.names.Nodup) {members : Members} {complete : Bool} {record : Tuple αs}
    (h : Decoder.record type fs (.object members complete) = .ok record) :
    fs.Takes members record := by
  obtain ⟨slots, hfold, hfinish⟩ := exists_of_bind_eq_ok h
  cases complete with
  | false => cases hfinish
  | true => exact ((filled_nil fs).foldlM hnames hfold).finish hfinish

end Decoder

/-! ## What is recovered from a text -/

/-- What a decoder makes of the text of a value that does not nest too deep. -/
def Decoder.Recovers {α : Type} (d : Decoder α) (v : Value) (a : α) : Prop :=
  ∃ levels w, (v.tree.cut levels).toValue? = some w ∧ d (.ofValue w) = .ok a

/-- A field is recovered from a member with its name, or there is none. -/
def Field.Recovers {α : Type} (f : Field α) (members : Object) (a : α) : Prop :=
  (∃ v, (f.name, v) ∈ members ∧ f.decode.Recovers v a) ∨
    (∀ v, (f.name, v) ∉ members) ∧ f.whenAbsent = some a

/-- Each field of a record is recovered from the members of an object. -/
def Fields.Recovers (members : Object) : {αs : List Type} → Fields αs → Tuple αs → Prop
  | _, .nil, () => True
  | _, .cons f fs, (a, as) => f.Recovers members a ∧ fs.Recovers members as

namespace Value

variable {levels : ℕ}

/-- The values of the items of an array are those of its trees. -/
theorem toValue?_itemTrees {vs ws : List Value}
    (h : Tree.toValue?.go (Tree.cut.go levels (tree.itemTrees vs)) = some ws) :
    List.Forall₂ (fun v w => (v.tree.cut levels).toValue? = some w) vs ws := by
  induction vs generalizing ws with
  | nil =>
    obtain rfl := Option.some.inj h
    exact .nil
  | cons v vs ih =>
    obtain ⟨w, hw, hrest⟩ := Option.bind_eq_some_iff.1 h
    obtain ⟨ws', hws, heq⟩ := Option.bind_eq_some_iff.1 hrest
    obtain rfl := Option.some.inj heq
    exact .cons hw (ih hws)

/-- The values of the members of an object are those of its trees, and no key is lost. -/
theorem toValue?_memberTrees {ms acc ns : Object}
    (h : Tree.toValue?.goMembers (Tree.cut.goMembers levels (tree.memberTrees ms)) acc = some ns) :
    (∀ k w, (k, w) ∈ ns →
        (k, w) ∈ acc ∨ ∃ v, (k, v) ∈ ms ∧ (v.tree.cut levels).toValue? = some w) ∧
      ∀ k, k ∈ Entries.keys acc ∨ k ∈ Entries.keys ms → k ∈ Entries.keys ns := by
  induction ms generalizing acc with
  | nil =>
    obtain rfl := Option.some.inj h
    exact ⟨fun k w hmem => Or.inl hmem, fun k hk => hk.resolve_right List.not_mem_nil⟩
  | cons m ms ih =>
    obtain ⟨k, v⟩ := m
    obtain ⟨w, hw, hrest⟩ := Option.bind_eq_some_iff.1 h
    -- of several members with one key the last one stays, and the key with it
    obtain ⟨hvalues, hkeys⟩ := ih hrest
    refine ⟨fun k' w' hmem => ?_, fun k' hk' => hkeys k' ?_⟩
    · rcases hvalues k' w' hmem with hacc | ⟨v', hv', hw'⟩
      · rcases Entries.eq_or_mem_of_mem_put hacc with heq | hacc
        · obtain ⟨rfl, rfl⟩ := Prod.mk.inj heq
          exact Or.inr ⟨v, List.mem_cons_self, hw⟩
        · exact Or.inl hacc
      · exact Or.inr ⟨v', List.mem_cons_of_mem _ hv', hw'⟩
    · rcases hk' with hk' | hk'
      · exact Or.inl (Entries.mem_keys_put (Or.inr hk'))
      · rcases List.mem_cons.1 hk' with rfl | hk'
        · exact Or.inl (Entries.mem_keys_put (Or.inl rfl))
        · exact Or.inr hk'

/-- An array that does not nest too deep has the values of its items. -/
theorem exists_of_toValue?_array {vs : List Value} {w : Value}
    (h : ((Value.array vs).tree.cut levels).toValue? = some w) :
    ∃ n ws, w = .array ws ∧
      List.Forall₂ (fun v w => (v.tree.cut n).toValue? = some w) vs ws := by
  cases levels with
  | zero =>
    simp only [tree, Tree.cut] at h
    split at h <;> cases h
  | succ n =>
    obtain ⟨ws, hws, rfl⟩ := Option.map_eq_some_iff.1 h
    exact ⟨n, ws, rfl, toValue?_itemTrees hws⟩

theorem exists_of_toValue?_object {ms : Object} {w : Value}
    (h : ((Value.object ms).tree.cut levels).toValue? = some w) :
    ∃ n ns, w = .object ns ∧
      (∀ k w, (k, w) ∈ ns → ∃ v, (k, v) ∈ ms ∧ (v.tree.cut n).toValue? = some w) ∧
      ∀ k v, (k, v) ∈ ms → k ∈ Entries.keys ns := by
  cases levels with
  | zero =>
    simp only [tree, Tree.cut] at h
    split at h <;> cases h
  | succ n =>
    obtain ⟨ns, hns, rfl⟩ := Option.map_eq_some_iff.1 h
    obtain ⟨hvalues, hkeys⟩ := toValue?_memberTrees hns
    exact ⟨n, ns, rfl, fun k w hmem => (hvalues k w hmem).resolve_left List.not_mem_nil,
      fun k v hmem => hkeys k (Or.inr (Entries.mem_keys_of_mem hmem))⟩

/-- The members of the tree of an object are its members. -/
theorem mem_ofValue_goMembers {ms : Object} {key? : Option String} {t : Tree} :
    (key?, t) ∈ Tree.ofValue.goMembers ms ↔
      ∃ k v, key? = some k ∧ t = .ofValue v ∧ (k, v) ∈ ms := by
  induction ms with
  | nil => simp [Tree.ofValue.goMembers]
  | cons m ms ih =>
    obtain ⟨k, v⟩ := m
    rw [Tree.ofValue.goMembers, List.mem_cons, ih]
    constructor
    · rintro (heq | ⟨l, w, rfl, rfl, hmem⟩)
      · obtain ⟨rfl, rfl⟩ := Prod.mk.inj heq
        exact ⟨k, v, rfl, rfl, List.mem_cons_self⟩
      · exact ⟨l, w, rfl, rfl, List.mem_cons_of_mem _ hmem⟩
    · rintro ⟨l, w, rfl, rfl, hmem⟩
      rcases List.mem_cons.1 hmem with heq | hmem
      · obtain ⟨rfl, rfl⟩ := Prod.mk.inj heq
        exact Or.inl rfl
      · exact Or.inr ⟨l, w, rfl, rfl, hmem⟩

end Value

/-- A field that has its value from the members that were read has it from those that were
written. -/
theorem Field.Takes.recovers {α : Type} {f : Field α} {a : α} {n : ℕ} {ms ns : Object}
    (h : f.Takes (Tree.ofValue.goMembers ns) a)
    (hvalues : ∀ k w, (k, w) ∈ ns → ∃ v, (k, v) ∈ ms ∧ (v.tree.cut n).toValue? = some w)
    (hkeys : ∀ k v, (k, v) ∈ ms → k ∈ Entries.keys ns) : f.Recovers ms a := by
  obtain ⟨t, ht, hd⟩ | ⟨hnone, habsent⟩ := h
  · obtain ⟨k, w, hk, rfl, hmem⟩ := Value.mem_ofValue_goMembers.1 ht
    obtain rfl := Option.some.inj hk
    obtain ⟨v, hv, hw⟩ := hvalues _ w hmem
    exact Or.inl ⟨v, hv, n, w, hw, hd⟩
  · refine Or.inr ⟨fun v hv => ?_, habsent⟩
    obtain ⟨e, he, hname⟩ := List.mem_map.1 (hkeys _ v hv)
    exact hnone _ (Value.mem_ofValue_goMembers.2 ⟨f.name, e.2, rfl, rfl, hname ▸ he⟩)

namespace Decoder.Recovers

variable {α : Type} {a : α} {d : Decoder α}

/-- A decoder that goes on after another one recovers what follows from what that one recovers. -/
theorem of_bind {β : Type} {f : α → Except DecodeError β} {v : Value} {b : β}
    (h : Decoder.Recovers (fun t => d t >>= f) v b) : ∃ a, d.Recovers v a ∧ f a = .ok b := by
  obtain ⟨levels, w, hw, hd⟩ := h
  obtain ⟨a, ha, hb⟩ := exists_of_bind_eq_ok hd
  exact ⟨a, ⟨levels, w, hw, ha⟩, hb⟩

/-- A string is recovered as it is. -/
theorem string {s s' : String} (h : Decoder.string.Recovers (.string s) s') : s' = s := by
  obtain ⟨levels, w, hw, hd⟩ := h
  obtain rfl := Option.some.inj hw
  exact (Except.ok.inj hd).symm

theorem of_mapM {n : ℕ} {vs ws : List Value}
    (hws : List.Forall₂ (fun v w => (v.tree.cut n).toValue? = some w) vs ws) {as : List α}
    (h : (Tree.ofValue.go ws).mapM d = .ok as) : List.Forall₂ d.Recovers vs as := by
  induction hws generalizing as with
  | nil =>
    obtain rfl := Except.ok.inj h
    exact .nil
  | cons hv _ ih =>
    rw [Tree.ofValue.go, List.mapM_cons] at h
    obtain ⟨a, ha, hrest⟩ := exists_of_bind_eq_ok h
    obtain ⟨as', has, heq⟩ := exists_of_bind_eq_ok hrest
    obtain rfl := Except.ok.inj heq
    exact .cons ⟨n, _, hv, ha⟩ (ih has)

/-- The items of an array are recovered one by one. -/
theorem list {vs : List Value} {as : List α} (h : (Decoder.list d).Recovers (.array vs) as) :
    List.Forall₂ d.Recovers vs as := by
  obtain ⟨levels, w, hw, hd⟩ := h
  obtain ⟨n, ws, rfl, hws⟩ := Value.exists_of_toValue?_array hw
  obtain ⟨as', has, heq⟩ := exists_of_bind_eq_ok hd
  rw [← Except.ok.inj heq]
  exact of_mapM hws has

/-- The fields of a record are recovered from the members of an object. -/
theorem record {type : String} {αs : List Type} {fs : Fields αs} (hnames : fs.names.Nodup)
    {members : Object} {r : Tuple αs}
    (h : (Decoder.record type fs).Recovers (.object members) r) : fs.Recovers members r := by
  obtain ⟨levels, w, hw, hd⟩ := h
  obtain ⟨n, ns, rfl, hvalues, hkeys⟩ := Value.exists_of_toValue?_object hw
  have htakes := takes_of_record hnames hd
  -- on the fields; the members stay the same
  clear hd hnames
  induction fs with
  | nil => trivial
  | cons f fs ih => exact ⟨htakes.1.recovers hvalues hkeys, ih htakes.2⟩

/-- What is not null is recovered, if anything is. -/
theorem nullable {v : Value} (hv : v ≠ .null) {a? : Option α}
    (h : (Decoder.nullable d).Recovers v a?) : ∃ a, a? = some a ∧ d.Recovers v a := by
  obtain ⟨levels, w, hw, hd⟩ := h
  -- only the text of a null is read as one
  have hne : w ≠ .null := by
    rintro rfl
    cases v with
    | null => exact hv rfl
    | bool b => cases hw
    | string s => cases hw
    | number n =>
      rw [Value.tree, Number.tree] at hw
      cases hread : (NumberLiteral.read n.chars).bind fun l => l.1.number? with
      | none =>
        rw [hread] at hw
        cases hw
      | some m =>
        rw [hread] at hw
        cases hw
    | array vs =>
      obtain ⟨n, ws, ⟨⟩, -⟩ := Value.exists_of_toValue?_array hw
    | object ms =>
      obtain ⟨n, ns, ⟨⟩, -⟩ := Value.exists_of_toValue?_object hw
  have hsome : (do return some (← d (.ofValue w)) : Except DecodeError (Option α)) = .ok a? := by
    cases w with
    | null => exact absurd rfl hne
    | _ => exact hd
  obtain ⟨a, ha, heq⟩ := exists_of_bind_eq_ok hsome
  exact ⟨a, (Except.ok.inj heq).symm, levels, w, hw, ha⟩

end Decoder.Recovers

namespace Field

variable {α : Type} {name : String} {d : Decoder α} {members : Object}

/-- A field that is required is recovered from a member. -/
theorem recovers_required {a : α} (h : (Field.required name d).Recovers members a) :
    ∃ v, (name, v) ∈ members ∧ d.Recovers v a := by
  obtain hmember | ⟨-, ⟨⟩⟩ := h
  exact hmember

/-- A field that may be left out is recovered from a member, or has no value. -/
theorem recovers_optional {a? : Option α} (h : (Field.optional name d).Recovers members a?) :
    (∃ v, (name, v) ∈ members ∧ (Decoder.nullable d).Recovers v a?) ∨
      (∀ v, (name, v) ∉ members) ∧ a? = none := by
  obtain hmember | ⟨hnone, heq⟩ := h
  · exact Or.inl hmember
  · exact Or.inr ⟨hnone, (Option.some.inj heq).symm⟩

end Field

end CustomFields.Json
