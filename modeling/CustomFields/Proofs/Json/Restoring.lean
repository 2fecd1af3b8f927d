import CustomFields.Proofs.Json.Decoder
import CustomFields.Proofs.Json.Kept

/-!
# Decoders that restore what was written

A document is read from its text in one of two ways. A decoder follows the text, so that it meets
the members of objects as they were written; or the text is read as a value of free form first,
which puts the members in the order of their keys, and is decoded then. To a decoder of records
the order does not matter, as long as each member has a key of its own.

Both ways are covered at once: a decoder restores what was written as a value if it decodes it from
this value in every arrangement of the members. How a record restores its fields is said by
following the fields in the order of their declaration: each one has a member, or it is left out
and has the value that stands for a missing one.

## Main definitions

* `Rearranges`: a function that puts the members of objects in another order
* `Decoder.Restores`: a decoder reads back what was written
* `Fields.Written`: the members that a record is written as

## Main results

* `Decoder.Restores.record`: a record restores its fields
* `Decoder.Restores.eq_ok_of_readTree`, `Decoder.Restores.eq_ok_of_parse?`: what is restored is
  read from the compact text, in both ways
-/

namespace CustomFields.Json

/-- The values with the members of their objects in another order. What is in order stays. -/
structure Rearranges (ρ : Value → Value) : Prop where
  array (items : List Value) : ρ (.array items) = .array (items.map ρ)
  object {members : Object} (distinct : (Entries.keys members).Nodup) :
    ∃ ms, ρ (.object members) = .object ms ∧ ms.Perm (members.map fun m => (m.1, ρ m.2))
  inOrder {v : Value} (h : v.InOrder) : ρ v = v

theorem rearranges_id : Rearranges id where
  array items := by rw [List.map_id]; rfl
  object {members} _ := ⟨members, rfl, by simp⟩
  inOrder _ := rfl

theorem rearranges_ordered : Rearranges Value.ordered where
  array items := by rw [Value.ordered, Value.ordered_items]
  object {members} distinct := by
    refine ⟨_, by rw [Value.ordered], ?_⟩
    rw [Value.ordered_members]
    apply Entries.ofBindings_perm
    simpa [Entries.keys, Function.comp_def] using distinct
  inOrder h := h.ordered_eq

/-- A decoder reads what was written as a value, in whatever order the members are. -/
def Decoder.Restores {α : Type} (d : Decoder α) (v : Value) (a : α) : Prop :=
  ∀ ρ, Rearranges ρ → d (.ofValue (ρ v)) = .ok a

/-! ## Single values -/

namespace Decoder.Restores

variable {α : Type} {d : Decoder α} {v : Value} {a : α}

/-- What is in order is decoded as it is. -/
theorem of_inOrder (hv : v.InOrder) (h : d (.ofValue v) = .ok a) : d.Restores v a := by
  intro ρ hρ
  rw [hρ.inOrder hv, h]

theorem string (s : String) : Decoder.string.Restores (.string s) s :=
  of_inOrder (.string s) rfl

theorem bool (b : Bool) : Decoder.bool.Restores (.bool b) b :=
  of_inOrder (.bool b) rfl

theorem ofText {form s : String} {read? : String → Option α} (h : read? s = some a) :
    (Decoder.ofText form read?).Restores (.string s) a := by
  apply of_inOrder (.string s)
  have hs : Decoder.string (.ofValue (.string s)) = .ok s := rfl
  simp only [Decoder.ofText, hs, bind, Except.bind, h]
  rfl

/-- One of several names is restored from the name. -/
theorem oneOf {variants : List (String × α)} {name : String}
    (h : Entries.get? name variants = some a) :
    (Decoder.oneOf variants).Restores (.string name) a := by
  apply of_inOrder (.string name)
  simp only [Decoder.oneOf, Decoder.oneOfWith, Tree.ofValue, h]
  rfl

/-- The members of an object of free form that is in order are decoded as they are. -/
theorem mapM_members {members : Object} (h : ∀ k v, (k, v) ∈ members → v.InOrder) :
    (Tree.ofValue.goMembers members).mapM (fun (key?, t) =>
      match key? with
      | none => throw DecodeError.broken
      | some key => do return (key, ← Decoder.value t)) = .ok members := by
  induction members with
  | nil => rfl
  | cons m ms ih =>
    have hm : (Tree.ofValue m.2).toValue? = some m.2 := by
      rw [Value.toValue?_ofValue, (h m.1 m.2 List.mem_cons_self).ordered_eq]
    rw [Tree.ofValue.goMembers, List.mapM_cons,
      ih fun k v hmem => h k v (List.mem_cons_of_mem m hmem)]
    simp only [Decoder.value, hm]
    rfl

/-- An object of free form that is in order is restored. -/
theorem object {members : Object} (h : (Value.object members).InOrder) :
    Decoder.object.Restores (.object members) members := by
  apply of_inOrder h
  cases h with
  | object sorted inOrder =>
    have hread := congrArg (· >>= fun bindings => Except.ok (Entries.ofBindings bindings))
      (mapM_members inOrder)
    exact hread.trans (congrArg Except.ok (Entries.ofBindings_of_sorted sorted))

theorem bind {β : Type} {f : α → Except DecodeError β} {b : β} (h : d.Restores v a)
    (hf : f a = .ok b) : Decoder.Restores (fun t => d t >>= f) v b := by
  intro ρ hρ
  show d (.ofValue (ρ v)) >>= f = .ok b
  rw [h ρ hρ]
  exact hf

/-- What may be null is restored by a decoder that does not take a null. -/
theorem nullable (h : d.Restores v a) (hnull : ∀ a, d .null ≠ .ok a) :
    (Decoder.nullable d).Restores v (some a) := by
  intro ρ hρ
  have hd := h ρ hρ
  unfold Decoder.nullable
  split
  · rename_i heq
    rw [heq] at hd
    exact absurd hd (hnull a)
  · rw [hd]
    rfl

/-- A list is restored item by item. -/
theorem list {f : α → Value} {as : List α} (h : ∀ a ∈ as, d.Restores (f a) a) :
    (Decoder.list d).Restores (.array (as.map f)) as := by
  intro ρ hρ
  have hitems : (Tree.ofValue.go ((as.map f).map ρ)).mapM d = .ok as := by
    induction as with
    | nil => rfl
    | cons a as ih =>
      obtain ⟨ha, has⟩ := List.forall_mem_cons.1 h
      simp only [List.map_cons, Tree.ofValue.go, List.mapM_cons]
      rw [ha ρ hρ, ih has]
      rfl
  rw [hρ.array]
  show (List.mapM d _ >>= fun as => Except.ok as) = _
  rw [hitems]
  rfl

end Decoder.Restores

/-! ## Records -/

namespace Fields

/-- The members that a record is written as, in the order of its fields. -/
inductive Written : {αs : List Type} → Fields αs → Tuple αs → Object → Prop
  | nil : Written .nil () []
  | member {α : Type} {αs : List Type} {f : Field α} {fs : Fields αs} {a : α} {r : Tuple αs}
    {v : Value} {members : Object} (restores : f.decode.Restores v a)
    (rest : Written fs r members) : Written (.cons f fs) (a, r) ((f.name, v) :: members)
  | leftOut {α : Type} {αs : List Type} {f : Field α} {fs : Fields αs} {a : α} {r : Tuple αs}
    {members : Object} (absent : f.whenAbsent = some a)
    (rest : Written fs r members) : Written (.cons f fs) (a, r) members

/-- A member with a key is decoded to the value of the field with this name. -/
def Reads (key : String) (t : Tree) : {αs : List Type} → Fields αs → Tuple αs → Prop
  | _, .nil, () => False
  | _, .cons f fs, (a, as) => if f.name = key then f.decode t = .ok a else fs.Reads key t as

/-- The slots of a record of which the fields with some keys have been met. -/
def slotsOf (met : List String) : {αs : List Type} → Fields αs → Tuple αs → Slots αs
  | _, .nil, () => ()
  | _, .cons f fs, (a, as) => (if f.name ∈ met then some a else none, fs.slotsOf met as)

section

variable {αs : List Type} {fs : Fields αs} {r : Tuple αs} {members : Object}

theorem Written.keys_sublist (h : fs.Written r members) :
    (Entries.keys members).Sublist fs.names := by
  induction h with
  | nil => exact .slnil
  | member _ _ ih => exact ih.cons_cons _
  | leftOut _ _ ih => exact ih.cons _

theorem Written.reads (h : fs.Written r members) (hnames : fs.names.Nodup) {ρ : Value → Value}
    (hρ : Rearranges ρ) {key : String} {v : Value} (hmem : (key, v) ∈ members) :
    fs.Reads key (.ofValue (ρ v)) r := by
  induction h with
  | nil => cases hmem
  | @member _ _ f fs a r w members restores rest ih =>
    obtain ⟨hfirst, hrest⟩ := List.nodup_cons.1 hnames
    rcases List.mem_cons.1 hmem with heq | hmem
    · obtain ⟨rfl, rfl⟩ := Prod.mk.inj heq
      rw [Reads, if_pos rfl]
      exact restores ρ hρ
    · have hkey := rest.keys_sublist.subset (Entries.mem_keys_of_mem hmem)
      have hne : f.name ≠ key := by
        rintro rfl
        exact hfirst hkey
      rw [Reads, if_neg hne]
      exact ih hrest hmem
  | @leftOut _ _ f fs a r members absent rest ih =>
    obtain ⟨hfirst, hrest⟩ := List.nodup_cons.1 hnames
    have hkey := rest.keys_sublist.subset (Entries.mem_keys_of_mem hmem)
    have hne : f.name ≠ key := by
      rintro rfl
      exact hfirst hkey
    rw [Reads, if_neg hne]
    exact ih hrest hmem

/-- A member that is left out where there is no value. -/
theorem Written.memberIf {α : Type} {f : Field α} {a : α} {v? : Option Value}
    (restores : ∀ v ∈ v?, f.decode.Restores v a) (absent : v? = none → f.whenAbsent = some a)
    (rest : fs.Written r members) :
    Written (.cons f fs) (a, r) (memberIf f.name v? ++ members) := by
  cases v? with
  | none => exact .leftOut (absent rfl) rest
  | some v => exact .member (restores v rfl) rest

theorem slotsOf_nil (fs : Fields αs) (r : Tuple αs) : fs.slotsOf [] r = fs.emptySlots := by
  induction fs with
  | nil => rfl
  | cons f fs ih =>
    rw [slotsOf, emptySlots, ih, if_neg List.not_mem_nil]

theorem slotsOf_append_of_not_mem {met : List String} {key : String} (h : key ∉ fs.names) :
    fs.slotsOf (met ++ [key]) r = fs.slotsOf met r := by
  induction fs with
  | nil => rfl
  | cons f fs ih =>
    obtain ⟨hne, hrest⟩ := not_or.1 (List.mem_cons.not.1 h)
    rw [slotsOf, slotsOf, ih hrest]
    simp [Ne.symm hne]

/-- A member that is met for the first time fills the slot of its name. -/
theorem visit_slotsOf {met : List String} {key : String} {t : Tree} (hnames : fs.names.Nodup)
    (hnew : key ∉ met) (h : fs.Reads key t r) :
    fs.visit key t (fs.slotsOf met r) = .ok (fs.slotsOf (met ++ [key]) r) := by
  induction fs with
  | nil => cases h
  | cons f fs ih =>
    obtain ⟨hfirst, hrest⟩ := List.nodup_cons.1 hnames
    obtain ⟨a, as⟩ := r
    rw [Reads] at h
    rw [slotsOf, slotsOf]
    unfold visit
    by_cases hname : f.name = key
    · subst hname
      rw [if_pos rfl] at h
      rw [if_pos rfl, if_neg hnew, if_pos (List.mem_append_right _ List.mem_cons_self),
        slotsOf_append_of_not_mem hfirst]
      show (f.decode t >>= fun a => pure (some a, fs.slotsOf met as)) = _
      rw [h]
      rfl
    · rw [if_neg hname] at h
      have hmet : f.name ∈ met ++ [key] ↔ f.name ∈ met := by simp [hname]
      rw [if_neg hname, ih hrest h]
      simp only [hmet]
      rfl

/-- The members of an object fill the slots of their names, in whatever order they come. -/
theorem foldlM_visit (hnames : fs.names.Nodup) (hkeys : (Entries.keys members).Nodup)
    (h : ∀ k v, (k, v) ∈ members → fs.Reads k (.ofValue v) r) :
    (Tree.ofValue.goMembers members).foldlM (fun slots (key?, t) =>
        match key? with
        | none => throw DecodeError.broken
        | some key => fs.visit key t slots) fs.emptySlots =
      .ok (fs.slotsOf (Entries.keys members) r) := by
  -- on the last member, which meets a key that the others do not have
  rw [Value.ofValue_members]
  induction members using List.reverseRecOn with
  | nil => exact congrArg Except.ok (slotsOf_nil fs r).symm
  | append_singleton members m ih =>
    rw [Entries.keys, List.map_append] at hkeys ⊢
    obtain ⟨hn, -, hdisjoint⟩ := List.nodup_append.1 hkeys
    have hnew : m.1 ∉ Entries.keys members :=
      fun hm => hdisjoint m.1 hm m.1 List.mem_cons_self rfl
    have hreads := h m.1 m.2 (List.mem_append_right _ List.mem_cons_self)
    rw [List.map_append, List.foldlM_append,
      ih hn fun k v hmem => h k v (List.mem_append_left _ hmem)]
    show (fs.visit m.1 (.ofValue m.2) (fs.slotsOf (Entries.keys members) r) >>= pure) = _
    rw [visit_slotsOf hnames hnew hreads]
    rfl

/-- What has not been met has the value that stands for a missing one. -/
theorem Written.finish (h : fs.Written r members) {met : List String}
    (hmet : ∀ k ∈ Entries.keys members, k ∈ met) : fs.finish (fs.slotsOf met r) = .ok r := by
  induction h with
  | nil => rfl
  | @member _ _ f fs a r v members _ _ ih =>
    rw [slotsOf, Fields.finish, if_pos (hmet _ List.mem_cons_self),
      ih fun k hk => hmet k (List.mem_cons_of_mem _ hk)]
    rfl
  | @leftOut _ _ f fs a r members absent _ ih =>
    have hslot : (if f.name ∈ met then some a else none).or f.whenAbsent = some a := by
      rw [absent]
      split <;> rfl
    rw [slotsOf, Fields.finish, hslot, ih hmet]
    rfl

end

end Fields

/-- **A record restores its fields.** -/
theorem Decoder.Restores.record {type : String} {αs : List Type} {fs : Fields αs} {r : Tuple αs}
    {members : Object} (hnames : fs.names.Nodup) (h : fs.Written r members) :
    (Decoder.record type fs).Restores (.object members) r := by
  intro ρ hρ
  have hkeys : (Entries.keys members).Nodup := h.keys_sublist.nodup hnames
  obtain ⟨ms, heq, hperm⟩ := hρ.object hkeys
  have hsame : (Entries.keys ms).Perm (Entries.keys members) := by
    simpa [Entries.keys, Function.comp_def] using hperm.map Prod.fst
  have hreads : ∀ k v, (k, v) ∈ ms → fs.Reads k (.ofValue v) r := by
    intro k v hmem
    obtain ⟨m, hm, heq⟩ := List.mem_map.1 (hperm.mem_iff.1 hmem)
    obtain ⟨rfl, rfl⟩ := Prod.mk.inj heq
    exact h.reads hnames hρ hm
  have hfold := Fields.foldlM_visit hnames (hsame.nodup_iff.2 hkeys) hreads
  rw [heq]
  exact (congrArg (· >>= fs.finish) hfold).trans (h.finish fun k hk => hsame.mem_iff.2 hk)

/-- What is made of the fields of a record is restored with them. -/
theorem Decoder.Restores.of_record {type : String} {αs : List Type} {fs : Fields αs}
    {members : Object} {β : Type} {f : Tuple αs → Except DecodeError β} {b : β} (r : Tuple αs)
    (hnames : fs.names.Nodup) (h : fs.Written r members) (hf : f r = .ok b) :
    Decoder.Restores (fun t => Decoder.record type fs t >>= f) (.object members) b :=
  (record hnames h).bind hf

/-! ## Reading texts -/

namespace Decoder.Restores

variable {α : Type} {d : Decoder α} {v : Value} {a : α}

/-- What a value with the numbers of its text restores is read from the compact text as it is met
there. -/
theorem eq_ok_of_readTree (h : d.Restores v.reread a) (hproper : v.NumbersProper)
    (hnesting : v.nesting ≤ Tree.maxNesting) :
    (readTree v.compact.toList).2 = some [] ∧ d (readTree v.compact.toList).1 = .ok a := by
  rw [Value.readTree_compact hproper hnesting]
  exact ⟨rfl, h id rearranges_id⟩

/-- It is read from the value of the compact text too. -/
theorem eq_ok_of_parse? (h : d.Restores v.reread a) (hproper : v.NumbersProper)
    (hnesting : v.nesting ≤ Tree.maxNesting) :
    ∃ w, Value.parse? v.compact = some w ∧ d (.ofValue w) = .ok a :=
  ⟨v.reread.ordered, Value.parse?_compact_of_numbersProper hproper hnesting, h _ rearranges_ordered⟩

end Decoder.Restores

end CustomFields.Json
