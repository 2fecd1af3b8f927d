import CustomFields.Proofs.Json.Decoder
import CustomFields.Proofs.Json.Kept

/-!
# What is decoded from a text

A text is read up to some number of levels, and what lies deeper is cut off. So what a decoder takes
out of it as a value of free form lies some levels below the top and has no more levels than are left
there; its numbers are those of literals; and it is in order, because its members are put in their
place one after the other. All this is what a value needs to be read again when it is written in the
same place.

A record is read from an object or from a row. Either way each of its fields has its value from a part
of the tree, with fewer levels than the whole, or it has the value that stands where there is none.

## Main definitions

* `Tree.nesting`, `Tree.NumbersProper`: the levels and the numbers of a tree
* `Tree.IsRead`: a tree that has been read, some levels of it
* `Value.IsDecoded`: a value in order with proper numbers and no more than some number of levels
* `Fields.AreFrom`: the fields of a record have their values from some trees

## Main results

* `isRead_readTree`: a text is read up to the number of levels that is allowed
* `Tree.isDecoded_of_toValue?`, `Decoder.isDecoded_of_object`: values of free form
* `Decoder.areFrom_of_record`: the fields of a record
-/

namespace CustomFields.Json

/-! ## Levels of a tree -/

namespace Tree

/-- How many levels of containers a tree has. -/
def nesting : Tree → ℕ
  | .array items _ => ofItems items + 1
  | .object members _ => ofMembers members + 1
  | _ => 0
where
  ofItems : List Tree → ℕ
    | [] => 0
    | t :: ts => max t.nesting (ofItems ts)
  ofMembers : List (Option String × Tree) → ℕ
    | [] => 0
    | (_, t) :: ms => max t.nesting (ofMembers ms)

mutual

/-- What is cut nests no deeper than allowed. -/
theorem nesting_cut (levels : ℕ) (t : Tree) : (t.cut levels).nesting ≤ levels := by
  match t, levels with
  | .null, _ | .bool _, _ | .number _, _ | .string _, _ | .unreadable, _ | .broken, _ =>
    exact Nat.zero_le _
  | .array items complete, 0 =>
    rw [cut]
    split <;> exact le_rfl
  | .array items complete, levels + 1 =>
    rw [cut, nesting]
    exact Nat.succ_le_succ (nesting_cut_items levels items)
  | .object members complete, 0 =>
    rw [cut]
    split <;> exact le_rfl
  | .object members complete, levels + 1 =>
    rw [cut, nesting]
    exact Nat.succ_le_succ (nesting_cut_members levels members)

theorem nesting_cut_items (levels : ℕ) (ts : List Tree) :
    nesting.ofItems (cut.go levels ts) ≤ levels := by
  match ts with
  | [] => exact Nat.zero_le _
  | t :: ts => exact max_le (nesting_cut levels t) (nesting_cut_items levels ts)

theorem nesting_cut_members (levels : ℕ) (ms : List (Option String × Tree)) :
    nesting.ofMembers (cut.goMembers levels ms) ≤ levels := by
  match ms with
  | [] => exact Nat.zero_le _
  | (_, t) :: ms => exact max_le (nesting_cut levels t) (nesting_cut_members levels ms)

end

theorem nesting_le_of_mem_items {t : Tree} {ts : List Tree} (h : t ∈ ts) :
    t.nesting ≤ nesting.ofItems ts := by
  induction ts with
  | nil => cases h
  | cons u us ih =>
    rcases List.mem_cons.1 h with rfl | h
    · exact le_max_left _ _
    · exact (ih h).trans (le_max_right _ _)

theorem nesting_le_of_mem_members {m : Option String × Tree} {ms : List (Option String × Tree)}
    (h : m ∈ ms) : m.2.nesting ≤ nesting.ofMembers ms := by
  induction ms with
  | nil => cases h
  | cons u us ih =>
    rcases List.mem_cons.1 h with rfl | h
    · exact le_max_left _ _
    · exact (ih h).trans (le_max_right _ _)

/-- The parts of a container. -/
def children : Tree → List Tree
  | .array items _ => items
  | .object members _ => members.map Prod.snd
  | _ => []

theorem nesting_lt_of_mem_children {t u : Tree} (h : u ∈ t.children) : u.nesting < t.nesting := by
  cases t with
  | array items complete => exact Nat.lt_succ_of_le (nesting_le_of_mem_items h)
  | object members complete =>
    obtain ⟨m, hm, rfl⟩ := List.mem_map.1 h
    exact Nat.lt_succ_of_le (nesting_le_of_mem_members hm)
  | _ => cases h

/-! ## Numbers of a tree -/

/-- All numbers of a tree are proper. -/
inductive NumbersProper : Tree → Prop
  | null : NumbersProper .null
  | bool (b : Bool) : NumbersProper (.bool b)
  | number {n : Number} (h : n.IsProper) : NumbersProper (.number n)
  | string (s : String) : NumbersProper (.string s)
  | array {items : List Tree} (complete : Bool) (h : ∀ t ∈ items, NumbersProper t) :
    NumbersProper (.array items complete)
  | object {members : List (Option String × Tree)} (complete : Bool)
    (h : ∀ m ∈ members, NumbersProper m.2) : NumbersProper (.object members complete)
  | unreadable : NumbersProper .unreadable
  | broken : NumbersProper .broken

theorem cut_items_eq (levels : ℕ) (ts : List Tree) : cut.go levels ts = ts.map (·.cut levels) := by
  induction ts with
  | nil => rfl
  | cons t ts ih => rw [cut.go, ih, List.map_cons]

theorem cut_members_eq (levels : ℕ) (ms : List (Option String × Tree)) :
    cut.goMembers levels ms = ms.map fun m => (m.1, m.2.cut levels) := by
  induction ms with
  | nil => rfl
  | cons m ms ih => rw [cut.goMembers, ih, List.map_cons]

/-- What is cut off takes its numbers along. -/
theorem NumbersProper.cut {t : Tree} (h : t.NumbersProper) (levels : ℕ) :
    (t.cut levels).NumbersProper := by
  induction h generalizing levels with
  | null => exact .null
  | bool b => exact .bool b
  | number h => exact .number h
  | string s => exact .string s
  | unreadable => exact .unreadable
  | broken => exact .broken
  | array complete _ ih =>
    cases levels with
    | zero =>
      rw [Tree.cut]
      split
      · exact .unreadable
      · exact .broken
    | succ levels =>
      rw [Tree.cut, cut_items_eq]
      exact .array complete (List.forall_mem_map.2 fun t ht => ih t ht levels)
  | object complete _ ih =>
    cases levels with
    | zero =>
      rw [Tree.cut]
      split
      · exact .unreadable
      · exact .broken
    | succ levels =>
      rw [Tree.cut, cut_members_eq]
      exact .object complete (List.forall_mem_map.2 fun m hm => ih m hm levels)

theorem NumbersProper.of_mem_children {t u : Tree} (h : t.NumbersProper) (hu : u ∈ t.children) :
    u.NumbersProper := by
  cases h with
  | array complete h => exact h u hu
  | object complete h =>
    obtain ⟨m, hm, rfl⟩ := List.mem_map.1 hu
    exact h m hm
  | _ => cases hu

theorem numbersProper_leaf {t : Tree} (h : t.NumbersProper) (rest : Option (List Char)) :
    (leaf t rest).1.NumbersProper := by
  cases rest with
  | none => exact .broken
  | some cs => exact h

/-- What is read with some fuel has the numbers of literals. -/
structure ReadsProper (fuel : ℕ) : Prop where
  value (cs : List Char) : (readValue fuel cs).1.NumbersProper
  items (cs : List Char) : ∀ t ∈ (readItems fuel cs).1, t.NumbersProper
  members (cs : List Char) : ∀ m ∈ (readMembers fuel cs).1, m.2.NumbersProper

section Step

variable {fuel : ℕ} (h : ReadsProper fuel)

include h

theorem ReadsProper.value_succ (cs : List Char) : (readValue (fuel + 1) cs).1.NumbersProper := by
  rw [readValue]
  split
  · exact .broken
  · exact numbersProper_leaf .null _
  · exact numbersProper_leaf (.bool true) _
  · exact numbersProper_leaf (.bool false) _
  · split
    · exact .broken
    · rename_i s rest _
      cases s with
      | none => exact .unreadable
      | some s => exact .string s
  · split
    · exact .array true (List.forall_mem_nil _)
    · exact .array _ (h.items _)
  · split
    · exact .object true (List.forall_mem_nil _)
    · exact .object _ (h.members _)
  · split
    · exact .broken
    · rename_i l rest _
      cases hl : l.number? with
      | none => exact .unreadable
      | some n => exact .number (NumberLiteral.isProper_of_number? hl)

theorem ReadsProper.items_succ (cs : List Char) :
    ∀ t ∈ (readItems (fuel + 1) cs).1, t.NumbersProper := by
  have hvalue := h.value cs
  rw [readItems]
  split
  · rename_i t heq
    rw [heq] at hvalue
    exact List.forall_mem_singleton.2 hvalue
  · rename_i t rest heq
    rw [heq] at hvalue
    split
    · exact List.forall_mem_singleton.2 hvalue
    · exact List.forall_mem_cons.2 ⟨hvalue, h.items _⟩
    · exact List.forall_mem_singleton.2 hvalue

theorem ReadsProper.members_succ (cs : List Char) :
    ∀ m ∈ (readMembers (fuel + 1) cs).1, m.2.NumbersProper := by
  rw [readMembers]
  split
  · split
    · exact List.forall_mem_nil _
    · split
      · rename_i rest _
        have hvalue := h.value rest
        split
        · rename_i t heq
          rw [heq] at hvalue
          exact List.forall_mem_singleton.2 hvalue
        · rename_i t rest' heq
          rw [heq] at hvalue
          split
          · exact List.forall_mem_singleton.2 hvalue
          · exact List.forall_mem_cons.2 ⟨hvalue, h.members _⟩
          · exact List.forall_mem_singleton.2 hvalue
      · exact List.forall_mem_singleton.2 .broken
  · exact List.forall_mem_nil _

end Step

theorem readsProper (fuel : ℕ) : ReadsProper fuel := by
  induction fuel with
  | zero => exact ⟨fun _ => .broken, fun _ => List.forall_mem_nil _, fun _ => List.forall_mem_nil _⟩
  | succ fuel ih => exact ⟨ih.value_succ, ih.items_succ, ih.members_succ⟩

/-! ## Trees that have been read -/

/-- A tree of no more than some number of levels, as it is read from a text. -/
structure IsRead (levels : ℕ) (t : Tree) : Prop where
  nesting_le : t.nesting ≤ levels
  numbersProper : t.NumbersProper

/-- The parts of a container lie one level deeper. -/
theorem IsRead.of_mem_children {levels : ℕ} {t u : Tree} (h : t.IsRead (levels + 1))
    (hu : u ∈ t.children) : u.IsRead levels :=
  ⟨Nat.le_of_lt_succ ((nesting_lt_of_mem_children hu).trans_le h.nesting_le),
    h.numbersProper.of_mem_children hu⟩

end Tree

/-- **A text is read up to the number of levels that is allowed.** -/
theorem isRead_readTree (cs : List Char) : (readTree cs).1.IsRead Tree.maxNesting := by
  have hproper := (Tree.readsProper (2 * cs.length + 2)).value cs
  exact ⟨Tree.nesting_cut _ _, hproper.cut Tree.maxNesting⟩

/-! ## Values of free form -/

namespace Value

theorem nesting_array_le {levels : ℕ} {items : List Value} :
    (Value.array items).nesting ≤ levels + 1 ↔ ∀ v ∈ items, v.nesting ≤ levels := by
  rw [nesting, Nat.add_le_add_iff_right]
  induction items with
  | nil => simp [nesting.ofItems]
  | cons v vs ih => rw [nesting.ofItems, max_le_iff, ih, List.forall_mem_cons]

theorem nesting_object_le {levels : ℕ} {members : Object} :
    (Value.object members).nesting ≤ levels + 1 ↔ ∀ m ∈ members, m.2.nesting ≤ levels := by
  rw [nesting, Nat.add_le_add_iff_right]
  induction members with
  | nil => simp [nesting.ofMembers]
  | cons m ms ih => rw [nesting.ofMembers, max_le_iff, ih, List.forall_mem_cons]

/-- A value of free form as it is decoded from a tree with some number of levels: it is in order, has
proper numbers and no more levels. -/
structure IsDecoded (levels : ℕ) (v : Value) : Prop where
  inOrder : v.InOrder
  nesting_le : v.nesting ≤ levels
  numbersProper : v.NumbersProper

theorem IsDecoded.mono {levels levels' : ℕ} {v : Value} (h : v.IsDecoded levels)
    (hle : levels ≤ levels') : v.IsDecoded levels' :=
  ⟨h.inOrder, h.nesting_le.trans hle, h.numbersProper⟩

theorem isDecoded_array {levels : ℕ} {items : List Value} (h : ∀ v ∈ items, v.IsDecoded levels) :
    (Value.array items).IsDecoded (levels + 1) :=
  ⟨.array fun v hv => (h v hv).inOrder, nesting_array_le.2 fun v hv => (h v hv).nesting_le,
    .array fun v hv => (h v hv).numbersProper⟩

/-- The members of an object of free form, as they are decoded. -/
structure AreDecoded (levels : ℕ) (members : Object) : Prop where
  sorted : (Entries.keys members).Pairwise (· < ·)
  each : ∀ k v, (k, v) ∈ members → v.IsDecoded levels

theorem areDecoded_nil (levels : ℕ) : AreDecoded levels [] :=
  ⟨List.Pairwise.nil, fun _ _ h => absurd h List.not_mem_nil⟩

theorem AreDecoded.put {levels : ℕ} {members : Object} (h : AreDecoded levels members) {key : String}
    {v : Value} (hv : v.IsDecoded levels) : AreDecoded levels (Entries.put key v members) :=
  ⟨Entries.sorted_put h.sorted,
    Entries.forall_mem_put (P := fun _ (w : Value) => w.IsDecoded levels) hv h.each⟩

theorem AreDecoded.object {levels : ℕ} {members : Object} (h : AreDecoded levels members) :
    (Value.object members).IsDecoded (levels + 1) :=
  ⟨.object h.sorted fun k v hmem => (h.each k v hmem).inOrder,
    nesting_object_le.2 fun m hm => (h.each m.1 m.2 hm).nesting_le,
    .object fun k v hmem => (h.each k v hmem).numbersProper⟩

theorem areDecoded_ofBindings {levels : ℕ} {bindings : Object}
    (h : ∀ b ∈ bindings, b.2.IsDecoded levels) : AreDecoded levels (Entries.ofBindings bindings) := by
  -- on the last binding, which is put to the others
  induction bindings using List.reverseRecOn with
  | nil => exact areDecoded_nil levels
  | append_singleton bindings b ih =>
    rw [Entries.ofBindings, List.foldl_append]
    have hbefore := ih fun b' hb' => h b' (List.mem_append_left _ hb')
    exact hbefore.put (h b (List.mem_append_right _ (List.mem_singleton_self b)))

end Value

open Value (IsDecoded AreDecoded)

namespace Tree

mutual

/-- **The value of a tree is in order, has proper numbers, and nests no deeper.** -/
theorem isDecoded_of_toValue? (t : Tree) (ht : t.NumbersProper) {v : Value}
    (h : t.toValue? = some v) : v.IsDecoded t.nesting := by
  match t with
  | .null =>
    obtain rfl := Option.some.inj h
    exact ⟨.null, le_rfl, .null⟩
  | .bool b =>
    obtain rfl := Option.some.inj h
    exact ⟨.bool b, le_rfl, .bool b⟩
  | .number n =>
    obtain rfl := Option.some.inj h
    cases ht with
    | number hn => exact ⟨.number n, le_rfl, .number hn⟩
  | .string s =>
    obtain rfl := Option.some.inj h
    exact ⟨.string s, le_rfl, .string s⟩
  | .array items complete =>
    rw [toValue?] at h
    split at h
    · obtain ⟨vs, hvs, rfl⟩ := Option.map_eq_some_iff.1 h
      exact Value.isDecoded_array
        (isDecoded_of_items items (fun t hmem => ht.of_mem_children hmem) hvs)
    · cases h
  | .object members complete =>
    rw [toValue?] at h
    split at h
    · obtain ⟨ms, hms, rfl⟩ := Option.map_eq_some_iff.1 h
      have hmembers : ∀ m ∈ members, m.2.NumbersProper := fun m hm =>
        ht.of_mem_children (List.mem_map_of_mem (f := Prod.snd) hm)
      exact (areDecoded_of_members members hmembers le_rfl (Value.areDecoded_nil _) hms).object
    · cases h
  | .unreadable | .broken => cases h

theorem isDecoded_of_items (ts : List Tree) (hts : ∀ t ∈ ts, t.NumbersProper) {vs : List Value}
    (h : toValue?.go ts = some vs) : ∀ v ∈ vs, v.IsDecoded (nesting.ofItems ts) := by
  match ts with
  | [] =>
    obtain rfl := Option.some.inj h
    exact fun v hv => absurd hv List.not_mem_nil
  | t :: ts =>
    obtain ⟨ht, hts⟩ := List.forall_mem_cons.1 hts
    obtain ⟨v, hv, hrest⟩ := Option.bind_eq_some_iff.1 h
    obtain ⟨vs', hvs, heq⟩ := Option.bind_eq_some_iff.1 hrest
    obtain rfl := Option.some.inj heq
    refine List.forall_mem_cons.2 ⟨?_, fun w hw => ?_⟩
    · exact (isDecoded_of_toValue? t ht hv).mono (le_max_left _ _)
    · exact (isDecoded_of_items ts hts hvs w hw).mono (le_max_right _ _)

theorem areDecoded_of_members (ms : List (Option String × Tree))
    (hms : ∀ m ∈ ms, m.2.NumbersProper) {levels : ℕ} {entries out : Object}
    (hle : nesting.ofMembers ms ≤ levels) (hentries : AreDecoded levels entries)
    (h : toValue?.goMembers ms entries = some out) : AreDecoded levels out := by
  match ms with
  | [] =>
    obtain rfl := Option.some.inj h
    exact hentries
  | (key?, t) :: ms =>
    obtain ⟨ht, hms⟩ := List.forall_mem_cons.1 hms
    obtain ⟨key, -, hrest⟩ := Option.bind_eq_some_iff.1 h
    obtain ⟨v, hv, hmembers⟩ := Option.bind_eq_some_iff.1 hrest
    obtain ⟨hfirst, hothers⟩ := max_le_iff.1 hle
    exact areDecoded_of_members ms hms hothers
      (hentries.put ((isDecoded_of_toValue? t ht hv).mono hfirst)) hmembers

end

end Tree

/-! ## Decoders -/

theorem exists_of_mem_mapM {ε α β : Type} {f : α → Except ε β} {as : List α} {bs : List β}
    (h : as.mapM f = .ok bs) {b : β} (hb : b ∈ bs) : ∃ a ∈ as, f a = .ok b := by
  induction as generalizing bs with
  | nil =>
    obtain rfl := Except.ok.inj h
    cases hb
  | cons a as ih =>
    rw [List.mapM_cons] at h
    obtain ⟨b', hb', hrest⟩ := exists_of_bind_eq_ok h
    obtain ⟨bs', hbs', heq⟩ := exists_of_bind_eq_ok hrest
    obtain rfl := Except.ok.inj heq
    rcases List.mem_cons.1 hb with rfl | hb
    · exact ⟨a, List.mem_cons_self, hb'⟩
    · obtain ⟨a', ha', hf⟩ := ih hbs' hb
      exact ⟨a', List.mem_cons_of_mem a ha', hf⟩

namespace Decoder

theorem isDecoded_of_value {t : Tree} (ht : t.NumbersProper) {v : Value}
    (h : Decoder.value t = .ok v) : v.IsDecoded t.nesting := by
  unfold Decoder.value at h
  split at h
  · rename_i w hw
    obtain rfl := Except.ok.inj h
    exact t.isDecoded_of_toValue? ht hw
  · cases h

theorem isDecoded_of_object {levels : ℕ} {t : Tree} (ht : t.IsRead levels) {members : Object}
    (h : Decoder.object t = .ok members) : (Value.object members).IsDecoded levels := by
  refine Value.IsDecoded.mono ?_ ht.nesting_le
  unfold Decoder.object Decoder.entries at h
  split at h
  · rename_i ms complete
    obtain ⟨bindings, hbindings, heq⟩ := exists_of_bind_eq_ok h
    split at heq
    · obtain rfl := Except.ok.inj heq
      refine (Value.areDecoded_ofBindings fun b hb => ?_).object
      obtain ⟨⟨key?, t⟩, hm, hdecode⟩ := exists_of_mem_mapM hbindings hb
      cases key? with
      | none => cases hdecode
      | some key =>
        obtain ⟨v, hv, heq⟩ := exists_of_bind_eq_ok hdecode
        obtain rfl := Except.ok.inj heq
        have hproper := ht.numbersProper.of_mem_children (List.mem_map_of_mem (f := Prod.snd) hm)
        exact (isDecoded_of_value hproper hv).mono (Tree.nesting_le_of_mem_members hm)
    · cases heq
  · rename_i t _
    obtain ⟨found, -, h⟩ := exists_of_bind_eq_ok h
    cases h

/-- Each item of a list is decoded from a part of the tree. -/
theorem exists_of_list {α : Type} {d : Decoder α} {t : Tree} {as : List α}
    (h : Decoder.list d t = .ok as) {a : α} (ha : a ∈ as) :
    ∃ u ∈ t.children, d u = .ok a := by
  unfold Decoder.list at h
  split at h
  · obtain ⟨xs, hxs, heq⟩ := exists_of_bind_eq_ok h
    split at heq
    · obtain rfl := Except.ok.inj heq
      obtain ⟨u, hu, hdecode⟩ := exists_of_mem_mapM hxs ha
      exact ⟨u, hu, hdecode⟩
    · cases heq
  · obtain ⟨found, -, h⟩ := exists_of_bind_eq_ok h
    cases h

theorem of_nullable {α : Type} {d : Decoder α} {t : Tree} {a : α}
    (h : Decoder.nullable d t = .ok (some a)) : d t = .ok a := by
  unfold Decoder.nullable at h
  split at h
  · cases Except.ok.inj h
  · obtain ⟨b, hb, heq⟩ := exists_of_bind_eq_ok h
    obtain rfl := Option.some.inj (Except.ok.inj heq)
    exact hb

end Decoder

/-! ## Records -/

/-- A field has its value from one of some trees, or the value that stands where there is none. -/
def Field.IsFrom {α : Type} (f : Field α) (trees : List Tree) (a : α) : Prop :=
  (∃ t ∈ trees, f.decode t = .ok a) ∨ f.whenAbsent = some a ∨ f.whenCutOff = some a

namespace Field

variable {α : Type} {name : String} {d : Decoder α} {t : Tree} {a : α}

theorem IsFrom.required (h : (required name d).IsFrom t.children a) :
    ∃ u ∈ t.children, d u = .ok a := by
  obtain h | ⟨⟨⟩⟩ | ⟨⟨⟩⟩ := h
  exact h

theorem IsFrom.withDefault {default : α} (h : (withDefault name d default).IsFrom t.children a) :
    (∃ u ∈ t.children, d u = .ok a) ∨ a = default := by
  obtain h | h | h := h
  · exact .inl h
  · exact .inr (Option.some.inj h).symm
  · exact .inr (Option.some.inj h).symm

theorem IsFrom.optional (h : (optional name d).IsFrom t.children (some a)) :
    ∃ u ∈ t.children, d u = .ok a := by
  obtain ⟨u, hu, hdecode⟩ | ⟨⟨⟩⟩ := IsFrom.withDefault h
  exact ⟨u, hu, Decoder.of_nullable hdecode⟩

end Field

/-- Each field of a record has its value from one of some trees, if it is there. -/
def Fields.AreFrom (trees : List Tree) : {αs : List Type} → Fields αs → Tuple αs → Prop
  | _, .nil, () => True
  | _, .cons f fs, (a, as) => f.IsFrom trees a ∧ fs.AreFrom trees as

namespace Fields

variable {αs : List Type} {fs : Fields αs} {record : Tuple αs}

theorem AreFrom.mono {trees trees' : List Tree} (h : fs.AreFrom trees record)
    (hsub : trees ⊆ trees') : fs.AreFrom trees' record := by
  induction fs with
  | nil => trivial
  | cons f fs ih =>
    exact ⟨h.1.imp_left fun ⟨t, ht, hdecode⟩ => ⟨t, hsub ht, hdecode⟩, ih h.2⟩

theorem Takes.areFrom {members : Members} (h : fs.Takes members record) :
    fs.AreFrom (members.map Prod.snd) record := by
  induction fs with
  | nil => trivial
  | cons f fs ih =>
    refine ⟨h.1.imp (fun ⟨t, ht, hdecode⟩ => ⟨t, ?_, hdecode⟩) fun h => Or.inl h.2, ih h.2⟩
    exact List.mem_map_of_mem (f := Prod.snd) ht

/-- A row has one item for each field, up to where it is cut off. -/
theorem areFrom_of_fromRow {type : String} {total place : ℕ} {complete : Bool} {items left : List Tree}
    (h : fs.fromRow type total complete place items = .ok (record, left)) :
    fs.AreFrom items record := by
  induction fs generalizing place items left with
  | nil => trivial
  | cons f fs ih =>
    cases items with
    | cons item items =>
      obtain ⟨a, ha, hrest⟩ := exists_of_bind_eq_ok h
      obtain ⟨⟨as, left'⟩, has, heq⟩ := exists_of_bind_eq_ok hrest
      obtain ⟨rfl, -⟩ := Prod.mk.inj (Except.ok.inj heq)
      exact ⟨Or.inl ⟨item, List.mem_cons_self, ha⟩,
        (ih has).mono fun t ht => List.mem_cons_of_mem item ht⟩
    | nil =>
      unfold fromRow at h
      split at h
      · cases h
      · cases hcut : f.whenCutOff with
        | none =>
          rw [hcut] at h
          cases h
        | some a =>
          rw [hcut] at h
          obtain ⟨⟨as, left'⟩, has, heq⟩ := exists_of_bind_eq_ok h
          obtain ⟨rfl, -⟩ := Prod.mk.inj (Except.ok.inj heq)
          exact ⟨Or.inr (Or.inr hcut), ih has⟩

end Fields

/-- **The fields of a decoded record have their values from the parts of its tree,** whether it is
written as an object or as a row. -/
theorem Decoder.areFrom_of_record {type : String} {αs : List Type} {fs : Fields αs}
    (hnames : fs.names.Nodup) {t : Tree} {record : Tuple αs}
    (h : Decoder.record type fs t = .ok record) : fs.AreFrom t.children record := by
  cases t with
  | object members complete => exact (takes_of_record hnames h).areFrom
  | array items complete =>
    obtain ⟨⟨as, left⟩, hrow, hrest⟩ := exists_of_bind_eq_ok h
    -- nothing may be left of a row behind the last field
    have hrecord : as = record := by
      dsimp only at hrest
      cases hleft : left.isEmpty <;> cases complete <;> rw [hleft] at hrest <;> cases hrest
      rfl
    exact hrecord ▸ Fields.areFrom_of_fromRow hrow
  | _ =>
    obtain ⟨found, -, h⟩ := exists_of_bind_eq_ok h
    cases h

end CustomFields.Json
