import CustomFields.Proofs.Data.Entries
import CustomFields.Proofs.Json.Literals

/-!
# Values that their texts keep

Reading the compact text of a value can change it in three ways. A number may be read as another
one, a container that lies too deep is lost, and where a value of free form is asked for, the
members of its objects are put in the order of their keys. Nothing else happens: a value whose numbers
are proper and that does not nest too deep is always read, as the value with the numbers that their
texts are read as. If its numbers are kept and its objects are in order, it is read as itself.

## Main definitions

* `Value.AllNumbers`, `Value.NumbersProper`, `Value.NumbersKept`: what holds of all numbers of a value
* `Value.reread`: a value with its numbers as they are read from their texts
* `Value.nesting`: how many levels of containers a value has
* `Value.ordered`, `Value.InOrder`: a value with its members in the order of their keys

## Main results

* `Value.readTree_compact`, `Value.parse?_compact_of_numbersProper`: what compact texts are read as
* `Value.NumbersKept.reread_eq`: kept numbers stay what they are
-/

namespace CustomFields.Json

/-! ## The numbers of a value -/

namespace Value

/-- All numbers of a value satisfy a condition. -/
inductive AllNumbers (P : Number → Prop) : Value → Prop
  | null : AllNumbers P .null
  | bool (b : Bool) : AllNumbers P (.bool b)
  | number {n : Number} (h : P n) : AllNumbers P (.number n)
  | string (s : String) : AllNumbers P (.string s)
  | array {items : List Value} (h : ∀ v ∈ items, AllNumbers P v) : AllNumbers P (.array items)
  | object {members : Object} (h : ∀ k v, (k, v) ∈ members → AllNumbers P v) :
    AllNumbers P (.object members)

/-- All numbers of a value are integers of 64 bits or finite binary64 numbers. -/
abbrev NumbersProper (v : Value) : Prop :=
  v.AllNumbers Number.IsProper

/-- All numbers of a value are kept. -/
abbrev NumbersKept (v : Value) : Prop :=
  v.AllNumbers Number.IsKept

namespace AllNumbers

variable {P : Number → Prop} {v : Value} {members : Object} {key : String}

theorem nil : AllNumbers P (.object []) :=
  .object fun _ _ h => absurd h List.not_mem_nil

theorem cons (hv : v.AllNumbers P) (h : (Value.object members).AllNumbers P) :
    (Value.object ((key, v) :: members)).AllNumbers P := by
  cases h with
  | object h =>
    refine .object fun k w hmem => ?_
    rcases List.mem_cons.1 hmem with heq | hmem
    · rw [(Prod.mk.inj heq).2]
      exact hv
    · exact h k w hmem

theorem memberIf {v? : Option Value} (hv : ∀ v ∈ v?, v.AllNumbers P)
    (h : (Value.object members).AllNumbers P) :
    (Value.object (memberIf key v? ++ members)).AllNumbers P := by
  cases v? with
  | none => exact h
  | some v => exact cons (hv v rfl) h

theorem map {α : Type} {f : α → Value} {as : List α} (h : ∀ a ∈ as, (f a).AllNumbers P) :
    (Value.array (as.map f)).AllNumbers P := by
  refine .array fun v hv => ?_
  obtain ⟨a, ha, rfl⟩ := List.mem_map.1 hv
  exact h a ha

theorem imp {Q : Number → Prop} (h : v.AllNumbers P) (himp : ∀ n, P n → Q n) :
    v.AllNumbers Q := by
  induction h with
  | null => exact .null
  | bool b => exact .bool b
  | string s => exact .string s
  | number h => exact .number (himp _ h)
  | array _ ih => exact .array ih
  | object _ ih => exact .object ih

end AllNumbers

theorem NumbersKept.numbersProper {v : Value} (h : v.NumbersKept) : v.NumbersProper :=
  h.imp fun _ => Number.IsKept.isProper

/-- Whether all numbers of a value pass a test. -/
def allNumbers (p : Number → Bool) : Value → Bool
  | .array items => ofItems p items
  | .object members => ofMembers p members
  | .number n => p n
  | .null | .bool _ | .string _ => true
where
  ofItems (p : Number → Bool) : List Value → Bool
    | [] => true
    | v :: vs => v.allNumbers p && ofItems p vs
  ofMembers (p : Number → Bool) : Object → Bool
    | [] => true
    | (_, v) :: ms => v.allNumbers p && ofMembers p ms

section Test

variable {p : Number → Bool}

theorem allNumbers_items {vs : List Value} :
    allNumbers.ofItems p vs = true ↔ ∀ v ∈ vs, v.allNumbers p = true := by
  induction vs with
  | nil => simp [allNumbers.ofItems]
  | cons v vs ih => rw [allNumbers.ofItems, Bool.and_eq_true, ih, List.forall_mem_cons]

theorem allNumbers_members {ms : Object} :
    allNumbers.ofMembers p ms = true ↔ ∀ k v, (k, v) ∈ ms → v.allNumbers p = true := by
  induction ms with
  | nil => simp [allNumbers.ofMembers]
  | cons m ms ih =>
    rw [allNumbers.ofMembers, Bool.and_eq_true, ih]
    constructor
    · rintro ⟨hm, hms⟩ k v hmem
      rcases List.mem_cons.1 hmem with rfl | hmem
      · exact hm
      · exact hms k v hmem
    · exact fun h => ⟨h m.1 m.2 List.mem_cons_self,
        fun k v hmem => h k v (List.mem_cons_of_mem m hmem)⟩

mutual

theorem allNumbers_of_test (v : Value) (h : v.allNumbers p = true) :
    v.AllNumbers fun n => p n = true := by
  match v with
  | .null => exact .null
  | .bool b => exact .bool b
  | .string s => exact .string s
  | .number n => exact .number h
  | .array items => exact .array (allNumbers_of_items items h)
  | .object members => exact .object (allNumbers_of_members members h)

theorem allNumbers_of_items (vs : List Value) (h : allNumbers.ofItems p vs = true) :
    ∀ v ∈ vs, v.AllNumbers fun n => p n = true := by
  match vs with
  | [] => exact fun v hv => absurd hv List.not_mem_nil
  | v :: vs =>
    obtain ⟨hv, hvs⟩ := Bool.and_eq_true_iff.1 h
    exact List.forall_mem_cons.2 ⟨allNumbers_of_test v hv, allNumbers_of_items vs hvs⟩

theorem allNumbers_of_members (ms : Object) (h : allNumbers.ofMembers p ms = true) :
    ∀ k v, (k, v) ∈ ms → v.AllNumbers fun n => p n = true := by
  match ms with
  | [] => exact fun k v hmem => absurd hmem List.not_mem_nil
  | (key, w) :: ms =>
    obtain ⟨hw, hms⟩ := Bool.and_eq_true_iff.1 h
    intro k v hmem
    rcases List.mem_cons.1 hmem with heq | hmem
    · rw [(Prod.mk.inj heq).2]
      exact allNumbers_of_test w hw
    · exact allNumbers_of_members ms hms k v hmem

end

/-- The test finds out whether all numbers of a value satisfy a condition. -/
theorem allNumbers_iff {v : Value} :
    v.allNumbers p = true ↔ v.AllNumbers fun n => p n = true := by
  refine ⟨allNumbers_of_test v, fun h => ?_⟩
  induction h with
  | null | bool | string => rfl
  | number h => exact h
  | array _ ih => exact allNumbers_items.2 ih
  | object _ ih => exact allNumbers_members.2 ih

end Test

instance (P : Number → Prop) [DecidablePred P] (v : Value) : Decidable (v.AllNumbers P) :=
  decidable_of_iff (v.allNumbers (fun n => decide (P n)) = true) <|
    allNumbers_iff.trans ⟨fun h => h.imp fun _ => of_decide_eq_true,
      fun h => h.imp fun _ => decide_eq_true⟩

/-! ## Numbers that are read again -/

/-- A value with its numbers as they are read from their texts. -/
def reread : Value → Value
  | .array items => .array (ofItems items)
  | .object members => .object (ofMembers members)
  | .null => .null
  | .bool b => .bool b
  | .number n => .number n.reread
  | .string s => .string s
where
  ofItems : List Value → List Value
    | [] => []
    | v :: vs => v.reread :: ofItems vs
  ofMembers : Object → Object
    | [] => []
    | (k, v) :: ms => (k, v.reread) :: ofMembers ms

theorem reread_items (vs : List Value) : reread.ofItems vs = vs.map reread := by
  induction vs with
  | nil => rfl
  | cons v vs ih => rw [reread.ofItems, ih, List.map_cons]

theorem reread_members (ms : Object) :
    reread.ofMembers ms = ms.map fun m => (m.1, m.2.reread) := by
  induction ms with
  | nil => rfl
  | cons m ms ih => rw [reread.ofMembers, ih, List.map_cons]

theorem keys_reread (ms : Object) : Entries.keys (reread.ofMembers ms) = Entries.keys ms := by
  rw [reread_members, Entries.keys, Entries.keys, List.map_map]
  rfl

/-- Kept numbers stay what they are. -/
theorem NumbersKept.reread_eq {v : Value} (h : v.NumbersKept) : v.reread = v := by
  induction h with
  | null | bool | string => rfl
  | number h => rw [reread, h.reread_eq]
  | array _ ih => rw [reread, reread_items, List.map_congr_left ih, List.map_id']
  | object _ ih =>
    rw [reread, reread_members,
      List.map_congr_left fun m hm => congrArg (m.1, ·) (ih m.1 m.2 hm), List.map_id']

theorem ofValue_members (ms : Object) :
    Tree.ofValue.goMembers ms = ms.map fun m => (some m.1, .ofValue m.2) := by
  induction ms with
  | nil => rfl
  | cons m ms ih => rw [Tree.ofValue.goMembers, ih, List.map_cons]

theorem itemTrees_of_forall {vs : List Value} (h : ∀ v ∈ vs, v.tree = .ofValue v.reread) :
    tree.itemTrees vs = Tree.ofValue.go (reread.ofItems vs) := by
  induction vs with
  | nil => rfl
  | cons v vs ih =>
    obtain ⟨hv, hvs⟩ := List.forall_mem_cons.1 h
    rw [tree.itemTrees, reread.ofItems, Tree.ofValue.go, hv, ih hvs]

theorem memberTrees_of_forall {ms : Object} (h : ∀ k v, (k, v) ∈ ms → v.tree = .ofValue v.reread) :
    tree.memberTrees ms = Tree.ofValue.goMembers (reread.ofMembers ms) := by
  induction ms with
  | nil => rfl
  | cons m ms ih =>
    rw [tree.memberTrees, reread.ofMembers, Tree.ofValue.goMembers, h m.1 m.2 List.mem_cons_self,
      ih fun k v hmem => h k v (List.mem_cons_of_mem m hmem)]

/-- A text whose numbers are proper is read as its value, with the numbers read again. -/
theorem NumbersProper.tree_eq {v : Value} (h : v.NumbersProper) : v.tree = .ofValue v.reread := by
  induction h with
  | null | bool | string => rfl
  | number h => exact Number.tree_of_isProper h
  | array _ ih => rw [tree, reread, Tree.ofValue, itemTrees_of_forall ih]
  | object _ ih => rw [tree, reread, Tree.ofValue, memberTrees_of_forall ih]

/-! ## Levels of a value -/

/-- How many levels of containers a value has. -/
def nesting : Value → ℕ
  | .array items => ofItems items + 1
  | .object members => ofMembers members + 1
  | .null | .bool _ | .number _ | .string _ => 0
where
  ofItems : List Value → ℕ
    | [] => 0
    | v :: vs => max v.nesting (ofItems vs)
  ofMembers : Object → ℕ
    | [] => 0
    | (_, v) :: ms => max v.nesting (ofMembers ms)

mutual

/-- Nothing is cut from a value that does not nest deeper than allowed. -/
theorem cut_ofValue (v : Value) {levels : ℕ} (h : v.nesting ≤ levels) :
    (Tree.ofValue v).cut levels = .ofValue v := by
  match v, levels with
  | .null, _ | .bool _, _ | .number _, _ | .string _, _ => rfl
  | .array vs, n + 1 =>
    rw [nesting, Nat.add_le_add_iff_right] at h
    rw [Tree.ofValue, Tree.cut, cut_items vs h]
  | .object ms, n + 1 =>
    rw [nesting, Nat.add_le_add_iff_right] at h
    rw [Tree.ofValue, Tree.cut, cut_members ms h]

theorem cut_items (vs : List Value) {levels : ℕ} (h : nesting.ofItems vs ≤ levels) :
    Tree.cut.go levels (Tree.ofValue.go vs) = Tree.ofValue.go vs := by
  match vs with
  | [] => rfl
  | v :: vs =>
    rw [nesting.ofItems, max_le_iff] at h
    rw [Tree.ofValue.go, Tree.cut.go, cut_ofValue v h.1, cut_items vs h.2]

theorem cut_members (ms : Object) {levels : ℕ} (h : nesting.ofMembers ms ≤ levels) :
    Tree.cut.goMembers levels (Tree.ofValue.goMembers ms) = Tree.ofValue.goMembers ms := by
  match ms with
  | [] => rfl
  | (k, v) :: ms =>
    rw [nesting.ofMembers, max_le_iff] at h
    rw [Tree.ofValue.goMembers, Tree.cut.goMembers, cut_ofValue v h.1, cut_members ms h.2]

end

mutual

/-- Numbers are no containers. -/
theorem nesting_reread (v : Value) : v.reread.nesting = v.nesting := by
  match v with
  | .null | .bool _ | .number _ | .string _ => rfl
  | .array vs => rw [reread, nesting, nesting, nesting_reread_items vs]
  | .object ms => rw [reread, nesting, nesting, nesting_reread_members ms]

theorem nesting_reread_items (vs : List Value) :
    nesting.ofItems (reread.ofItems vs) = nesting.ofItems vs := by
  match vs with
  | [] => rfl
  | v :: vs =>
    rw [reread.ofItems, nesting.ofItems, nesting.ofItems, nesting_reread v, nesting_reread_items vs]

theorem nesting_reread_members (ms : Object) :
    nesting.ofMembers (reread.ofMembers ms) = nesting.ofMembers ms := by
  match ms with
  | [] => rfl
  | (k, v) :: ms =>
    rw [reread.ofMembers, nesting.ofMembers, nesting.ofMembers, nesting_reread v,
      nesting_reread_members ms]

end

/-- **What a compact text is read as**, if its numbers are proper and it does not nest too deep. -/
theorem readTree_compact {v : Value} (hproper : v.NumbersProper)
    (hnesting : v.nesting ≤ Tree.maxNesting) :
    readTree v.compact.toList = (.ofValue v.reread, some []) := by
  have hread := (readsTexts (2 * v.chars.length + 2)).value v [] (by omega) (by simp [Stops])
  rw [List.append_nil, hproper.tree_eq] at hread
  simp only [compact, String.toList_ofList, readTree, hread,
    cut_ofValue v.reread (v.nesting_reread.trans_le hnesting)]

/-! ## The order of members -/

/-- A value with the members of its objects in the order of their keys. Of several members with
one key the last one stays. -/
def ordered : Value → Value
  | .array items => .array (ofItems items)
  | .object members => .object (Entries.ofBindings (ofMembers members))
  | .null => .null
  | .bool b => .bool b
  | .number n => .number n
  | .string s => .string s
where
  ofItems : List Value → List Value
    | [] => []
    | v :: vs => v.ordered :: ofItems vs
  ofMembers : Object → Object
    | [] => []
    | (k, v) :: ms => (k, v.ordered) :: ofMembers ms

theorem ordered_items (vs : List Value) : ordered.ofItems vs = vs.map ordered := by
  induction vs with
  | nil => rfl
  | cons v vs ih => rw [ordered.ofItems, ih, List.map_cons]

theorem ordered_members (ms : Object) :
    ordered.ofMembers ms = ms.map fun m => (m.1, m.2.ordered) := by
  induction ms with
  | nil => rfl
  | cons m ms ih => rw [ordered.ofMembers, ih, List.map_cons]

mutual

/-- The value of free form that a tree stands for is put in order. -/
theorem toValue?_ofValue (v : Value) : (Tree.ofValue v).toValue? = some v.ordered := by
  match v with
  | .null | .bool _ | .number _ | .string _ => rfl
  | .array vs =>
    rw [Tree.ofValue, Tree.toValue?, if_pos rfl, toValue?_ofItems vs, ordered]
    rfl
  | .object ms =>
    rw [Tree.ofValue, Tree.toValue?, if_pos rfl, toValue?_ofMembers ms, ordered]
    rfl

theorem toValue?_ofItems (vs : List Value) :
    Tree.toValue?.go (Tree.ofValue.go vs) = some (ordered.ofItems vs) := by
  match vs with
  | [] => rfl
  | v :: vs =>
    rw [Tree.ofValue.go, Tree.toValue?.go, toValue?_ofValue v, toValue?_ofItems vs]
    rfl

theorem toValue?_ofMembers (ms : Object) {entries : Object} :
    Tree.toValue?.goMembers (Tree.ofValue.goMembers ms) entries =
      some ((ordered.ofMembers ms).foldl (fun entries b => Entries.put b.1 b.2 entries)
        entries) := by
  match ms with
  | [] => rfl
  | (k, v) :: ms =>
    rw [Tree.ofValue.goMembers, Tree.toValue?.goMembers, toValue?_ofValue v]
    exact toValue?_ofMembers ms

end

/-- What a compact text is parsed as. -/
theorem parse?_compact_of_numbersProper {v : Value} (hproper : v.NumbersProper)
    (hnesting : v.nesting ≤ Tree.maxNesting) :
    Value.parse? v.compact = some v.reread.ordered := by
  rw [parse?_compact, hproper.tree_eq, cut_ofValue v.reread (v.nesting_reread.trans_le hnesting),
    toValue?_ofValue]

/-- The keys of each object of a value increase. -/
inductive InOrder : Value → Prop
  | null : InOrder .null
  | bool (b : Bool) : InOrder (.bool b)
  | number (n : Number) : InOrder (.number n)
  | string (s : String) : InOrder (.string s)
  | array {items : List Value} (inOrder : ∀ v ∈ items, InOrder v) : InOrder (.array items)
  | object {members : Object} (sorted : (Entries.keys members).Pairwise (· < ·))
    (inOrder : ∀ k v, (k, v) ∈ members → InOrder v) : InOrder (.object members)

/-- Putting a value in order does nothing to one that is. -/
theorem InOrder.ordered_eq {v : Value} (h : v.InOrder) : v.ordered = v := by
  induction h with
  | null => rfl
  | bool => rfl
  | number => rfl
  | string => rfl
  | array _ ih => rw [ordered, ordered_items, List.map_congr_left ih, List.map_id']
  | @object ms sorted _ ih =>
    have hmembers : ordered.ofMembers ms = ms := by
      rw [ordered_members]
      exact (List.map_congr_left fun m hm => congrArg (m.1, ·) (ih m.1 m.2 hm)).trans
        (List.map_id' ms)
    rw [ordered, hmembers, Entries.ofBindings_of_sorted sorted]

theorem InOrder.reread {v : Value} (h : v.InOrder) : v.reread.InOrder := by
  induction h with
  | null => exact .null
  | bool b => exact .bool b
  | number n => exact .number n.reread
  | string s => exact .string s
  | array _ ih =>
    rw [Value.reread, reread_items]
    exact .array (List.forall_mem_map.2 ih)
  | object sorted _ ih =>
    rw [Value.reread]
    refine .object (by rwa [keys_reread]) fun k v hmem => ?_
    rw [reread_members] at hmem
    obtain ⟨m, hm, heq⟩ := List.mem_map.1 hmem
    obtain ⟨rfl, rfl⟩ := Prod.mk.inj heq
    exact ih m.1 m.2 hm

end Value

end CustomFields.Json
