import Mathlib.Data.List.Nodup
import CustomFields.Store.Memory

/-!
# Listings do not depend on the order of what is stored

A listing sorts what it has found by an order in which no two of the things listed are level:
configs of one tenant differ in their entity types, and records in their ids. So stores that hold
the same things in different orders list them alike.

## Main results

* `mergeSort_eq_of_perm`: sorting by such an order forgets how the list was ordered before
* `RecordFilter.apply_eq_of_perm`: a page of records does not depend on the order of the records
* `RecordFilter.map_outline_apply`: nor on what records have for values
-/

namespace CustomFields

/-- Sorting forgets how a list was ordered before, if no two of its elements are level. -/
theorem mergeSort_eq_of_perm {α : Type} {le : α → α → Bool}
    (trans : ∀ a b c, le a b = true → le b c = true → le a c = true)
    (total : ∀ a b, (le a b || le b a) = true) {l l' : List α} (h : l.Perm l')
    (antisymm : ∀ a ∈ l, ∀ b ∈ l, le a b = true → le b a = true → a = b) :
    l.mergeSort le = l'.mergeSort le := by
  -- two sorted lists of the same elements are one
  refine List.Perm.eq_of_pairwise (fun a b ha hb => ?_) (List.pairwise_mergeSort trans total l)
    (List.pairwise_mergeSort trans total l') ?_
  · exact antisymm a (List.mem_mergeSort.1 ha) b (h.mem_iff.2 (List.mem_mergeSort.1 hb))
  · exact (List.mergeSort_perm l le).trans (h.trans (List.mergeSort_perm l' le).symm)

/-! ## Configs -/

/-- Sorting configs by their entity types puts the entity types in order. -/
theorem pairwise_mergeSort_entityType (l : List EntityConfig) :
    (l.mergeSort fun a b => decide (a.entityType ≤ b.entityType)).Pairwise
      fun a b => a.entityType ≤ b.entityType := by
  refine (List.pairwise_mergeSort ?_ ?_ l).imp of_decide_eq_true
  · intro a b c hab hbc
    exact decide_eq_true (Std.le_trans (of_decide_eq_true hab) (of_decide_eq_true hbc))
  · intro a b
    rw [Bool.or_eq_true, decide_eq_true_eq, decide_eq_true_eq]
    exact Std.le_total

/-- Sorting configs by their entity types gives them as they stand where these increase. -/
theorem mergeSort_eq_of_increasing {l l' : List EntityConfig} (h : l.Perm l')
    (increasing : l'.Pairwise fun a b => a.entityType < b.entityType) :
    (l.mergeSort fun a b => decide (a.entityType ≤ b.entityType)) = l' := by
  have distinct : (l'.map (·.entityType)).Nodup := by
    refine List.Pairwise.map _ ?_ increasing
    intro a b hlt heq
    exact Std.Irrefl.irrefl _ (heq ▸ hlt)
  refine List.Perm.eq_of_pairwise (fun a b ha hb hab hba => ?_) (pairwise_mergeSort_entityType l)
    (increasing.imp Std.le_of_lt) ((List.mergeSort_perm l _).trans h)
  exact List.inj_on_of_nodup_map distinct (h.mem_iff.1 (List.mem_mergeSort.1 ha)) hb
    (Std.le_antisymm hab hba)

/-! ## Records -/

namespace RecordFilter

/-- A record stands before another if it is older, or as old and its id is not larger. -/
theorem precedes_iff {a b : Record} :
    precedes a b = true ↔ a.createdAt.seconds < b.createdAt.seconds ∨
      a.createdAt.seconds = b.createdAt.seconds ∧
        (a.createdAt.nanoseconds < b.createdAt.nanoseconds ∨
          a.createdAt.nanoseconds = b.createdAt.nanoseconds ∧ a.id.value.val ≤ b.id.value.val) := by
  unfold precedes Calendar.Timestamp.compare
  -- the seconds, the nanoseconds and the ids are compared one after the other
  rcases Int.lt_trichotomy a.createdAt.seconds b.createdAt.seconds with hs | hs | hs
  · simp [Int.compare_eq_lt.2 hs, hs]
  · rcases Nat.lt_trichotomy a.createdAt.nanoseconds b.createdAt.nanoseconds with hn | hn | hn
    · simp [hs, Nat.compare_eq_lt.2 hn, hn]
    · simp [hs, hn]
      rfl
    · simp [hs, Nat.compare_eq_gt.2 hn]
      omega
  · simp [Int.compare_eq_gt.2 hs]
    omega

theorem precedes_trans (a b c : Record) (hab : precedes a b = true) (hbc : precedes b c = true) :
    precedes a c = true := by
  rw [precedes_iff] at *
  omega

theorem precedes_total (a b : Record) : (precedes a b || precedes b a) = true := by
  rw [Bool.or_eq_true, precedes_iff, precedes_iff]
  omega

theorem id_eq_of_precedes {a b : Record} (hab : precedes a b = true) (hba : precedes b a = true) :
    a.id = b.id := by
  rw [precedes_iff] at *
  have hval : a.id.value.val = b.id.value.val := by omega
  exact congrArg Uuid.mk (Fin.ext hval)

/-- **A page does not depend on the order of the records**, if they have different ids. -/
theorem apply_eq_of_perm (f : RecordFilter) {l l' : List Record} (h : l.Perm l')
    (distinct : (l.map (·.id)).Nodup) : f.apply l = f.apply l' := by
  unfold apply
  rw [mergeSort_eq_of_perm precedes_trans precedes_total (h.filter f.isMatch)]
  intro a ha b hb hab hba
  exact List.inj_on_of_nodup_map distinct (List.mem_of_mem_filter ha) (List.mem_of_mem_filter hb)
    (id_eq_of_precedes hab hba)

/-- What a listing looks at in a record: its values and its last change are left out. -/
def outline (r : Record) : Record :=
  { r with customData := [], updatedAt := r.createdAt }

/-- A page is told by the outlines of the records. -/
theorem map_outline_apply (f : RecordFilter) (l : List Record) :
    (f.apply l).map outline = f.apply (l.map outline) := by
  have hmatch : f.isMatch ∘ outline = f.isMatch := rfl
  have hprecedes : ∀ a ∈ l.filter f.isMatch, ∀ b ∈ l.filter f.isMatch,
      precedes a b = precedes (outline a) (outline b) := fun _ _ _ _ => rfl
  unfold apply
  rw [List.map_take, List.map_drop, List.map_mergeSort hprecedes, List.filter_map, hmatch]

end RecordFilter

end CustomFields
