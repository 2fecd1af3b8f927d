import Mathlib.Data.Prod.Lex
import CustomFields.Proofs.Store.Listing

/-!
# The pages of a listing

All that a filter asks for, in the order of creation and then of ids, is one list, however the
records came. A page is a stretch of it. So the pages of one size, taken one after the other, are
the whole list: no record is lost between two of them, and none stands on two.

## Main definitions

* `RecordFilter.place`: where a record stands among others
* `RecordFilter.listing`: all that a filter asks for, in that order

## Main results

* `RecordFilter.mem_listing_iff`, `RecordFilter.pairwise_listing`: the listing has what the filter
  asks for, in order
* `RecordFilter.flatMap_pages`: the pages of one size, taken together
* `RecordFilter.pages_partition_listing`: what pages have of a listing
-/

namespace CustomFields.RecordFilter

/-- Records stand in the order of their creation, and those of one moment in the order of their
ids. -/
def place (r : Record) : ℤ ×ₗ ℕ ×ₗ ℕ :=
  toLex (r.createdAt.seconds, toLex (r.createdAt.nanoseconds, r.id.value.val))

/-- All records that a filter asks for. -/
def listing (f : RecordFilter) (records : List Record) : List Record :=
  (records.filter f.isMatch).mergeSort precedes

variable (f : RecordFilter) {records : List Record}

theorem precedes_iff_place_le {a b : Record} : precedes a b = true ↔ place a ≤ place b := by
  rw [precedes_iff, place, place, Prod.Lex.toLex_le_toLex, Prod.Lex.toLex_le_toLex]

theorem apply_eq_of_listing (records : List Record) :
    f.apply records = ((f.listing records).drop f.skip).take f.limit := rfl

theorem listing_perm (records : List Record) :
    (f.listing records).Perm (records.filter f.isMatch) :=
  List.mergeSort_perm _ _

theorem isMatch_iff {r : Record} :
    f.isMatch r = true ↔
      (∀ t ∈ f.tenantId, t = r.tenantId) ∧ ∀ e ∈ f.entityType, e = r.entityType := by
  simp [isMatch, Option.all_eq_true]

/-- A listing has what the filter asks for. -/
theorem mem_listing_iff {r : Record} :
    r ∈ f.listing records ↔
      r ∈ records ∧ (∀ t ∈ f.tenantId, t = r.tenantId) ∧ ∀ e ∈ f.entityType, e = r.entityType := by
  rw [(f.listing_perm records).mem_iff, List.mem_filter, isMatch_iff]

/-- **A listing is in order**, and no two of its records stand in one place. -/
theorem pairwise_listing (distinct : (records.map (·.id)).Nodup) :
    (f.listing records).Pairwise fun a b => place a < place b := by
  have hsorted : (f.listing records).Pairwise fun a b => precedes a b = true :=
    List.pairwise_mergeSort precedes_trans precedes_total _
  have hids : ((f.listing records).map (·.id)).Nodup := by
    have hsublist : (records.filter f.isMatch).Sublist records := List.filter_sublist
    exact ((f.listing_perm records).map (·.id)).nodup_iff.2 (distinct.sublist (hsublist.map _))
  refine (hsorted.and (List.pairwise_map.1 hids)).imp ?_
  rintro a b ⟨hle, hne⟩
  have hback : ¬ precedes b a = true := fun hba => hne (id_eq_of_precedes hle hba)
  rw [precedes_iff_place_le] at hle hback
  exact lt_of_le_not_ge hle hback

/-- **Pages of one size**, as many as there are, are the front of a list that they reach over. -/
theorem flatMap_pages {α : Type} (l : List α) (size count : ℕ) :
    ((List.range count).flatMap fun k => (l.drop (k * size)).take size) =
      l.take (count * size) := by
  induction count with
  | zero => simp
  | succ count ih =>
    rw [List.range_succ, List.flatMap_append, ih, Nat.succ_mul, List.take_add]
    simp

/-- **Pages partition a listing**, which does not depend on the order of the records: it has what
the filter asks for, each once, in the order of creation and of ids; a page has what stands at its
places in the listing; and the pages of one size, up to the end, are the listing. -/
theorem pages_partition_listing (distinct : (records.map (·.id)).Nodup) :
    (∀ records', records.Perm records' → f.apply records' = f.apply records) ∧
    (∀ r, r ∈ f.listing records ↔
      r ∈ records ∧ (∀ t ∈ f.tenantId, t = r.tenantId) ∧ ∀ e ∈ f.entityType, e = r.entityType) ∧
    ((f.listing records).Pairwise fun a b => place a < place b) ∧
    (∀ limit, (f.listing records).length ≤ limit →
      (f.page 0 limit).apply records = f.listing records) ∧
    (∀ skip limit i, ((f.page skip limit).apply records)[i]? =
      if i < limit then (f.listing records)[skip + i]? else none) ∧
    ∀ size count, (f.listing records).length ≤ count * size →
      ((List.range count).flatMap fun k => (f.page (k * size) size).apply records) =
        f.listing records := by
  refine ⟨fun records' h => (f.apply_eq_of_perm h distinct).symm, fun r => f.mem_listing_iff,
    f.pairwise_listing distinct, fun limit hlimit => ?_, fun skip limit i => ?_,
    fun size count hcount => ?_⟩
  · exact List.take_of_length_le hlimit
  · rw [apply_eq_of_listing, List.getElem?_take, List.getElem?_drop]
    rfl
  · exact (flatMap_pages (f.listing records) size count).trans (List.take_of_length_le hcount)

/-- A record of a site that was created at some second. -/
def site (id : ℕ) (second : ℤ) : Record :=
  .new (.ofNat id) (.ofNat 7) "site" [] ⟨second, 0⟩

/-- Two records of one moment and a later one, on two pages. -/
theorem pages_partition_listing_sites :
    ([site 3 20, site 2 10, site 1 10].map (·.id)).Nodup ∧
      ((List.range 2).flatMap fun k =>
          (all.page (k * 2) 2).apply [site 3 20, site 2 10, site 1 10]) =
        [site 1 10, site 2 10, site 3 20] ∧
      ((all.page 1 1).apply [site 3 20, site 2 10, site 1 10])[0]? = some (site 2 10) := by
  have hdistinct : ([site 3 20, site 2 10, site 1 10].map (·.id)).Nodup := by decide
  obtain ⟨-, -, hsorted, -, hpage, hpages⟩ := pages_partition_listing all hdistinct
  have hlisting : all.listing [site 3 20, site 2 10, site 1 10] =
      [site 1 10, site 2 10, site 3 20] := by
    have hperm := all.listing_perm [site 3 20, site 2 10, site 1 10]
    have hinOrder : [site 1 10, site 2 10, site 3 20].Pairwise fun a b => place a < place b := by
      decide
    refine List.Perm.eq_of_pairwise (fun a b _ _ hab hba => ?_) hsorted hinOrder
      (hperm.trans (List.reverse_perm _).symm)
    exact absurd hab (lt_asymm hba)
  rw [hlisting] at hpages
  refine ⟨hdistinct, hpages 2 2 (by decide), ?_⟩
  rw [hpage, hlisting]
  rfl

end CustomFields.RecordFilter
