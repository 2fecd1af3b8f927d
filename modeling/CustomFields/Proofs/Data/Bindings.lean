import Mathlib.Data.Finset.Card
import CustomFields.Proofs.Data.Entries

/-!
# Maps of bindings

A map that is made from a row of bindings has, under each key, the value of the last binding of the
key, and each key has one entry. How the entries are arranged depends on how the bindings have come;
what is looked up does not, and as entries they are the same up to their order. Put in the order of
their keys, they are one list.

## Main definitions

* `IsLast`: the last binding of a key
* `collect`: the map of bindings, each key where it came first

## Main results

* `get?_collect_eq_some_iff`: the last binding of a key wins
* `collect_perm_of_filter_eq`: bindings of different keys may change places
* `get?_eq_of_perm`, `ofBindings_eq_of_perm`: how entries are arranged does not show
-/

namespace CustomFields.Entries

variable {κ ν : Type}

/-- Among bindings, the last one of a key has a value. -/
def IsLast (bindings : List (κ × ν)) (k : κ) (v : ν) : Prop :=
  ∃ before behind, bindings = before ++ (k, v) :: behind ∧ k ∉ keys behind

theorem keys_append (bindings bindings' : List (κ × ν)) :
    keys (bindings ++ bindings') = keys bindings ++ keys bindings' :=
  List.map_append

/-- The last binding of all is the last one of its key, and does not count for other keys. -/
theorem isLast_append_singleton_iff {bindings : List (κ × ν)} {k k' : κ} {v v' : ν} :
    IsLast (bindings ++ [(k', v')]) k v ↔ k' = k ∧ v' = v ∨ k' ≠ k ∧ IsLast bindings k v := by
  constructor
  · rintro ⟨before, behind, heq, hlast⟩
    rcases List.eq_nil_or_concat behind with rfl | ⟨behind, b, rfl⟩
    · obtain ⟨-, heq⟩ := List.append_inj' heq rfl
      exact Or.inl (Prod.mk.inj (List.singleton_inj.1 heq))
    · rw [List.concat_eq_append, ← List.cons_append, ← List.append_assoc] at heq
      obtain ⟨rfl, hb⟩ := List.append_inj' heq rfl
      obtain rfl := List.singleton_inj.1 hb
      rw [List.concat_eq_append, keys_append, List.mem_append, not_or] at hlast
      exact Or.inr ⟨fun h => hlast.2 (List.mem_singleton.2 h.symm), before, behind, rfl, hlast.1⟩
  · rintro (⟨rfl, rfl⟩ | ⟨hne, before, behind, rfl, hlast⟩)
    · exact ⟨bindings, [], rfl, List.not_mem_nil⟩
    · refine ⟨before, behind ++ [(k', v')], List.append_assoc _ _ _, ?_⟩
      rw [keys_append, List.mem_append, not_or]
      exact ⟨hlast, fun h => hne (List.mem_singleton.1 h).symm⟩

theorem not_isLast_nil {k : κ} {v : ν} : ¬ IsLast [] k v := by
  rintro ⟨before, behind, heq, -⟩
  cases (List.append_eq_nil_iff.1 heq.symm).2

/-- The last binding of a key is told by those of the key alone. -/
theorem isLast_iff_getLast? [DecidableEq κ] {bindings : List (κ × ν)} {k : κ} {v : ν} :
    IsLast bindings k v ↔ (bindings.filter (·.1 = k)).getLast? = some (k, v) := by
  induction bindings using List.reverseRecOn with
  | nil => exact iff_of_false not_isLast_nil (by rintro ⟨⟩)
  | append_singleton bindings b ih =>
    rw [isLast_append_singleton_iff, ih, List.filter_append]
    by_cases hk : b.1 = k
    · subst hk
      simp [Prod.ext_iff]
    · simp [hk]

/-! ## Maps in the order of arrival -/

section Collect

variable [DecidableEq κ] {bindings bindings' : List (κ × ν)} {k : κ} {v : ν}

/-- The map of a row of bindings, of which the last one of a key wins. A key has its entry where it
came first. -/
def collect (bindings : List (κ × ν)) : List (κ × ν) :=
  bindings.foldl (fun entries b => assign b.1 b.2 entries) []

theorem collect_append_singleton (bindings : List (κ × ν)) (b : κ × ν) :
    collect (bindings ++ [b]) = assign b.1 b.2 (collect bindings) := by
  rw [collect, List.foldl_append]
  rfl

/-- **The last binding of a key wins.** -/
theorem get?_collect_eq_some_iff : get? k (collect bindings) = some v ↔ IsLast bindings k v := by
  induction bindings using List.reverseRecOn with
  | nil => exact iff_of_false (by rintro ⟨⟩) not_isLast_nil
  | append_singleton bindings b ih =>
    rw [collect_append_singleton, isLast_append_singleton_iff]
    by_cases hk : b.1 = k
    · subst hk
      rw [get?_assign_self, Option.some_inj]
      simp
    · rw [get?_assign_of_ne (Ne.symm hk), ih]
      simp [hk]

theorem nodup_keys_collect (bindings : List (κ × ν)) : (keys (collect bindings)).Nodup := by
  induction bindings using List.reverseRecOn with
  | nil => exact List.nodup_nil
  | append_singleton bindings b ih =>
    rw [collect_append_singleton]
    exact nodup_keys_assign ih

/-- A key that has bindings has a last one. -/
theorem exists_isLast (h : k ∈ keys bindings) : ∃ v, IsLast bindings k v := by
  have hne : bindings.filter (·.1 = k) ≠ [] := by
    obtain ⟨b, hb, rfl⟩ := List.mem_map.1 h
    exact List.ne_nil_of_mem (List.mem_filter.2 ⟨hb, decide_eq_true rfl⟩)
  obtain ⟨front, ⟨k', v⟩, hfilter⟩ := (List.eq_nil_or_concat' _).resolve_left hne
  have hmem : (k', v) ∈ bindings.filter (·.1 = k) := by simp [hfilter]
  obtain rfl : k' = k := of_decide_eq_true (List.mem_filter.1 hmem).2
  exact ⟨v, isLast_iff_getLast?.2 (by rw [hfilter, List.getLast?_concat])⟩

/-- A key without a value has no binding. -/
theorem get?_collect_eq_none_iff : get? k (collect bindings) = none ↔ k ∉ keys bindings := by
  constructor
  · intro hnone hmem
    obtain ⟨v, hv⟩ := exists_isLast hmem
    cases hnone.symm.trans (get?_collect_eq_some_iff.2 hv)
  · intro hmem
    refine Option.eq_none_iff_forall_ne_some.2 fun v hv => hmem ?_
    obtain ⟨before, behind, rfl, -⟩ := get?_collect_eq_some_iff.1 hv
    exact mem_keys_of_mem (List.mem_append_right _ List.mem_cons_self)

theorem mem_keys_collect_iff : k ∈ keys (collect bindings) ↔ k ∈ keys bindings := by
  rw [← not_iff_not, ← get?_eq_none_iff, get?_collect_eq_none_iff]

/-- There are as many entries as there are keys. -/
theorem length_collect (bindings : List (κ × ν)) :
    (collect bindings).length = (keys bindings).toFinset.card := by
  have hkeys : (keys bindings).toFinset = (keys (collect bindings)).toFinset := by
    ext k
    rw [List.mem_toFinset, List.mem_toFinset, mem_keys_collect_iff]
  rw [hkeys, List.toFinset_card_of_nodup (nodup_keys_collect bindings), keys, List.length_map]

/-- Looking a key up asks for nothing but the bindings of the key. -/
theorem get?_collect_congr (h : bindings.filter (·.1 = k) = bindings'.filter (·.1 = k)) :
    get? k (collect bindings) = get? k (collect bindings') := by
  refine Option.ext fun v => ?_
  rw [get?_collect_eq_some_iff, get?_collect_eq_some_iff, isLast_iff_getLast?,
    isLast_iff_getLast?, h]

end Collect

/-! ## How entries are arranged -/

section Arrangement

variable [DecidableEq κ] {entries entries' : List (κ × ν)}

/-- Looking a key up does not depend on how the entries are arranged. -/
theorem get?_eq_of_perm (h : entries.Perm entries') (hn : (keys entries).Nodup) (k : κ) :
    get? k entries = get? k entries' := by
  have hn' : (keys entries').Nodup := (h.map Prod.fst).nodup_iff.1 hn
  refine Option.ext fun v => ?_
  rw [get?_eq_some_iff hn, get?_eq_some_iff hn', h.mem_iff]

/-- Nothing but the arrangement is left open by what is looked up. -/
theorem perm_of_get?_eq (hn : (keys entries).Nodup) (hn' : (keys entries').Nodup)
    (h : ∀ k, get? k entries = get? k entries') : entries.Perm entries' := by
  rw [List.perm_ext_iff_of_nodup hn.of_map hn'.of_map]
  rintro ⟨k, v⟩
  rw [← get?_eq_some_iff hn, ← get?_eq_some_iff hn', h]

theorem assign_perm (h : entries.Perm entries') (hn : (keys entries).Nodup) (k : κ) (v : ν) :
    (assign k v entries).Perm (assign k v entries') := by
  have hn' : (keys entries').Nodup := (h.map Prod.fst).nodup_iff.1 hn
  refine perm_of_get?_eq (nodup_keys_assign hn) (nodup_keys_assign hn') fun k' => ?_
  by_cases hk : k' = k
  · rw [hk, get?_assign_self, get?_assign_self]
  · rw [get?_assign_of_ne hk, get?_assign_of_ne hk, get?_eq_of_perm h hn]

/-- **Bindings of different keys may change places.** The entries are the same, in some order. -/
theorem collect_perm_of_filter_eq {bindings bindings' : List (κ × ν)}
    (h : ∀ k, bindings.filter (·.1 = k) = bindings'.filter (·.1 = k)) :
    (collect bindings).Perm (collect bindings') :=
  perm_of_get?_eq (nodup_keys_collect bindings) (nodup_keys_collect bindings')
    fun k => get?_collect_congr (h k)

end Arrangement

/-- In the order of its elements, a list is told by which they are. -/
theorem eq_of_perm_of_increasing [LT κ] [Trans (α := κ) (· < ·) (· < ·) (· < ·)]
    [Std.Irrefl (α := κ) (· < ·)] {ks ks' : List κ} (h : ks.Perm ks') (hs : ks.Pairwise (· < ·))
    (hs' : ks'.Pairwise (· < ·)) : ks = ks' :=
  h.eq_of_pairwise (fun a _ _ _ hab hba => absurd (Trans.trans hab hba) (Std.Irrefl.irrefl a)) hs hs'

section Order

variable [DecidableEq κ] [LT κ] [DecidableRel (α := κ) (· < ·)]
  [Trans (α := κ) (· < ·) (· < ·) (· < ·)] [Std.Trichotomous (α := κ) (· < ·)]

theorem sorted_ofBindings (bindings : List (κ × ν)) :
    (keys (ofBindings bindings)).Pairwise (· < ·) := by
  induction bindings using List.reverseRecOn with
  | nil => exact .nil
  | append_singleton bindings b ih =>
    rw [ofBindings, List.foldl_append, ← ofBindings]
    exact sorted_put ih

/-- **Put in the order of their keys, entries are one list**, however they have been arranged. -/
theorem ofBindings_eq_of_perm [Std.Irrefl (α := κ) (· < ·)] {entries entries' : List (κ × ν)}
    (h : entries.Perm entries') (hn : (keys entries).Nodup) :
    ofBindings entries = ofBindings entries' := by
  have hn' : (keys entries').Nodup := (h.map Prod.fst).nodup_iff.1 hn
  have hperm : (ofBindings entries).Perm (ofBindings entries') :=
    (ofBindings_perm hn).trans (h.trans (ofBindings_perm hn').symm)
  -- no two entries of one list are in both orders
  refine hperm.eq_of_pairwise (fun a b _ _ hab hba => ?_)
    (List.pairwise_map.1 (sorted_ofBindings entries))
    (List.pairwise_map.1 (sorted_ofBindings entries'))
  exact absurd (Trans.trans hab hba) (Std.Irrefl.irrefl a.1)

end Order

end CustomFields.Entries
