import Mathlib.Data.List.Induction
import Mathlib.Data.List.Nodup
import Mathlib.Data.List.Perm.Basic
import CustomFields.Data.Entries

/-!
# What keyed entries hold

Where each key has one entry, looking a key up is membership, and storing a value replaces the
entry of the key, whichever of the two ways of storing is taken. So a map that keeps its entries in
the order of their arrival and one that keeps them in the order of other keys stay one map, seen
through a translation of keys and values.

## Main definitions

* `Mirrors`: the entries of one map are the translations of the entries of another

## Main results

* `Mirrors.get?`, `Mirrors.put`: looking up and storing go through the translation
* `Mirrors.exists_map`: the mirror is the translation of the entries in some order
-/

namespace CustomFields.Entries

variable {κ ν : Type}

theorem mem_keys_of_mem {k : κ} {v : ν} {entries : List (κ × ν)} (h : (k, v) ∈ entries) :
    k ∈ keys entries :=
  List.mem_map_of_mem h

/-! ## Looking up -/

section Lookup

variable [DecidableEq κ] {k : κ} {v : ν} {entries : List (κ × ν)}

theorem mem_of_get?_eq_some (h : get? k entries = some v) : (k, v) ∈ entries := by
  induction entries with
  | nil => cases h
  | cons e rest ih =>
    unfold get? at h
    split at h
    · rename_i hk
      rw [hk, ← Option.some.inj h]
      exact List.mem_cons_self
    · exact List.mem_cons_of_mem _ (ih h)

theorem get?_eq_none_iff : get? k entries = none ↔ k ∉ keys entries := by
  induction entries with
  | nil => exact iff_of_true rfl List.not_mem_nil
  | cons e rest ih =>
    obtain ⟨k', v'⟩ := e
    by_cases hk : k = k'
    · exact iff_of_false (by simp [get?, hk]) (by simp [keys, hk])
    · rw [get?, if_neg hk, ih]
      simp [keys, hk]

/-- Where each key has one entry, looking a key up is membership. -/
theorem get?_eq_some_iff (hn : (keys entries).Nodup) :
    get? k entries = some v ↔ (k, v) ∈ entries := by
  refine ⟨mem_of_get?_eq_some, fun h => ?_⟩
  induction entries with
  | nil => cases h
  | cons e rest ih =>
    obtain ⟨hfirst, hrest⟩ := List.nodup_cons.1 hn
    unfold get?
    rcases List.mem_cons.1 h with rfl | h
    · rw [if_pos rfl]
    · rw [if_neg, ih hrest h]
      rintro rfl
      exact hfirst (mem_keys_of_mem h)

end Lookup

/-! ## Storing in the order of arrival -/

section Assign

variable [DecidableEq κ]

theorem eq_or_mem_of_mem_assign {k : κ} {v : ν} {e : κ × ν} {entries : List (κ × ν)}
    (h : e ∈ assign k v entries) : e = (k, v) ∨ e ∈ entries := by
  induction entries with
  | nil => exact Or.inl (List.mem_singleton.1 h)
  | cons e' rest ih =>
    unfold assign at h
    split at h
    · exact (List.mem_cons.1 h).imp_right (List.mem_cons_of_mem _)
    · rcases List.mem_cons.1 h with rfl | h
      · exact Or.inr List.mem_cons_self
      · exact (ih h).imp_right (List.mem_cons_of_mem _)

/-- What holds of the entries and of the one that is stored holds afterwards. -/
theorem forall_mem_assign {P : κ → ν → Prop} {k : κ} {v : ν} {entries : List (κ × ν)}
    (hv : P k v) (h : ∀ k' v', (k', v') ∈ entries → P k' v') :
    ∀ k' v', (k', v') ∈ assign k v entries → P k' v' := by
  intro k' v' hmem
  rcases eq_or_mem_of_mem_assign hmem with heq | hold
  · obtain ⟨rfl, rfl⟩ := Prod.mk.inj heq
    exact hv
  · exact h k' v' hold

/-- A value that is stored needs at most one entry more. -/
theorem length_assign_le (k : κ) (v : ν) (entries : List (κ × ν)) :
    (assign k v entries).length ≤ entries.length + 1 := by
  induction entries with
  | nil => exact Nat.le_refl _
  | cons e rest ih =>
    unfold assign
    split
    · exact Nat.le_succ _
    · exact Nat.succ_le_succ ih

/-- A value that is stored needs an entry more only where its key has none. -/
theorem length_assign (k : κ) (v : ν) (entries : List (κ × ν)) :
    (assign k v entries).length = entries.length + if contains k entries then 0 else 1 := by
  induction entries with
  | nil => rfl
  | cons e rest ih =>
    unfold assign contains get?
    split
    · rfl
    · rw [List.length_cons, ih, contains, List.length_cons]
      omega

/-- A new key adds its entry at the end. -/
theorem assign_of_not_mem {k : κ} {v : ν} {entries : List (κ × ν)} (h : k ∉ keys entries) :
    assign k v entries = entries ++ [(k, v)] := by
  induction entries with
  | nil => rfl
  | cons e rest ih =>
    obtain ⟨hne, hrest⟩ := not_or.1 (List.mem_cons.not.1 h)
    rw [assign, if_neg hne, ih hrest, List.cons_append]

theorem nodup_keys_assign {k : κ} {v : ν} {entries : List (κ × ν)} (hn : (keys entries).Nodup) :
    (keys (assign k v entries)).Nodup := by
  induction entries with
  | nil => exact List.nodup_cons.2 ⟨List.not_mem_nil, List.nodup_nil⟩
  | cons e rest ih =>
    obtain ⟨k', v'⟩ := e
    obtain ⟨hfirst, hrest⟩ := List.nodup_cons.1 hn
    unfold assign
    split
    · rename_i hk
      subst hk
      exact hn
    · rename_i hk
      refine List.nodup_cons.2 ⟨fun hmem => ?_, ih hrest⟩
      obtain ⟨e, he, rfl⟩ := List.mem_map.1 hmem
      rcases eq_or_mem_of_mem_assign he with rfl | he
      · exact hk rfl
      · exact hfirst (List.mem_map.2 ⟨e, he, rfl⟩)

/-- A value that takes the place of one that looks alike does not show. -/
theorem map_assign_of_get? {β : Type} {g : ν → β} {k : κ} {v v' : ν} {entries : List (κ × ν)}
    (h : get? k entries = some v) (hg : g v' = g v) :
    ((assign k v' entries).map Prod.snd).map g = (entries.map Prod.snd).map g := by
  induction entries with
  | nil => cases h
  | cons e rest ih =>
    unfold get? at h
    unfold assign
    split
    · rename_i hk
      rw [if_pos hk] at h
      obtain rfl := Option.some.inj h
      simp only [List.map_cons, hg]
    · rename_i hk
      rw [if_neg hk] at h
      simp only [List.map_cons, ih h]

/-- Where each key has one entry, the entry that is stored takes the place of its key's. -/
theorem eq_or_ne_of_mem_assign {k : κ} {v : ν} {e : κ × ν} {entries : List (κ × ν)}
    (hn : (keys entries).Nodup) (h : e ∈ assign k v entries) :
    e = (k, v) ∨ e ∈ entries ∧ e.1 ≠ k := by
  obtain ⟨k', v'⟩ := e
  by_cases hk : k' = k
  -- the key has one entry, which is found under it
  · subst hk
    have hv := (get?_eq_some_iff (nodup_keys_assign hn)).2 h
    rw [get?_assign_self] at hv
    rw [Option.some.inj hv]
    exact Or.inl rfl
  · exact (eq_or_mem_of_mem_assign h).imp_right fun hmem => ⟨hmem, hk⟩

end Assign

/-! ## Storing in the order of the keys -/

theorem nodup_of_sorted [LT κ] [Std.Irrefl (α := κ) (· < ·)] {entries : List (κ × ν)}
    (hs : (keys entries).Pairwise (· < ·)) : (keys entries).Nodup := by
  refine List.Pairwise.imp ?_ hs
  rintro a _ hlt rfl
  exact Std.Irrefl.irrefl a hlt

section Put

variable [DecidableEq κ] [LT κ] [DecidableRel (α := κ) (· < ·)]

theorem eq_or_mem_of_mem_put {k : κ} {v : ν} {e : κ × ν} {entries : List (κ × ν)}
    (h : e ∈ put k v entries) : e = (k, v) ∨ e ∈ entries := by
  induction entries with
  | nil => exact Or.inl (List.mem_singleton.1 h)
  | cons e' rest ih =>
    unfold put at h
    split at h
    · exact (List.mem_cons.1 h).imp_right (List.mem_cons_of_mem _)
    · split at h
      · exact List.mem_cons.1 h
      · rcases List.mem_cons.1 h with rfl | h
        · exact Or.inr List.mem_cons_self
        · exact (ih h).imp_right (List.mem_cons_of_mem _)

theorem forall_mem_put {P : κ → ν → Prop} {k : κ} {v : ν} {entries : List (κ × ν)}
    (hv : P k v) (h : ∀ k' v', (k', v') ∈ entries → P k' v') :
    ∀ k' v', (k', v') ∈ put k v entries → P k' v' := by
  intro k' v' hmem
  rcases eq_or_mem_of_mem_put hmem with heq | hold
  · obtain ⟨rfl, rfl⟩ := Prod.mk.inj heq
    exact hv
  · exact h k' v' hold

/-- A key that is not looked for does not show among the keys. -/
theorem find?_keys_put {p : κ → Bool} {k : κ} (h : p k = false) (v : ν) (entries : List (κ × ν)) :
    (keys (put k v entries)).find? p = (keys entries).find? p := by
  induction entries with
  | nil => simp [put, keys, h]
  | cons e rest ih =>
    obtain ⟨k', v'⟩ := e
    unfold put
    split
    · rename_i hk
      subst hk
      simp [keys, h]
    · split
      · simp [keys, h]
      · simp only [keys, List.map_cons, List.find?_cons] at ih ⊢
        rw [ih]

theorem mem_keys_put {k k' : κ} {v : ν} {entries : List (κ × ν)}
    (h : k' = k ∨ k' ∈ keys entries) : k' ∈ keys (put k v entries) := by
  induction entries with
  | nil => exact List.mem_singleton.2 (h.resolve_right List.not_mem_nil)
  | cons e rest ih =>
    obtain ⟨k₁, v₁⟩ := e
    have hcons : k' ∈ keys ((k₁, v₁) :: rest) ↔ k' = k₁ ∨ k' ∈ keys rest := List.mem_cons
    rw [hcons] at h
    unfold put
    split
    · rename_i hk
      subst hk
      exact List.mem_cons.2 (h.elim Or.inl id)
    · split
      · exact List.mem_cons.2 (h.imp_right hcons.2)
      · refine List.mem_cons.2 ?_
        rcases h with hk | hk | hk
        · exact Or.inr (ih (Or.inl hk))
        · exact Or.inl hk
        · exact Or.inr (ih (Or.inr hk))

theorem sorted_put [Trans (α := κ) (· < ·) (· < ·) (· < ·)]
    [Std.Trichotomous (α := κ) (· < ·)] {k : κ} {v : ν} {entries : List (κ × ν)}
    (hs : (keys entries).Pairwise (· < ·)) : (keys (put k v entries)).Pairwise (· < ·) := by
  induction entries with
  | nil => exact List.pairwise_singleton _ k
  | cons e rest ih =>
    obtain ⟨k', v'⟩ := e
    obtain ⟨hfirst, hrest⟩ := List.pairwise_cons.1 hs
    unfold put
    split
    · rename_i hk
      subst hk
      exact hs
    · rename_i hne
      split
      -- the key comes before all others
      · rename_i hlt
        refine List.pairwise_cons.2 ⟨fun a ha => ?_, hs⟩
        rcases List.mem_cons.1 ha with rfl | ha
        · exact hlt
        · exact Trans.trans hlt (hfirst a ha)
      -- the key comes behind the first one
      · rename_i hnlt
        refine List.pairwise_cons.2 ⟨fun a ha => ?_, ih hrest⟩
        obtain ⟨e, he, rfl⟩ := List.mem_map.1 ha
        rcases eq_or_mem_of_mem_put he with rfl | he
        · exact (Std.lt_trichotomy k' k).resolve_right fun h => h.elim (fun h => hne h.symm) hnlt
        · exact hfirst _ (List.mem_map_of_mem he)

/-- A value that is stored needs an entry more only where its key has none. -/
theorem length_put [Trans (α := κ) (· < ·) (· < ·) (· < ·)] [Std.Irrefl (α := κ) (· < ·)]
    {k : κ} {entries : List (κ × ν)} (v : ν) (hs : (keys entries).Pairwise (· < ·)) :
    (put k v entries).length = entries.length + if contains k entries then 0 else 1 := by
  induction entries with
  | nil => rfl
  | cons e rest ih =>
    obtain ⟨hfirst, hrest⟩ := List.pairwise_cons.1 hs
    unfold put contains get?
    split
    · rfl
    · split
      · rename_i hlt
        -- all keys behind the first one are greater as well
        have hnone : get? k rest = none := by
          refine Option.eq_none_iff_forall_ne_some.2 fun v' hv => ?_
          have hgt := hfirst k (mem_keys_of_mem (mem_of_get?_eq_some hv))
          exact Std.Irrefl.irrefl k (Trans.trans hlt hgt)
        rw [hnone, Option.isSome_none, if_neg Bool.false_ne_true, List.length_cons]
      · rw [List.length_cons, ih hrest, contains, List.length_cons]
        omega

/-- An entry behind all others is stored at the end. -/
theorem put_of_forall_lt [Std.Asymm (α := κ) (· < ·)] {k : κ} {v : ν} {entries : List (κ × ν)}
    (h : ∀ k' ∈ keys entries, k' < k) : put k v entries = entries ++ [(k, v)] := by
  induction entries with
  | nil => rfl
  | cons e rest ih =>
    obtain ⟨k', v'⟩ := e
    have hlt : k' < k := h k' List.mem_cons_self
    have hnot : ¬ k < k' := Std.Asymm.asymm _ _ hlt
    have hne : k ≠ k' := by
      rintro rfl
      exact hnot hlt
    rw [put, if_neg hne, if_neg hnot, ih fun a ha => h a (List.mem_cons_of_mem k' ha)]
    rfl

/-- Bindings that are in the order of their keys are the entries themselves. -/
theorem ofBindings_of_sorted [Std.Asymm (α := κ) (· < ·)] {bindings : List (κ × ν)}
    (hs : (keys bindings).Pairwise (· < ·)) : ofBindings bindings = bindings := by
  -- on the last binding, whose key is behind all others
  induction bindings using List.reverseRecOn with
  | nil => rfl
  | append_singleton bindings b ih =>
    rw [keys, List.map_append, List.pairwise_append] at hs
    have hlast : ∀ k ∈ keys bindings, k < b.1 := fun k hk => hs.2.2 k hk b.1 List.mem_cons_self
    rw [ofBindings, List.foldl_append, ← ofBindings, ih hs.1]
    exact put_of_forall_lt hlast

/-- A new key adds its entry, at some place. -/
theorem put_perm {k : κ} {v : ν} {entries : List (κ × ν)} (h : k ∉ keys entries) :
    (put k v entries).Perm ((k, v) :: entries) := by
  induction entries with
  | nil => exact .refl _
  | cons e rest ih =>
    obtain ⟨k', v'⟩ := e
    obtain ⟨hne, hrest⟩ := not_or.1 (List.mem_cons.not.1 h)
    rw [put, if_neg hne]
    split
    · exact .refl _
    · exact ((ih hrest).cons (k', v')).trans (.swap ..)

/-- Bindings with keys of their own are the entries, in some order. -/
theorem ofBindings_perm {bindings : List (κ × ν)} (hn : (keys bindings).Nodup) :
    (ofBindings bindings).Perm bindings := by
  induction bindings using List.reverseRecOn with
  | nil => exact .refl _
  | append_singleton bindings b ih =>
    rw [keys, List.map_append, List.nodup_append] at hn
    obtain ⟨hn, -, hdisjoint⟩ := hn
    have hperm := ih hn
    have hnew : b.1 ∉ keys (ofBindings bindings) := by
      intro hb
      exact hdisjoint b.1 ((hperm.map Prod.fst).mem_iff.1 hb) b.1 List.mem_cons_self rfl
    rw [ofBindings, List.foldl_append, ← ofBindings]
    exact (put_perm hnew).trans ((hperm.cons b).trans (List.perm_append_singleton b bindings).symm)

/-- A value that takes the place of one that looks alike does not show. -/
theorem map_put_of_get? [Trans (α := κ) (· < ·) (· < ·) (· < ·)] [Std.Irrefl (α := κ) (· < ·)]
    {β : Type} {g : ν → β} {k : κ} {v v' : ν} {entries : List (κ × ν)}
    (hs : (keys entries).Pairwise (· < ·)) (h : get? k entries = some v) (hg : g v' = g v) :
    ((put k v' entries).map Prod.snd).map g = (entries.map Prod.snd).map g := by
  induction entries with
  | nil => cases h
  | cons e rest ih =>
    obtain ⟨hfirst, hrest⟩ := List.pairwise_cons.1 hs
    unfold get? at h
    unfold put
    split
    · rename_i hk
      rw [if_pos hk] at h
      obtain rfl := Option.some.inj h
      simp only [List.map_cons, hg]
    · rename_i hk
      rw [if_neg hk] at h
      -- the key lies behind the first one
      have hlt := hfirst k (mem_keys_of_mem (mem_of_get?_eq_some h))
      rw [if_neg fun hgt => Std.Irrefl.irrefl k (Trans.trans hgt hlt)]
      simp only [List.map_cons, ih hrest h]

theorem eq_or_ne_of_mem_put [Trans (α := κ) (· < ·) (· < ·) (· < ·)]
    [Std.Trichotomous (α := κ) (· < ·)] [Std.Irrefl (α := κ) (· < ·)] {k : κ} {v : ν}
    {e : κ × ν} {entries : List (κ × ν)} (hs : (keys entries).Pairwise (· < ·))
    (h : e ∈ put k v entries) : e = (k, v) ∨ e ∈ entries ∧ e.1 ≠ k := by
  obtain ⟨k', v'⟩ := e
  by_cases hk : k' = k
  · subst hk
    have hv := (get?_eq_some_iff (nodup_of_sorted (sorted_put hs))).2 h
    rw [get?_put_self] at hv
    rw [Option.some.inj hv]
    exact Or.inl rfl
  · exact (eq_or_mem_of_mem_put h).imp_right fun hmem => ⟨hmem, hk⟩

end Put

/-! ## Mirrors -/

section Mirrors

variable {κ' ν' : Type} [DecidableEq κ] [DecidableEq κ'] [LT κ']
  {f : κ → κ'} {g : ν → ν'} {entries : List (κ × ν)} {tree : List (κ' × ν')}

/-- A tree in the order of its keys has the entries of a map with one entry for each key, with keys
translated by `f` and values by `g`. -/
structure Mirrors (f : κ → κ') (g : ν → ν') (entries : List (κ × ν)) (tree : List (κ' × ν')) :
    Prop where
  nodup : (keys entries).Nodup
  sorted : (keys tree).Pairwise (· < ·)
  get?_eq : ∀ k, get? (f k) tree = (get? k entries).map g
  range : ∀ k' ∈ keys tree, ∃ k, f k = k'

theorem mirrors_nil (f : κ → κ') (g : ν → ν') : Mirrors f g [] [] where
  nodup := List.nodup_nil
  sorted := List.Pairwise.nil
  get?_eq _ := rfl
  range _ h := by cases h

theorem Mirrors.contains (h : Mirrors f g entries tree) (k : κ) :
    contains (f k) tree = contains k entries := by
  rw [Entries.contains, Entries.contains, h.get?_eq, Option.isSome_map]

theorem Mirrors.put [DecidableRel (α := κ') (· < ·)] [Trans (α := κ') (· < ·) (· < ·) (· < ·)]
    [Std.Trichotomous (α := κ') (· < ·)] (hf : Function.Injective f)
    (h : Mirrors f g entries tree) (k : κ) (v : ν) :
    Mirrors f g (assign k v entries) (Entries.put (f k) (g v) tree) where
  nodup := nodup_keys_assign h.nodup
  sorted := sorted_put h.sorted
  get?_eq k' := by
    by_cases hk : k' = k
    · subst hk
      rw [get?_put_self, get?_assign_self, Option.map_some]
    · rw [get?_put_of_ne (hf.ne hk), get?_assign_of_ne hk, h.get?_eq]
  range k' hk' := by
    obtain ⟨e, he, rfl⟩ := List.mem_map.1 hk'
    rcases eq_or_mem_of_mem_put he with rfl | he
    · exact ⟨k, rfl⟩
    · exact h.range _ (List.mem_map_of_mem he)

/-- **The mirror is the translation of the entries in some order.** -/
theorem Mirrors.exists_map [Std.Irrefl (α := κ') (· < ·)] (hf : Function.Injective f)
    (h : Mirrors f g entries tree) :
    ∃ es : List (κ × ν), es.Perm entries ∧ tree = es.map (Prod.map f g) := by
  -- the two lists have different elements each, and the same ones
  have htree : (keys tree).Nodup := nodup_of_sorted h.sorted
  have hmap : (entries.map (Prod.map f g)).Nodup := by
    have hkeys : ((keys entries).map f).Nodup := h.nodup.map hf
    refine List.Nodup.of_map Prod.fst ?_
    rw [keys, List.map_map] at hkeys
    rwa [List.map_map]
  have hperm : tree.Perm (entries.map (Prod.map f g)) := by
    rw [List.perm_ext_iff_of_nodup (List.Nodup.of_map Prod.fst htree) hmap]
    rintro ⟨k', w⟩
    rw [← get?_eq_some_iff htree, List.mem_map]
    constructor
    · intro hw
      obtain ⟨k, rfl⟩ := h.range k' (mem_keys_of_mem (mem_of_get?_eq_some hw))
      rw [h.get?_eq] at hw
      obtain ⟨v, hv, rfl⟩ := Option.map_eq_some_iff.1 hw
      exact ⟨(k, v), mem_of_get?_eq_some hv, rfl⟩
    · rintro ⟨⟨k, v⟩, hmem, heq⟩
      obtain ⟨rfl, rfl⟩ := Prod.mk.inj heq
      rw [h.get?_eq, (get?_eq_some_iff h.nodup).2 hmem, Option.map_some]
  -- so the translation can be taken behind the change of order
  have hcomp := congrFun₂ (List.eq_map_comp_perm (Prod.map f g)) tree entries
  obtain ⟨es, htree, hes⟩ := hcomp.mpr hperm
  exact ⟨es, hes, htree⟩

end Mirrors

end CustomFields.Entries
