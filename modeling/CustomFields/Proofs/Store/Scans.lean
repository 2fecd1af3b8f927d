import CustomFields.Proofs.Store.Backends

/-!
# A scan finds the configs of a tenant

The key of a config joins the text of its tenant and its entity type by a slash, which the entity type
may hold as well. As the texts of tenants have one length, no two configs share a key, the keys of a
tenant are those that start with its text and a slash, and their bytes are in the order of the entity
types. So the tree answers a scan by what the store in memory has to filter and to sort.

The configs of this module are any that differ in their tenants or in their entity types: those are
the sets of configs that a store can hold. They are created in turn, in both kinds of storage.

## Main definitions

* `MemoryStore.ofConfigs`, `PersistentStore.ofConfigs`: the stores in which configs were created
* `listing`: the configs of a tenant, by their entity types

## Main results

* `MemoryStore.configs_ofConfigs`: what the store in memory holds
* `MemoryStore.mirroredBy_ofConfigs`: the tree mirrors it
* `configKeys_separate_configs`: what keys tell, and what a scan finds
-/

namespace CustomFields

open PersistentStore (readBack configBytes tenantBytes)

/-! ## Creating configs -/

/-- The store in memory in which configs were created, one after the other. -/
def MemoryStore.ofConfigs (cs : List EntityConfig) : MemoryStore :=
  cs.foldl (fun m c => (m.createConfig c).2) .empty

/-- The persistent store in which configs were created, one after the other. -/
def PersistentStore.ofConfigs (cs : List EntityConfig) : PersistentStore :=
  cs.foldl (fun s c => ((createConfig c).run serveTree s).2) .empty

namespace MemoryStore

theorem ofConfigs_concat (cs : List EntityConfig) (c : EntityConfig) :
    ofConfigs (cs ++ [c]) = ((ofConfigs cs).createConfig c).2 :=
  List.foldl_concat ..

theorem MirroredBy.createConfig {m : MemoryStore} {s : PersistentStore} (h : m.MirroredBy s)
    (c : EntityConfig) : (m.createConfig c).2.MirroredBy
      ((PersistentStore.createConfig c).run PersistentStore.serveTree s).2 := by
  rw [PersistentStore.run_createConfig, createConfig_eq, h.containsConfig]
  split
  · exact h
  · exact h.storeConfig c

/-- The two stores stay side by side, whatever is created. -/
theorem mirroredBy_ofConfigs (cs : List EntityConfig) :
    (ofConfigs cs).MirroredBy (.ofConfigs cs) := by
  induction cs using List.reverseRecOn with
  | nil => exact mirroredBy_empty
  | append_singleton cs c ih =>
    rw [ofConfigs_concat, PersistentStore.ofConfigs, List.foldl_concat]
    exact ih.createConfig c

/-- Configs that differ in their tenants or in their entity types are all kept. -/
theorem configs_ofConfigs {cs : List EntityConfig}
    (distinct : (cs.map fun c => (c.tenantId, c.entityType)).Nodup) :
    (ofConfigs cs).configs = cs.map fun c => (configKey c.tenantId c.entityType, c) := by
  induction cs using List.reverseRecOn with
  | nil => rfl
  | append_singleton cs c ih =>
    rw [List.map_append, List.nodup_append] at distinct
    have hconfigs := ih distinct.1
    -- a key that is there already would be that of a config with the same pair
    have hnew : configKey c.tenantId c.entityType ∉ Entries.keys (ofConfigs cs).configs := by
      rw [hconfigs, Entries.keys, List.map_map, List.mem_map]
      rintro ⟨d, hd, hkey⟩
      obtain ⟨ht, he⟩ := configKey_inj.1 hkey
      exact distinct.2.2 _ (List.mem_map_of_mem hd) _ (List.mem_map_of_mem List.mem_cons_self)
        (Prod.ext ht he)
    have hfree : Entries.contains (configKey c.tenantId c.entityType) (ofConfigs cs).configs
        = false := by
      rw [Entries.contains, Entries.get?_eq_none_iff.2 hnew]
      rfl
    rw [ofConfigs_concat, createConfig_eq, hfree, if_neg Bool.false_ne_true, storeConfig,
      Entries.assign_of_not_mem hnew, hconfigs, List.map_append]
    rfl

end MemoryStore

/-! ## The configs of a tenant -/

/-- The configs of a tenant among others, by their entity types. -/
def listing (cs : List EntityConfig) (t : Uuid) : List EntityConfig :=
  (cs.filter (·.tenantId == t)).mergeSort fun a b => decide (a.entityType ≤ b.entityType)

theorem listing_perm (cs : List EntityConfig) (t : Uuid) :
    (listing cs t).Perm (cs.filter (·.tenantId == t)) :=
  List.mergeSort_perm _ _

/-- No entity type comes twice, so the bytes of the entity types increase. -/
theorem listing_increasing {cs : List EntityConfig}
    (distinct : (cs.map fun c => (c.tenantId, c.entityType)).Nodup) (t : Uuid) :
    (listing cs t).Pairwise fun a b => a.entityType.toUTF8.toList < b.entityType.toUTF8.toList := by
  have hne : (listing cs t).Pairwise fun a b => a.entityType ≠ b.entityType := by
    refine (listing_perm cs t).symm.pairwise ?_ fun hab heq => hab heq.symm
    rw [List.Nodup, List.pairwise_map] at distinct
    refine (distinct.filter _).imp_of_mem fun {a b} ha hb hab heq => hab (Prod.ext ?_ heq)
    rw [beq_iff_eq.1 (List.mem_filter.1 ha).2, beq_iff_eq.1 (List.mem_filter.1 hb).2]
  have hle : (listing cs t).Pairwise fun a b => a.entityType ≤ b.entityType :=
    pairwise_mergeSort_entityType _
  refine (hle.and hne).imp fun {a b} ⟨hab, hneq⟩ => ?_
  have hlt : a.entityType < b.entityType := Std.lt_of_le_of_ne hab hneq
  rw [Utf8.toList_toUTF8, Utf8.toList_toUTF8, Utf8.encodeChars_lt_iff]
  exact hlt

theorem MemoryStore.listConfigs_ofConfigs {cs : List EntityConfig}
    (distinct : (cs.map fun c => (c.tenantId, c.entityType)).Nodup) (t : Uuid) :
    (ofConfigs cs).listConfigs t = listing cs t := by
  have hconfigs : (ofConfigs cs).configs.map Prod.snd = cs := by
    rw [configs_ofConfigs distinct, List.map_map]
    exact List.map_id cs
  rw [listConfigs, hconfigs, listing]

theorem PersistentStore.scan_ofConfigs {cs : List EntityConfig}
    (distinct : (cs.map fun c => (c.tenantId, c.entityType)).Nodup) (t : Uuid) :
    (ofConfigs cs).configs.scan (tenantBytes t) =
      (listing cs t).map fun c => c.toJson.compact := by
  rw [(MemoryStore.mirroredBy_ofConfigs cs).scan_eq, MemoryStore.listConfigs_ofConfigs distinct]

/-- **Keys separate configs.** A key tells its tenant and its entity type; it starts with the text of
a tenant and a slash exactly if it is a key of this tenant, in characters and in bytes; and the keys of
one tenant are in the order of the entity types as bytes. So, whatever configs are stored, a scan for
a tenant finds the texts of its configs and no others, by increasing entity types: the list that the
store in memory filters and sorts, and the one that is read back if each of the texts is. -/
theorem configKeys_separate_configs :
    (∀ t u e f, configKey t e = configKey u f → t = u ∧ e = f) ∧
    (∀ t u e, (u.text ++ "/").toList <+: (configKey t e).toList ↔ u = t) ∧
    (∀ t u e, tenantBytes u <+: configBytes t e ↔ u = t) ∧
    (∀ t e f, configBytes t e < configBytes t f ↔ e.toUTF8.toList < f.toUTF8.toList) ∧
    ∀ cs : List EntityConfig, (cs.map fun c => (c.tenantId, c.entityType)).Nodup → ∀ t,
      (PersistentStore.ofConfigs cs).configs.scan (tenantBytes t) =
        (listing cs t).map (fun c => c.toJson.compact) ∧
      (MemoryStore.ofConfigs cs).listConfigs t = listing cs t ∧
      (listing cs t).Perm (cs.filter (·.tenantId == t)) ∧
      (listing cs t).Pairwise
        (fun a b => a.entityType.toUTF8.toList < b.entityType.toUTF8.toList) ∧
      ((∀ c ∈ cs, readBack EntityConfig.decode c.toJson.compact = .ok c) →
        (PersistentStore.listConfigs t).run PersistentStore.serveTree (.ofConfigs cs) =
          (.ok (listing cs t), .ofConfigs cs)) := by
  refine ⟨fun t u e f => configKey_inj.1, fun t u e => ?_, fun t u e => ?_, fun t e f => ?_,
    fun cs distinct t => ?_⟩
  · rw [← Utf8.encodeChars_prefix_iff, ← Utf8.toList_toUTF8, ← Utf8.toList_toUTF8]
    exact PersistentStore.tenantBytes_prefix_iff
  · exact PersistentStore.tenantBytes_prefix_iff
  · rw [PersistentStore.configBytes_lt_iff, Utf8.toList_toUTF8, Utf8.toList_toUTF8,
      Utf8.encodeChars_lt_iff]
    rfl
  · have hscan := PersistentStore.scan_ofConfigs distinct t
    refine ⟨hscan, MemoryStore.listConfigs_ofConfigs distinct t, listing_perm cs t,
      listing_increasing distinct t, fun hread => ?_⟩
    have hlist : ((PersistentStore.ofConfigs cs).configs.scan (tenantBytes t)).mapM
        (readBack EntityConfig.decode) = .ok (listing cs t) := by
      rw [hscan, mapM_readBack]
      exact fun c hc => hread c (List.mem_of_mem_filter ((listing_perm cs t).mem_iff.1 hc))
    exact congrArg (·, PersistentStore.ofConfigs cs) hlist

/-- A config of the empty entity type. -/
def emptyTypeConfig : EntityConfig :=
  .new (.ofNat 4) (.ofNat 2) "" none ⟨[]⟩ ⟨0, 0⟩

/-- A config of another tenant, for an entity type that is taken. -/
def otherTenantConfig : EntityConfig :=
  .new (.ofNat 5) (.ofNat 3) "a/b" none ⟨[]⟩ ⟨0, 0⟩

/-- Of three configs the two of one tenant are found, the empty entity type first. -/
theorem configKeys_separate_three_configs :
    ([slashConfig, otherTenantConfig, emptyTypeConfig].map
        fun c => (c.tenantId, c.entityType)).Nodup ∧
      (PersistentStore.ofConfigs [slashConfig, otherTenantConfig, emptyTypeConfig]).configs.scan
          (tenantBytes (.ofNat 2)) =
        [emptyTypeConfig.toJson.compact, slashConfig.toJson.compact] ∧
      (PersistentStore.listConfigs (.ofNat 2)).run PersistentStore.serveTree
          (.ofConfigs [slashConfig, otherTenantConfig, emptyTypeConfig]) =
        (.ok [emptyTypeConfig, slashConfig],
          .ofConfigs [slashConfig, otherTenantConfig, emptyTypeConfig]) := by
  have hdistinct : ([slashConfig, otherTenantConfig, emptyTypeConfig].map
      fun c => (c.tenantId, c.entityType)).Nodup := by decide
  have hlisting : listing [slashConfig, otherTenantConfig, emptyTypeConfig] (.ofNat 2) =
      [emptyTypeConfig, slashConfig] :=
    mergeSort_eq_of_increasing (.swap ..) (List.pairwise_pair.2 (by decide))
  have hread : ∀ c ∈ [slashConfig, otherTenantConfig, emptyTypeConfig],
      readBack EntityConfig.decode c.toJson.compact = .ok c := by
    simp only [List.forall_mem_cons, readBack, Json.Value.parse?_compact]
    exact ⟨rfl, rfl, rfl, by simp⟩
  have hall := configKeys_separate_configs.2.2.2.2 _ hdistinct (.ofNat 2)
  rw [hlisting] at hall
  exact ⟨hdistinct, hall.1, hall.2.2.2.2 hread⟩

end CustomFields
