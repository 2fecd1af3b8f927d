import CustomFields.Proofs.Data.Entries
import CustomFields.Store.Memory

/-!
# What a store in memory holds

An access reads, fails, or stores one thing under its own key. So everything in a store lies under
its own key, whatever has been done with it.

## Main definitions

* `MemoryStore.storeConfig`, `MemoryStore.storeRecord`: the two ways in which a store changes
* `MemoryStore.Keyed`: each thing lies under its own key

## Main results

* `MemoryStore.serve_cases`: what an access does to a store
* `MemoryStore.Keyed.serve`: an access keeps everything under its own key
-/

namespace CustomFields.MemoryStore

/-- The store with a config under its key. -/
def storeConfig (m : MemoryStore) (c : EntityConfig) : MemoryStore :=
  { m with configs := Entries.assign (configKey c.tenantId c.entityType) c m.configs }

/-- The store with a record under its id. -/
def storeRecord (m : MemoryStore) (r : Record) : MemoryStore :=
  { m with records := Entries.assign r.id r m.records }

variable (m : MemoryStore)

/-! ## Writing -/

theorem createConfig_eq (c : EntityConfig) :
    m.createConfig c = if Entries.contains (configKey c.tenantId c.entityType) m.configs
      then (.error (.configExists c.tenantId c.entityType), m) else (.ok c, m.storeConfig c) := rfl

theorem updateConfig_eq (c : EntityConfig) :
    m.updateConfig c = if Entries.contains (configKey c.tenantId c.entityType) m.configs
      then (.ok c, m.storeConfig c)
      else (.error (.configNotFound c.tenantId c.entityType), m) := rfl

theorem insertRecord_eq (r : Record) :
    m.insertRecord r = if Entries.contains r.id m.records
      then (.error (.recordExists r.id), m) else (.ok r, m.storeRecord r) := rfl

theorem updateRecord_eq (r : Record) :
    m.updateRecord r = if Entries.contains r.id m.records
      then (.ok r, m.storeRecord r) else (.error (.recordNotFound r.id), m) := rfl

/-- **What an access does to a store**: nothing, or it stores what it was given. -/
theorem serve_cases (x : StoreAccess) :
    (m.serve x).2 = m ∨
      (∃ c, (x = .createConfig c ∨ x = .updateConfig c) ∧ (m.serve x).2 = m.storeConfig c) ∨
      ∃ r, (x = .insertRecord r ∨ x = .updateRecord r) ∧ (m.serve x).2 = m.storeRecord r := by
  cases x with
  | getConfig t e => exact Or.inl rfl
  | listConfigs t => exact Or.inl rfl
  | getRecord id => exact Or.inl rfl
  | listRecords f => exact Or.inl rfl
  | createConfig c =>
    simp only [serve, createConfig_eq]
    split
    · exact Or.inl rfl
    · exact Or.inr (Or.inl ⟨c, Or.inl rfl, rfl⟩)
  | updateConfig c =>
    simp only [serve, updateConfig_eq]
    split
    · exact Or.inr (Or.inl ⟨c, Or.inr rfl, rfl⟩)
    · exact Or.inl rfl
  | insertRecord r =>
    simp only [serve, insertRecord_eq]
    split
    · exact Or.inl rfl
    · exact Or.inr (Or.inr ⟨r, Or.inl rfl, rfl⟩)
  | updateRecord r =>
    simp only [serve, updateRecord_eq]
    split
    · exact Or.inr (Or.inr ⟨r, Or.inr rfl, rfl⟩)
    · exact Or.inl rfl

/-! ## Keys -/

/-- Each thing that is stored lies under its own key. -/
structure Keyed (m : MemoryStore) : Prop where
  config : ∀ key c, (key, c) ∈ m.configs → key = configKey c.tenantId c.entityType
  record : ∀ id r, (id, r) ∈ m.records → id = r.id

theorem keyed_empty : empty.Keyed where
  config _ _ h := by cases h
  record _ _ h := by cases h

variable {m}

theorem Keyed.storeConfig (h : m.Keyed) (c : EntityConfig) : (m.storeConfig c).Keyed where
  config := Entries.forall_mem_assign rfl h.config
  record := h.record

theorem Keyed.storeRecord (h : m.Keyed) (r : Record) : (m.storeRecord r).Keyed where
  config := h.config
  record := Entries.forall_mem_assign rfl h.record

theorem Keyed.serve (h : m.Keyed) (x : StoreAccess) : (m.serve x).2.Keyed := by
  obtain hm | ⟨c, -, hm⟩ | ⟨r, -, hm⟩ := m.serve_cases x
  · rwa [hm]
  · rw [hm]
    exact h.storeConfig c
  · rw [hm]
    exact h.storeRecord r

end CustomFields.MemoryStore
