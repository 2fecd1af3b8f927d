import CustomFields.Proofs.Store.Backends
import CustomFields.Store.Storage

/-!
# What a storage holds

Whichever way a storage keeps its data, storing a config changes the answer for its own pair and for
nothing else, and storing a record the answer for its own id. Each entry lies under its own key, and
what a storage answers is one of its entries, as it reads it.

## Main definitions

* `Storage.config?`, `Storage.record?`: what a storage answers
* `StorageKind.ReadsConfig`, `StorageKind.ReadsRecord`: what is read for a thing that was stored
* `Storage.EachConfig`, `Storage.EachRecord`: a property of all that lies in a storage

## Main results

* `Storage.config?_storeConfig_self`, `Storage.record?_storeRecord_of_ne` and their likes: what
  storing changes
* `Storage.EachRecord.storeRecord` and its likes: storing keeps what holds of all entries
* `Storage.EachConfig.exists_reads`, `Storage.EachRecord.exists_reads`: an answer is an entry
-/

namespace CustomFields

open PersistentStore (readBack configBytes)

/-- What a storage of this kind reads for a config that was stored. In memory that is the config
itself. -/
def StorageKind.ReadsConfig : StorageKind → EntityConfig → EntityConfig → Prop
  | .memory, c, c' => c' = c
  | .tree, c, c' => readBack EntityConfig.decode c.toJson.compact = .ok c'

/-- What a storage of this kind reads for a record that was stored. -/
def StorageKind.ReadsRecord : StorageKind → Record → Record → Prop
  | .memory, r, r' => r' = r
  | .tree, r, r' => readBack Record.decode r.toJson.compact = .ok r'

namespace StorageKind

variable {k : StorageKind}

/-- In memory nothing changes on the way. -/
theorem readsConfig_self {c : EntityConfig}
    (h : k = .tree → readBack EntityConfig.decode c.toJson.compact = .ok c) :
    k.ReadsConfig c c := by
  cases k with
  | memory => exact rfl
  | tree => exact h rfl

theorem readsRecord_self {r : Record}
    (h : k = .tree → readBack Record.decode r.toJson.compact = .ok r) : k.ReadsRecord r r := by
  cases k with
  | memory => exact rfl
  | tree => exact h rfl

theorem ReadsConfig.eq {c c' : EntityConfig} (h : k.ReadsConfig c c) (h' : k.ReadsConfig c c') :
    c' = c := by
  cases k with
  | memory => exact h'
  | tree => exact Except.ok.inj (Eq.trans (Eq.symm h') h)

theorem ReadsRecord.eq {r r' : Record} (h : k.ReadsRecord r r) (h' : k.ReadsRecord r r') :
    r' = r := by
  cases k with
  | memory => exact h'
  | tree => exact Except.ok.inj (Eq.trans (Eq.symm h') h)

end StorageKind

namespace Storage

/-- Which kind of store a storage is. -/
def kind : Storage → StorageKind
  | .memory _ => .memory
  | .tree _ => .tree

/-- The config that a storage has for a pair. -/
def config? (S : Storage) (t : Uuid) (e : String) : Except StoreError (Option EntityConfig) :=
  (S.serve (.getConfig t e)).1

/-- The record that a storage has for an id. -/
def record? (S : Storage) (id : Uuid) : Except StoreError (Option Record) :=
  (S.serve (.getRecord id)).1

/-- Whether a pair has a config, which may be one that cannot be read. -/
def containsConfig : Storage → Uuid → String → Bool
  | .memory m, t, e => Entries.contains (configKey t e) m.configs
  | .tree s, t, e => Entries.contains (configBytes t e) s.configs

/-- Whether an id has a record, which may be one that cannot be read. -/
def containsRecord : Storage → Uuid → Bool
  | .memory m, id => Entries.contains id m.records
  | .tree s, id => Entries.contains id.bytes s.records

/-- The storage with a config under its key. -/
def storeConfig : Storage → EntityConfig → Storage
  | .memory m, c => .memory (m.storeConfig c)
  | .tree s, c => .tree (s.storeConfig c)

/-- The storage with a record under its id. -/
def storeRecord : Storage → Record → Storage
  | .memory m, r => .memory (m.storeRecord r)
  | .tree s, r => .tree (s.storeRecord r)

variable (S : Storage)

/-! ## Accesses -/

section Choice

variable {x : StoreAccess} {p : Prop} [Decidable p] {a b : Except StoreError x.Result}

/-- An access that goes one of two ways in memory does so in a storage. -/
theorem serve_memory_ite {m m₁ m₂ : MemoryStore} (h : m.serve x = if p then (a, m₁) else (b, m₂)) :
    (memory m).serve x = if p then (a, memory m₁) else (b, memory m₂) := by
  have hserve : (memory m).serve x = ((m.serve x).1, memory (m.serve x).2) := rfl
  rw [hserve, h]
  split
  · rfl
  · rfl

theorem serve_tree_ite {s s₁ s₂ : PersistentStore}
    (h : s.serve x = if p then (a, s₁) else (b, s₂)) :
    (tree s).serve x = if p then (a, tree s₁) else (b, tree s₂) := by
  have hserve : (tree s).serve x = ((s.serve x).1, tree (s.serve x).2) := rfl
  rw [hserve, h]
  split
  · rfl
  · rfl

end Choice

theorem serve_getConfig (t : Uuid) (e : String) :
    S.serve (.getConfig t e) = (S.config? t e, S) := by
  cases S with
  | memory m => rfl
  | tree s =>
    have hs : (s.serve (.getConfig t e)).2 = s := congrArg Prod.snd (s.run_getConfig t e)
    exact Prod.ext rfl (congrArg Storage.tree hs)

theorem serve_getRecord (id : Uuid) : S.serve (.getRecord id) = (S.record? id, S) := by
  cases S with
  | memory m => rfl
  | tree s =>
    have hs : (s.serve (.getRecord id)).2 = s := congrArg Prod.snd (s.run_getRecord id)
    exact Prod.ext rfl (congrArg Storage.tree hs)

theorem serve_listConfigs (t : Uuid) : (S.serve (.listConfigs t)).2 = S := by
  cases S <;> rfl

theorem serve_listRecords (f : RecordFilter) : (S.serve (.listRecords f)).2 = S := by
  cases S <;> rfl

theorem serve_createConfig_eq (c : EntityConfig) :
    S.serve (.createConfig c) = if S.containsConfig c.tenantId c.entityType then
      (.error (.configExists c.tenantId c.entityType), S) else (.ok c, S.storeConfig c) := by
  cases S with
  | memory m => exact serve_memory_ite (m.createConfig_eq c)
  | tree s => exact serve_tree_ite (s.run_createConfig c)

theorem serve_updateConfig_eq (c : EntityConfig) :
    S.serve (.updateConfig c) = if S.containsConfig c.tenantId c.entityType then
      (.ok c, S.storeConfig c) else (.error (.configNotFound c.tenantId c.entityType), S) := by
  cases S with
  | memory m => exact serve_memory_ite (m.updateConfig_eq c)
  | tree s => exact serve_tree_ite (s.run_updateConfig c)

theorem serve_insertRecord_eq (r : Record) :
    S.serve (.insertRecord r) = if S.containsRecord r.id then
      (.error (.recordExists r.id), S) else (.ok r, S.storeRecord r) := by
  cases S with
  | memory m => exact serve_memory_ite (m.insertRecord_eq r)
  | tree s => exact serve_tree_ite (s.run_insertRecord r)

theorem serve_updateRecord_eq (r : Record) :
    S.serve (.updateRecord r) = if S.containsRecord r.id then
      (.ok r, S.storeRecord r) else (.error (.recordNotFound r.id), S) := by
  cases S with
  | memory m => exact serve_memory_ite (m.updateRecord_eq r)
  | tree s => exact serve_tree_ite (s.run_updateRecord r)

/-- A config is stored, or the storage stays as it is. -/
theorem serve_createConfig (c : EntityConfig) :
    S.serve (.createConfig c) = (.error (.configExists c.tenantId c.entityType), S) ∨
      S.serve (.createConfig c) = (.ok c, S.storeConfig c) := by
  rw [serve_createConfig_eq]
  exact ite_eq_or_eq _ _ _

theorem serve_updateConfig (c : EntityConfig) :
    S.serve (.updateConfig c) = (.error (.configNotFound c.tenantId c.entityType), S) ∨
      S.serve (.updateConfig c) = (.ok c, S.storeConfig c) := by
  rw [serve_updateConfig_eq]
  exact (ite_eq_or_eq _ _ _).symm

/-- A record is stored, or the storage stays as it is. -/
theorem serve_insertRecord (r : Record) :
    S.serve (.insertRecord r) = (.error (.recordExists r.id), S) ∨
      S.serve (.insertRecord r) = (.ok r, S.storeRecord r) := by
  rw [serve_insertRecord_eq]
  exact ite_eq_or_eq _ _ _

theorem serve_updateRecord (r : Record) :
    S.serve (.updateRecord r) = (.error (.recordNotFound r.id), S) ∨
      S.serve (.updateRecord r) = (.ok r, S.storeRecord r) := by
  rw [serve_updateRecord_eq]
  exact (ite_eq_or_eq _ _ _).symm

/-! ## What storing changes -/

section Storing

variable {S}

theorem config?_memory (m : MemoryStore) (t : Uuid) (e : String) :
    (memory m).config? t e = .ok (Entries.get? (configKey t e) m.configs) := rfl

theorem config?_tree (s : PersistentStore) (t : Uuid) (e : String) :
    (tree s).config? t e =
      match Entries.get? (configBytes t e) s.configs with
      | none => .ok none
      | some text => (readBack EntityConfig.decode text).map some :=
  congrArg Prod.fst (s.run_getConfig t e)

theorem record?_tree (s : PersistentStore) (id : Uuid) :
    (tree s).record? id =
      match Entries.get? id.bytes s.records with
      | none => .ok none
      | some text => (readBack Record.decode text).map some :=
  congrArg Prod.fst (s.run_getRecord id)

theorem config?_storeConfig_self {c c' : EntityConfig} (hc : S.kind.ReadsConfig c c') :
    (S.storeConfig c).config? c.tenantId c.entityType = .ok (some c') := by
  cases S with
  | memory m =>
    obtain rfl : c' = c := hc
    exact congrArg Except.ok (Entries.get?_assign_self _ c' m.configs)
  | tree s =>
    have hget : Entries.get? (configBytes c.tenantId c.entityType) (s.storeConfig c).configs =
        some c.toJson.compact := Entries.get?_put_self _ _ s.configs
    have hback : readBack EntityConfig.decode c.toJson.compact = .ok c' := hc
    rw [storeConfig, config?_tree, hget]
    simp only [hback, Except.map]

theorem record?_storeConfig (S : Storage) (c : EntityConfig) (id : Uuid) :
    (S.storeConfig c).record? id = S.record? id := by
  cases S with
  | memory m => rfl
  | tree s =>
    rw [storeConfig, record?_tree, record?_tree]
    rfl

theorem record?_storeRecord_self {r r' : Record} (hr : S.kind.ReadsRecord r r') :
    (S.storeRecord r).record? r.id = .ok (some r') := by
  cases S with
  | memory m =>
    obtain rfl : r' = r := hr
    exact congrArg Except.ok (Entries.get?_assign_self _ r' m.records)
  | tree s =>
    have hget : Entries.get? r.id.bytes (s.storeRecord r).records = some r.toJson.compact :=
      Entries.get?_put_self _ _ s.records
    have hback : readBack Record.decode r.toJson.compact = .ok r' := hr
    rw [storeRecord, record?_tree, hget]
    simp only [hback, Except.map]

theorem record?_storeRecord_of_ne {r : Record} {id : Uuid} (h : id ≠ r.id) :
    (S.storeRecord r).record? id = S.record? id := by
  cases S with
  | memory m => exact congrArg Except.ok (Entries.get?_assign_of_ne h r m.records)
  | tree s =>
    have hget : Entries.get? id.bytes (s.storeRecord r).records =
        Entries.get? id.bytes s.records :=
      Entries.get?_put_of_ne (Uuid.bytes_injective.ne h) _ s.records
    rw [storeRecord, record?_tree, record?_tree, hget]

theorem kind_storeConfig (S : Storage) (c : EntityConfig) : (S.storeConfig c).kind = S.kind := by
  cases S <;> rfl

theorem kind_storeRecord (S : Storage) (r : Record) : (S.storeRecord r).kind = S.kind := by
  cases S <;> rfl

theorem serve_memory_of_eq {m m' : MemoryStore} {x : StoreAccess} {a : Except StoreError x.Result}
    (h : m.serve x = (a, m')) : (memory m).serve x = (a, memory m') := by
  show ((m.serve x).1, memory (m.serve x).2) = (a, memory m')
  rw [h]
  rfl

theorem serve_tree_of_eq {s s' : PersistentStore} {x : StoreAccess} {a : Except StoreError x.Result}
    (h : s.serve x = (a, s')) : (tree s).serve x = (a, tree s') := by
  show ((s.serve x).1, tree (s.serve x).2) = (a, tree s')
  rw [h]
  rfl

/-- A config is replaced where its pair has one. -/
theorem serve_updateConfig_of_config? {c c' : EntityConfig}
    (h : S.config? c.tenantId c.entityType = .ok (some c')) :
    S.serve (.updateConfig c) = (.ok c, S.storeConfig c) := by
  cases S with
  | memory m =>
    have hget : Entries.get? (configKey c.tenantId c.entityType) m.configs = some c' :=
      Except.ok.inj h
    have hcontains : Entries.contains (configKey c.tenantId c.entityType) m.configs = true := by
      rw [Entries.contains, hget, Option.isSome_some]
    exact serve_memory_of_eq ((m.updateConfig_eq c).trans (if_pos hcontains))
  | tree s =>
    have hcontains : Entries.contains (configBytes c.tenantId c.entityType) s.configs = true := by
      rw [config?_tree] at h
      split at h
      · cases h
      · rename_i text hget
        rw [Entries.contains, hget, Option.isSome_some]
    exact serve_tree_of_eq ((s.run_updateConfig c).trans (if_pos hcontains))

/-- A record is inserted only where none has its id. -/
theorem record?_of_serve_insertRecord {r r' : Record} {S' : Storage}
    (h : S.serve (.insertRecord r) = (.ok r', S')) : S.record? r.id = .ok none := by
  cases S with
  | memory m =>
    by_cases hcontains : Entries.contains r.id m.records = true
    · have hm : m.serve (.insertRecord r) = (.error (.recordExists r.id), m) :=
        (m.insertRecord_eq r).trans (if_pos hcontains)
      rw [serve_memory_of_eq hm] at h
      cases congrArg Prod.fst h
    · rw [Entries.contains, Bool.not_eq_true, Option.isSome_eq_false_iff, Option.isNone_iff_eq_none]
        at hcontains
      exact congrArg Except.ok hcontains
  | tree s =>
    by_cases hcontains : Entries.contains r.id.bytes s.records = true
    · have hs : s.serve (.insertRecord r) = (.error (.recordExists r.id), s) :=
        (s.run_insertRecord r).trans (if_pos hcontains)
      rw [serve_tree_of_eq hs] at h
      cases congrArg Prod.fst h
    · rw [Entries.contains, Bool.not_eq_true, Option.isSome_eq_false_iff, Option.isNone_iff_eq_none]
        at hcontains
      rw [record?_tree, hcontains]

/-- A record is inserted where none has its id. -/
theorem serve_insertRecord_of_record? {r : Record} (h : S.record? r.id = .ok none) :
    S.serve (.insertRecord r) = (.ok r, S.storeRecord r) := by
  cases S with
  | memory m =>
    have hget : Entries.get? r.id m.records = none := Except.ok.inj h
    have hcontains : ¬ Entries.contains r.id m.records = true := by simp [Entries.contains, hget]
    exact serve_memory_of_eq ((m.insertRecord_eq r).trans (if_neg hcontains))
  | tree s =>
    have hcontains : ¬ Entries.contains r.id.bytes s.records = true := by
      rw [record?_tree] at h
      split at h
      · rename_i hget
        simp [Entries.contains, hget]
      · -- what is read is a record, if it can be read
        rename_i text _
        cases hread : readBack Record.decode text <;> rw [hread] at h <;> cases h
    exact serve_tree_of_eq ((s.run_insertRecord r).trans (if_neg hcontains))

/-- A record is replaced where one has its id. -/
theorem serve_updateRecord_of_record? {r r' : Record} (h : S.record? r.id = .ok (some r')) :
    S.serve (.updateRecord r) = (.ok r, S.storeRecord r) := by
  cases S with
  | memory m =>
    have hget : Entries.get? r.id m.records = some r' := Except.ok.inj h
    have hcontains : Entries.contains r.id m.records = true := by
      rw [Entries.contains, hget, Option.isSome_some]
    exact serve_memory_of_eq ((m.updateRecord_eq r).trans (if_pos hcontains))
  | tree s =>
    have hcontains : Entries.contains r.id.bytes s.records = true := by
      rw [record?_tree] at h
      split at h
      · cases h
      · rename_i text hget
        rw [Entries.contains, hget, Option.isSome_some]
    exact serve_tree_of_eq ((s.run_updateRecord r).trans (if_pos hcontains))

end Storing

/-! ## What lies in a storage -/

/-- Each key has one entry; a tree has its keys in order. -/
def Distinct : Storage → Prop
  | .memory m => (Entries.keys m.configs).Nodup ∧ (Entries.keys m.records).Nodup
  | .tree s => (Entries.keys s.configs).Pairwise (· < ·) ∧ (Entries.keys s.records).Pairwise (· < ·)

/-- Each entry is a config, in a tree the text of one, that lies under its own key and has a
property. -/
def EachConfig : Storage → (EntityConfig → Prop) → Prop
  | .memory m, P => ∀ key c, (key, c) ∈ m.configs → key = configKey c.tenantId c.entityType ∧ P c
  | .tree s, P => ∀ key text, (key, text) ∈ s.configs →
      ∃ c : EntityConfig, key = configBytes c.tenantId c.entityType ∧ text = c.toJson.compact ∧ P c

/-- Each entry is a record, in a tree the text of one, that lies under its own id and has a
property. -/
def EachRecord : Storage → (Record → Prop) → Prop
  | .memory m, P => ∀ id r, (id, r) ∈ m.records → id = r.id ∧ P r
  | .tree s, P => ∀ key text, (key, text) ∈ s.records →
      ∃ r : Record, key = r.id.bytes ∧ text = r.toJson.compact ∧ P r

theorem distinct_new (k : StorageKind) : (new k).Distinct := by
  cases k with
  | memory => exact ⟨List.nodup_nil, List.nodup_nil⟩
  | tree => exact ⟨List.Pairwise.nil, List.Pairwise.nil⟩

theorem eachConfig_new (k : StorageKind) (P : EntityConfig → Prop) : (new k).EachConfig P := by
  cases k <;> rintro _ _ ⟨⟩

theorem eachRecord_new (k : StorageKind) (P : Record → Prop) : (new k).EachRecord P := by
  cases k <;> rintro _ _ ⟨⟩

section Entries

variable {S}

theorem Distinct.storeConfig (h : S.Distinct) (c : EntityConfig) : (S.storeConfig c).Distinct := by
  cases S with
  | memory m => exact ⟨Entries.nodup_keys_assign h.1, h.2⟩
  | tree s => exact ⟨Entries.sorted_put h.1, h.2⟩

theorem Distinct.storeRecord (h : S.Distinct) (r : Record) : (S.storeRecord r).Distinct := by
  cases S with
  | memory m => exact ⟨h.1, Entries.nodup_keys_assign h.2⟩
  | tree s => exact ⟨h.1, Entries.sorted_put h.2⟩

theorem EachConfig.storeConfig {P : EntityConfig → Prop} (h : S.EachConfig P) {c : EntityConfig}
    (hc : P c) : (S.storeConfig c).EachConfig P := by
  cases S with
  | memory m => exact Entries.forall_mem_assign ⟨rfl, hc⟩ h
  | tree s => exact Entries.forall_mem_put ⟨c, rfl, rfl, hc⟩ h

theorem EachConfig.storeRecord {P : EntityConfig → Prop} (h : S.EachConfig P) (r : Record) :
    (S.storeRecord r).EachConfig P := by
  cases S <;> exact h

theorem EachRecord.storeConfig {P : Record → Prop} (h : S.EachRecord P) (c : EntityConfig) :
    (S.storeConfig c).EachRecord P := by
  cases S <;> exact h

/-- The record that is stored has taken the place of the one with its id: what the others have to
satisfy may say so. -/
theorem EachRecord.storeRecord (hd : S.Distinct) {P Q : Record → Prop} (h : S.EachRecord P)
    {r : Record} (hr : Q r) (hold : ∀ r', P r' → r'.id ≠ r.id → Q r') :
    (S.storeRecord r).EachRecord Q := by
  cases S with
  | memory m =>
    intro id r' hr'
    -- an entry that is not the new one has another id
    rcases Entries.eq_or_ne_of_mem_assign hd.2 hr' with heq | ⟨hmem, hne⟩
    · obtain ⟨rfl, rfl⟩ := Prod.mk.inj heq
      exact ⟨rfl, hr⟩
    · obtain ⟨rfl, hp⟩ := h id r' hmem
      exact ⟨rfl, hold r' hp hne⟩
  | tree s =>
    intro key text ht
    rcases Entries.eq_or_ne_of_mem_put hd.2 ht with heq | ⟨hmem, hne⟩
    · obtain ⟨hkey, htext⟩ := Prod.mk.inj heq
      exact ⟨r, hkey, htext, hr⟩
    · obtain ⟨r', hkey, htext, hp⟩ := h key text hmem
      refine ⟨r', hkey, htext, hold r' hp fun hid => hne ?_⟩
      rw [hkey, hid]

theorem EachConfig.imp {P Q : EntityConfig → Prop} (h : S.EachConfig P) (himp : ∀ c, P c → Q c) :
    S.EachConfig Q := by
  cases S with
  | memory m =>
    intro key c hc
    exact ⟨(h key c hc).1, himp c (h key c hc).2⟩
  | tree s =>
    intro key text ht
    obtain ⟨c, hkey, htext, hp⟩ := h key text ht
    exact ⟨c, hkey, htext, himp c hp⟩

theorem EachRecord.imp {P Q : Record → Prop} (h : S.EachRecord P) (himp : ∀ r, P r → Q r) :
    S.EachRecord Q := by
  cases S with
  | memory m =>
    intro id r hr
    exact ⟨(h id r hr).1, himp r (h id r hr).2⟩
  | tree s =>
    intro key text ht
    obtain ⟨r, hkey, htext, hp⟩ := h key text ht
    exact ⟨r, hkey, htext, himp r hp⟩

theorem eq_ok_of_map_some {α : Type} {read : Except StoreError α} {a : α}
    (h : read.map some = .ok (some a)) : read = .ok a := by
  cases read with
  | error err => cases h
  | ok b => exact congrArg Except.ok (Option.some.inj (Except.ok.inj h))

theorem exists_ok_of_map {ε α β : Type} {f : α → β} {read : Except ε (Option α)} {b : Option β}
    (h : read.toOption.map (Option.map f) = some b) : ∃ a, read = .ok a ∧ a.map f = b := by
  cases read with
  | error err => cases h
  | ok a => exact ⟨a, rfl, Option.some.inj h⟩

/-- What a storage answers is one of its entries, as it reads it. -/
theorem EachConfig.exists_reads {P : EntityConfig → Prop} (h : S.EachConfig P) {t : Uuid}
    {e : String} {c' : EntityConfig} (hc : S.config? t e = .ok (some c')) :
    ∃ c, P c ∧ S.kind.ReadsConfig c c' := by
  cases S with
  | memory m =>
    have hget := Except.ok.inj ((config?_memory m t e).symm.trans hc)
    exact ⟨c', (h _ c' (Entries.mem_of_get?_eq_some hget)).2, rfl⟩
  | tree s =>
    rw [config?_tree] at hc
    split at hc
    · cases hc
    · rename_i text hget
      obtain ⟨c, -, htext, hp⟩ := h _ text (Entries.mem_of_get?_eq_some hget)
      rw [htext] at hc
      exact ⟨c, hp, eq_ok_of_map_some hc⟩

theorem EachRecord.exists_reads {P : Record → Prop} (h : S.EachRecord P) {id : Uuid}
    {r' : Record} (hr : S.record? id = .ok (some r')) :
    ∃ r, P r ∧ S.kind.ReadsRecord r r' := by
  cases S with
  | memory m =>
    have hget : Entries.get? id m.records = some r' := Except.ok.inj hr
    exact ⟨r', (h _ r' (Entries.mem_of_get?_eq_some hget)).2, rfl⟩
  | tree s =>
    rw [record?_tree] at hr
    split at hr
    · cases hr
    · rename_i text hget
      obtain ⟨r, -, htext, hp⟩ := h _ text (Entries.mem_of_get?_eq_some hget)
      rw [htext] at hr
      exact ⟨r, hp, eq_ok_of_map_some hr⟩

end Entries

end Storage

end CustomFields
