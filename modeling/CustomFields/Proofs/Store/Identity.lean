import CustomFields.Proofs.Calendar.Timestamp
import CustomFields.Proofs.Store.Document

/-!
# What becomes of what is stored

Whether it is kept in memory or in trees, a storage has things under keys: the things themselves, or
their texts. Storing a thing changes what lies under one key, and nothing else.

A thing that is updated has been read before, and what is read from a text is not always what was
written: numbers may have changed on the way, and a point in time that the calendar does not have
comes back as another one. But the id, the tenant, the entity type, the name and the text of the
moment of creation are read as they were written. So a thing that is stored again with other values
has the text that it would have if it had not been read at all.

## Main definitions

* `Storage.HasConfig`, `Storage.HasRecord`: what lies under a key
* `Storage.SetsConfig`, `Storage.SetsRecord`: a storage changes under one key only
* `Storage.Orderly`: each thing lies under its own key, and under no other one

## Main results

* `StorageKind.ReadsConfig.replace`, `StorageKind.ReadsRecord.replace`: what is stored for a thing
  that has been read
* `Storage.setsConfig_storeConfig`, `Storage.setsRecord_storeRecord`: what storing changes
* `Storage.listedIds_storeRecord`: what it does not change in a listing
* `Storage.exists_record?_of_listedIds`: a listing takes that each record can be read
-/

namespace CustomFields

open PersistentStore (configBytes readBack)

/-! ## What is stored for a thing that has been read -/

namespace StorageKind

/-- A storage of this kind keeps two configs alike. -/
def AlikeConfigs : StorageKind → EntityConfig → EntityConfig → Prop
  | .memory, c, c' => c' = c
  | .tree, c, c' => c'.toJson.compact = c.toJson.compact

/-- A storage of this kind keeps two records alike. -/
def AlikeRecords : StorageKind → Record → Record → Prop
  | .memory, r, r' => r' = r
  | .tree, r, r' => r'.toJson.compact = r.toJson.compact

variable {k : StorageKind}

theorem alikeConfigs_refl (k : StorageKind) (c : EntityConfig) : k.AlikeConfigs c c := by
  cases k <;> rfl

theorem alikeRecords_refl (k : StorageKind) (r : Record) : k.AlikeRecords r r := by
  cases k <;> rfl

theorem ReadsConfig.key_eq {c c' : EntityConfig} (h : k.ReadsConfig c c') :
    c'.tenantId = c.tenantId ∧ c'.entityType = c.entityType := by
  cases k with
  | memory =>
    obtain rfl : c' = c := h
    exact ⟨rfl, rfl⟩
  | tree =>
    have hread := EntityConfig.isReadAs_of_recovers (PersistentStore.recovers_of_readBack h)
    exact ⟨hread.tenantId, hread.entityType⟩

theorem ReadsRecord.id_eq {r r' : Record} (h : k.ReadsRecord r r') : r'.id = r.id := by
  cases k with
  | memory => exact congrArg Record.id h
  | tree => exact (Record.isReadAs_of_recovers (PersistentStore.recovers_of_readBack h)).id

/-- **A config that has been read and is stored with another schema** is kept as if it had not been
read: of what is read, only what is replaced may have changed. -/
theorem ReadsConfig.replace {c c' : EntityConfig} (h : k.ReadsConfig c c') (schema : Schema)
    (now : Calendar.Timestamp) (name : Option String) :
    k.AlikeConfigs { c with schema, updatedAt := now, name := name.or c.name }
      { c'.replaceSchema schema now with name := name.or c'.name } := by
  cases k with
  | memory =>
    obtain rfl : c' = c := h
    rfl
  | tree =>
    have hread := EntityConfig.isReadAs_of_recovers (PersistentStore.recovers_of_readBack h)
    have hcreated := Calendar.Timestamp.text_of_parse?_text hread.createdAt
    refine congrArg Json.Value.compact ?_
    simp only [EntityConfig.toJson, EntityConfig.replaceSchema, hread.id, hread.tenantId,
      hread.entityType, hread.name, hcreated]

/-- A record that has been read and is stored with other values. -/
theorem ReadsRecord.replace {r r' : Record} (h : k.ReadsRecord r r') (values : Json.Object)
    (now : Calendar.Timestamp) :
    k.AlikeRecords { r with customData := values, updatedAt := now }
      (r'.replaceData values now) := by
  cases k with
  | memory =>
    obtain rfl : r' = r := h
    rfl
  | tree =>
    have hread := Record.isReadAs_of_recovers (PersistentStore.recovers_of_readBack h)
    have hcreated := Calendar.Timestamp.text_of_parse?_text hread.createdAt
    refine congrArg Json.Value.compact ?_
    simp only [Record.toJson, Record.replaceData, hread.id, hread.tenantId, hread.entityType,
      hcreated]

end StorageKind

/-! ## What lies under a key -/

namespace Storage

/-- A config lies under the key of a pair: in memory the config itself, in a tree its text. -/
def HasConfig : Storage → Uuid → String → EntityConfig → Prop
  | .memory m, t, e, c => Entries.get? (configKey t e) m.configs = some c
  | .tree s, t, e, c => Entries.get? (configBytes t e) s.configs = some c.toJson.compact

/-- A record lies under an id: in memory the record itself, in a tree its text. -/
def HasRecord : Storage → Uuid → Record → Prop
  | .memory m, id, r => Entries.get? id m.records = some r
  | .tree s, id, r => Entries.get? id.bytes s.records = some r.toJson.compact

/-- A storage comes to have a config for a pair, and has else what it had. -/
structure SetsConfig (S : Storage) (t : Uuid) (e : String) (c : EntityConfig) (S' : Storage) :
    Prop where
  config : S'.HasConfig t e c
  others : ∀ t' e' c', ¬ (t' = t ∧ e' = e) → (S'.HasConfig t' e' c' ↔ S.HasConfig t' e' c')
  records : ∀ id r, S'.HasRecord id r ↔ S.HasRecord id r

/-- A storage comes to have a record for an id, and has else what it had. -/
structure SetsRecord (S : Storage) (id : Uuid) (r : Record) (S' : Storage) : Prop where
  record : S'.HasRecord id r
  others : ∀ id' r', id' ≠ id → (S'.HasRecord id' r' ↔ S.HasRecord id' r')
  configs : ∀ t e c, S'.HasConfig t e c ↔ S.HasConfig t e c

variable {S S' : Storage} {t : Uuid} {e : String} {id : Uuid}

theorem setsConfig_storeConfig (S : Storage) {c c' : EntityConfig}
    (h : S.kind.AlikeConfigs c c') :
    S.SetsConfig c'.tenantId c'.entityType c (S.storeConfig c') := by
  cases S with
  | memory m =>
    obtain rfl : c' = c := h
    refine ⟨Entries.get?_assign_self _ c' m.configs, fun t' e' c'' hne => ?_, fun _ _ => Iff.rfl⟩
    have hkey : configKey t' e' ≠ configKey c'.tenantId c'.entityType :=
      fun heq => hne (configKey_inj.1 heq)
    exact iff_of_eq (congrArg (· = some c'') (Entries.get?_assign_of_ne hkey c' m.configs))
  | tree s =>
    have h : c'.toJson.compact = c.toJson.compact := h
    refine ⟨(Entries.get?_put_self _ _ s.configs).trans (congrArg some h), fun t' e' c'' hne => ?_,
      fun _ _ => Iff.rfl⟩
    have hkey : configBytes t' e' ≠ configBytes c'.tenantId c'.entityType :=
      fun heq => hne (configKey_inj.1 (PersistentStore.configBytes_injective heq))
    exact iff_of_eq (congrArg (· = some c''.toJson.compact)
      (Entries.get?_put_of_ne hkey c'.toJson.compact s.configs))

theorem setsRecord_storeRecord (S : Storage) {r r' : Record} (h : S.kind.AlikeRecords r r') :
    S.SetsRecord r'.id r (S.storeRecord r') := by
  cases S with
  | memory m =>
    obtain rfl : r' = r := h
    refine ⟨Entries.get?_assign_self _ r' m.records, fun id' r'' hne => ?_, fun _ _ _ => Iff.rfl⟩
    exact iff_of_eq (congrArg (· = some r'') (Entries.get?_assign_of_ne hne r' m.records))
  | tree s =>
    have h : r'.toJson.compact = r.toJson.compact := h
    refine ⟨(Entries.get?_put_self _ _ s.records).trans (congrArg some h), fun id' r'' hne => ?_,
      fun _ _ _ => Iff.rfl⟩
    exact iff_of_eq (congrArg (· = some r''.toJson.compact)
      (Entries.get?_put_of_ne (Uuid.bytes_injective.ne hne) r'.toJson.compact s.records))

/-! ## Reading what lies under a key -/

theorem HasConfig.config?_eq {c : EntityConfig} (h : S.HasConfig t e c) :
    (∃ c', S.config? t e = .ok (some c') ∧ S.kind.ReadsConfig c c') ∨
      ∃ err, S.config? t e = .error err := by
  cases S with
  | memory m => exact Or.inl ⟨c, congrArg Except.ok h, rfl⟩
  | tree s =>
    have h : Entries.get? (configBytes t e) s.configs = some c.toJson.compact := h
    have hget : (tree s).config? t e =
        (readBack EntityConfig.decode c.toJson.compact).map some := by
      rw [config?_tree, h]
    rw [hget]
    cases hread : readBack EntityConfig.decode c.toJson.compact with
    | error err => exact Or.inr ⟨err, rfl⟩
    | ok c' => exact Or.inl ⟨c', rfl, hread⟩

theorem HasRecord.record?_eq {r : Record} (h : S.HasRecord id r) :
    (∃ r', S.record? id = .ok (some r') ∧ S.kind.ReadsRecord r r') ∨
      ∃ err, S.record? id = .error err := by
  cases S with
  | memory m => exact Or.inl ⟨r, congrArg Except.ok h, rfl⟩
  | tree s =>
    have h : Entries.get? id.bytes s.records = some r.toJson.compact := h
    have hget : (tree s).record? id = (readBack Record.decode r.toJson.compact).map some := by
      rw [record?_tree, h]
    rw [hget]
    cases hread : readBack Record.decode r.toJson.compact with
    | error err => exact Or.inr ⟨err, rfl⟩
    | ok r' => exact Or.inl ⟨r', rfl, hread⟩

theorem HasConfig.reads {c c' : EntityConfig} (h : S.HasConfig t e c)
    (hc : S.config? t e = .ok (some c')) : S.kind.ReadsConfig c c' := by
  obtain ⟨c'', hc'', hread⟩ | ⟨err, herr⟩ := h.config?_eq
  · obtain rfl := Option.some.inj (Except.ok.inj (hc''.symm.trans hc))
    exact hread
  · cases herr.symm.trans hc

theorem HasRecord.reads {r r' : Record} (h : S.HasRecord id r)
    (hr : S.record? id = .ok (some r')) : S.kind.ReadsRecord r r' := by
  obtain ⟨r'', hr'', hread⟩ | ⟨err, herr⟩ := h.record?_eq
  · obtain rfl := Option.some.inj (Except.ok.inj (hr''.symm.trans hr))
    exact hread
  · cases herr.symm.trans hr

/-- What is read lies under the key, and under no other one. -/
theorem EachConfig.exists_hasConfig {P : EntityConfig → Prop} (h : S.EachConfig P)
    {c' : EntityConfig} (hc : S.config? t e = .ok (some c')) :
    ∃ c, S.HasConfig t e c ∧ c.tenantId = t ∧ c.entityType = e := by
  cases S with
  | memory m =>
    have hget := Except.ok.inj ((config?_memory m t e).symm.trans hc)
    obtain ⟨hkey, -⟩ := h _ c' (Entries.mem_of_get?_eq_some hget)
    obtain ⟨ht, he⟩ := configKey_inj.1 hkey
    exact ⟨c', hget, ht.symm, he.symm⟩
  | tree s =>
    rw [config?_tree] at hc
    split at hc
    · cases hc
    · rename_i text hget
      obtain ⟨c, hkey, rfl, -⟩ := h _ text (Entries.mem_of_get?_eq_some hget)
      obtain ⟨ht, he⟩ := configKey_inj.1 (PersistentStore.configBytes_injective hkey)
      exact ⟨c, hget, ht.symm, he.symm⟩

theorem EachRecord.exists_hasRecord {P : Record → Prop} (h : S.EachRecord P) {r' : Record}
    (hr : S.record? id = .ok (some r')) : ∃ r, S.HasRecord id r ∧ r.id = id := by
  cases S with
  | memory m =>
    have hget : Entries.get? id m.records = some r' := Except.ok.inj hr
    exact ⟨r', hget, (h _ r' (Entries.mem_of_get?_eq_some hget)).1.symm⟩
  | tree s =>
    rw [record?_tree] at hr
    split at hr
    · cases hr
    · rename_i text hget
      obtain ⟨r, hkey, rfl, -⟩ := h _ text (Entries.mem_of_get?_eq_some hget)
      exact ⟨r, hget, (Uuid.bytes_injective hkey).symm⟩

/-! ## Writing -/

/-- A config is created only where its pair has none. -/
theorem not_hasConfig_of_serve_createConfig {c c' : EntityConfig}
    (h : S.serve (.createConfig c) = (.ok c', S')) (c'' : EntityConfig) :
    ¬ S.HasConfig c.tenantId c.entityType c'' := by
  intro hhas
  cases S with
  | memory m =>
    have hget : Entries.get? (configKey c.tenantId c.entityType) m.configs = some c'' := hhas
    have hcontains : Entries.contains (configKey c.tenantId c.entityType) m.configs = true := by
      rw [Entries.contains, hget, Option.isSome_some]
    have hm : m.serve (.createConfig c) = (.error (.configExists c.tenantId c.entityType), m) :=
      (m.createConfig_eq c).trans (if_pos hcontains)
    rw [serve_memory_of_eq hm] at h
    cases congrArg Prod.fst h
  | tree s =>
    have hget : Entries.get? (configBytes c.tenantId c.entityType) s.configs =
        some c''.toJson.compact := hhas
    have hcontains : Entries.contains (configBytes c.tenantId c.entityType) s.configs = true := by
      rw [Entries.contains, hget, Option.isSome_some]
    have hs : s.serve (.createConfig c) = (.error (.configExists c.tenantId c.entityType), s) :=
      (s.run_createConfig c).trans (if_pos hcontains)
    rw [serve_tree_of_eq hs] at h
    cases congrArg Prod.fst h

theorem not_hasRecord_of_serve_insertRecord {r r' : Record}
    (h : S.serve (.insertRecord r) = (.ok r', S')) (r'' : Record) : ¬ S.HasRecord r.id r'' := by
  intro hhas
  have hnone := record?_of_serve_insertRecord h
  obtain ⟨r₁, hr₁, -⟩ | ⟨err, herr⟩ := hhas.record?_eq
  · cases hnone.symm.trans hr₁
  · cases hnone.symm.trans herr

/-- Each thing lies under its own key, and under no other one. -/
structure Orderly (S : Storage) : Prop where
  distinct : S.Distinct
  configs : S.EachConfig fun _ => True
  records : S.EachRecord fun _ => True

/-- What is read has the key that it is read for. -/
theorem Orderly.key_of_config? (h : S.Orderly) {c : EntityConfig}
    (hc : S.config? t e = .ok (some c)) : c.tenantId = t ∧ c.entityType = e := by
  obtain ⟨c₀, hhas, ht, he⟩ := h.configs.exists_hasConfig hc
  obtain ⟨htenant, htype⟩ := (hhas.reads hc).key_eq
  exact ⟨htenant.trans ht, htype.trans he⟩

theorem Orderly.id_of_record? (h : S.Orderly) {r : Record} (hr : S.record? id = .ok (some r)) :
    r.id = id := by
  obtain ⟨r₀, hhas, hid⟩ := h.records.exists_hasRecord hr
  exact (hhas.reads hr).id_eq.trans hid

theorem orderly_new (k : StorageKind) : (new k).Orderly :=
  ⟨distinct_new k, eachConfig_new k _, eachRecord_new k _⟩

theorem Orderly.storeConfig (h : S.Orderly) (c : EntityConfig) : (S.storeConfig c).Orderly :=
  ⟨h.distinct.storeConfig c, h.configs.storeConfig trivial, h.records.storeConfig c⟩

theorem Orderly.storeRecord (h : S.Orderly) (r : Record) : (S.storeRecord r).Orderly :=
  ⟨h.distinct.storeRecord r, h.configs.storeRecord r,
    h.records.storeRecord h.distinct trivial fun _ _ _ => trivial⟩

/-! ## Listings -/

/-- The ids that a storage lists for a filter, in the order of the page. -/
def listedIds (S : Storage) (f : RecordFilter) : Except StoreError (List Uuid) :=
  (S.serve (.listRecords f)).1.map fun rs : List Record => rs.map (·.id)

theorem map_mapM_cons {ε α β γ : Type} (read : α → Except ε β) (g : β → γ) (x : α) (xs : List α) :
    ((x :: xs).mapM read).map (List.map g) =
      ((read x).map g).bind fun c => ((xs.mapM read).map (List.map g)).map (c :: ·) := by
  rw [List.mapM_cons]
  cases read x with
  | error err => rfl
  | ok b => cases xs.mapM read <;> rfl

/-- Rows of texts that look alike when they are read one by one do so when they are read as a
whole. -/
theorem map_mapM_congr {ε α β γ : Type} {read : α → Except ε β} {g : β → γ} {xs ys : List α}
    (h : (xs.map fun x => (read x).map g) = ys.map fun y => (read y).map g) :
    (xs.mapM read).map (List.map g) = (ys.mapM read).map (List.map g) := by
  induction xs generalizing ys with
  | nil =>
    obtain rfl := List.map_eq_nil_iff.1 h.symm
    rfl
  | cons x xs ih =>
    cases ys with
    | nil => cases h
    | cons y ys =>
      obtain ⟨hxy, hrest⟩ := List.cons.inj h
      have hxy : (read x).map g = (read y).map g := hxy
      rw [map_mapM_cons, map_mapM_cons, hxy, ih hrest]

theorem listedIds_memory (m : MemoryStore) (f : RecordFilter) :
    (memory m).listedIds f = .ok ((f.apply ((m.records.map Prod.snd).map RecordFilter.outline)).map
      (·.id)) := by
  rw [← RecordFilter.map_outline_apply, List.map_map]
  rfl

theorem serve_listRecords_tree (s : PersistentStore) (f : RecordFilter) :
    ((tree s).serve (.listRecords f)).1 =
      ((s.records.map Prod.snd).mapM (readBack Record.decode)).map f.apply := by
  have hscan : s.records.scan [] = s.records.map Prod.snd := by
    simp [ByteTree.scan]
  rw [← hscan]
  rfl

theorem listedIds_tree (s : PersistentStore) (f : RecordFilter) :
    (tree s).listedIds f =
      (((s.records.map Prod.snd).mapM (readBack Record.decode)).map
        (List.map RecordFilter.outline)).map fun rs => (f.apply rs).map (·.id) := by
  rw [listedIds, serve_listRecords_tree]
  cases (s.records.map Prod.snd).mapM (readBack Record.decode) with
  | error err => rfl
  | ok rs =>
    refine congrArg Except.ok ?_
    show (f.apply rs).map (·.id) = (f.apply (rs.map RecordFilter.outline)).map (·.id)
    rw [← RecordFilter.map_outline_apply, List.map_map]
    rfl

theorem exists_mapM_eq_ok {ε α β : Type} {read : α → Except ε β} {xs : List α}
    (h : ∀ x ∈ xs, ∃ y, read x = .ok y) : ∃ ys, xs.mapM read = .ok ys := by
  induction xs with
  | nil => exact ⟨[], rfl⟩
  | cons x xs ih =>
    obtain ⟨⟨y, hy⟩, hxs⟩ := List.forall_mem_cons.1 h
    obtain ⟨ys, hys⟩ := ih hxs
    exact ⟨y :: ys, by rw [List.mapM_cons, hy, hys]; rfl⟩

theorem exists_ok_of_mapM {ε α β : Type} {read : α → Except ε β} {xs : List α} {ys : List β}
    (h : xs.mapM read = .ok ys) : ∀ x ∈ xs, ∃ y, read x = .ok y := by
  induction xs generalizing ys with
  | nil =>
    intro x hx
    cases hx
  | cons x xs ih =>
    rw [List.mapM_cons] at h
    cases hx : read x with
    | error err =>
      rw [hx] at h
      cases h
    | ok y =>
      cases hxs : xs.mapM read with
      | error err =>
        rw [hx, hxs] at h
        cases h
      | ok ys => exact List.forall_mem_cons.2 ⟨⟨y, hx⟩, ih hxs⟩

/-- Where records are listed, each of them can be read. -/
theorem exists_record?_of_listedIds {f : RecordFilter} {ids : List Uuid}
    (h : S.listedIds f = .ok ids) (id : Uuid) : ∃ r?, S.record? id = .ok r? := by
  cases S with
  | memory m => exact ⟨_, rfl⟩
  | tree s =>
    rw [listedIds_tree] at h
    rw [record?_tree]
    cases hread : (s.records.map Prod.snd).mapM (readBack Record.decode) with
    | error err =>
      rw [hread] at h
      cases h
    | ok rs =>
      cases hget : Entries.get? id.bytes s.records with
      | none => exact ⟨none, rfl⟩
      | some text =>
        have hmem : text ∈ s.records.map Prod.snd :=
          List.mem_map_of_mem (Entries.mem_of_get?_eq_some hget)
        obtain ⟨r, hr⟩ := exists_ok_of_mapM hread text hmem
        exact ⟨some r, congrArg (Except.map some) hr⟩

/-- A record that is read, stored with other values, and read again looks as it did. -/
theorem outline_eq_of_isReadAs {r₀ r r' : Record} {values : Json.Object}
    {now : Calendar.Timestamp} (h : r₀.IsReadAs r) (h' : (r.replaceData values now).IsReadAs r') :
    RecordFilter.outline r' = RecordFilter.outline r := by
  have hcreated : r'.createdAt = r.createdAt := by
    have htext := Calendar.Timestamp.text_of_parse?_text h.createdAt
    have hparse : Calendar.Timestamp.parse? r.createdAt.text = some r.createdAt := by
      rw [htext]
      exact h.createdAt
    exact Option.some.inj (h'.createdAt.symm.trans hparse)
  have hid : r'.id = r.id := h'.id
  have htenant : r'.tenantId = r.tenantId := h'.tenantId
  have htype : r'.entityType = r.entityType := h'.entityType
  simp only [RecordFilter.outline, hid, htenant, htype, hcreated]

/-- **A record that is stored with other values does not show in a listing of ids**, if it can be
read. -/
theorem listedIds_storeRecord (h : S.Orderly) {r r' : Record} (hr : S.record? id = .ok (some r))
    {values : Json.Object} {now : Calendar.Timestamp}
    (hread : S.kind.ReadsRecord (r.replaceData values now) r') (f : RecordFilter) :
    (S.storeRecord (r.replaceData values now)).listedIds f = S.listedIds f := by
  obtain ⟨r₀, hhas, -⟩ := h.records.exists_hasRecord hr
  have hreads := hhas.reads hr
  have hrid := h.id_of_record? hr
  cases S with
  -- in memory the record takes the place of the one that was read
  | memory m =>
    obtain rfl : r = r₀ := hreads
    have hget : Entries.get? (r.replaceData values now).id m.records = some r := by
      rw [← hrid] at hhas
      exact hhas
    have hlook : RecordFilter.outline (r.replaceData values now) = RecordFilter.outline r := rfl
    have hentries := Entries.map_assign_of_get? hget hlook
    rw [storeRecord, listedIds_memory, listedIds_memory, MemoryStore.storeRecord, hentries]
  -- in a tree its text does, and what the two texts are read as looks alike
  | tree s =>
    have hget : Entries.get? (r.replaceData values now).id.bytes s.records =
        some r₀.toJson.compact := by
      rw [← hrid] at hhas
      exact hhas
    have hold : readBack Record.decode r₀.toJson.compact = .ok r := hreads
    have hnew : readBack Record.decode (r.replaceData values now).toJson.compact = .ok r' := hread
    have houtline := outline_eq_of_isReadAs
      (Record.isReadAs_of_recovers (PersistentStore.recovers_of_readBack hold))
      (Record.isReadAs_of_recovers (PersistentStore.recovers_of_readBack hnew))
    have hlook : (readBack Record.decode (r.replaceData values now).toJson.compact).map
        RecordFilter.outline =
          (readBack Record.decode r₀.toJson.compact).map RecordFilter.outline := by
      rw [hold, hnew]
      exact congrArg Except.ok houtline
    have htexts := map_mapM_congr (Entries.map_put_of_get? h.distinct.2 hget hlook)
    rw [storeRecord, listedIds_tree, listedIds_tree, ← htexts]
    rfl

end Storage

end CustomFields
