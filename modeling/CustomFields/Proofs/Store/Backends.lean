import CustomFields.Proofs.Data.Program
import CustomFields.Proofs.Json.Reader
import CustomFields.Proofs.Store.Keys
import CustomFields.Proofs.Store.Listing
import CustomFields.Proofs.Store.Memory
import CustomFields.Store.Persistent

/-!
# The two kinds of storage answer alike

A store in memory keeps configs and records as they are, in the order in which they came; a
persistent one keeps their texts, in the order of the bytes of their keys. Whatever is asked of the
two, the answers are the same, as long as each thing that is stored can be read back from its text.
The relation between them is that each tree mirrors the entries in memory. It is kept by each
operation, and makes each of them answer alike.

## Main definitions

* `StoreOperation`: what can be done with a store, closing it and opening it again included
* `MemoryStore.operate`, `PersistentStore.operate`: what the two kinds do then
* `MemoryStore.Lossless`: what is stored can be read back from its text
* `MemoryStore.MirroredBy`: the relation between a store in memory and a persistent one

## Main results

* `MemoryStore.MirroredBy.scan_eq`: what a scan for a tenant finds
* `MemoryStore.MirroredBy.serve`: an access keeps the relation and has one answer
* `storage_answers_eq`: the answers to any operations that follow each other are the same
-/

namespace CustomFields

/-! ## What the accesses do to the trees -/

namespace PersistentStore

variable (s : PersistentStore)

/-- The store with the text of a config under its key. -/
def storeConfig (c : EntityConfig) : PersistentStore :=
  { s with configs := s.configs.insert (configBytes c.tenantId c.entityType) c.toJson.compact }

/-- The store with the text of a record under its id. -/
def storeRecord (r : Record) : PersistentStore :=
  { s with records := s.records.insert r.id.bytes r.toJson.compact }

/-- A store that is opened again finds each tree under its own name. -/
theorem reopen_eq : s.reopen = s := by
  have hne : TreeName.records.name ≠ TreeName.configs.name := by decide
  simp only [reopen, ofDatabase, database, Entries.get?, if_neg hne, if_true, Option.getD_some]

theorem run_tree (name : TreeName) (x : TreeAccess) :
    (tree name x).run serveTree s = serveTree (name, x) s := rfl

theorem run_getConfig (t : Uuid) (e : String) :
    (getConfig t e).run serveTree s =
      (match Entries.get? (configBytes t e) s.configs with
        | none => .ok none
        | some text => (readBack EntityConfig.decode text).map some, s) := by
  simp only [getConfig, Program.run_bind, run_tree, serveTree, TreeAccess.serve]
  cases Entries.get? (configBytes t e) s.configs <;> rfl

theorem run_createConfig (c : EntityConfig) :
    (createConfig c).run serveTree s =
      if Entries.contains (configBytes c.tenantId c.entityType) s.configs then
        (.error (.configExists c.tenantId c.entityType), s)
      else (.ok c, s.storeConfig c) := by
  simp only [createConfig, Program.run_bind, run_tree, serveTree, TreeAccess.serve]
  cases Entries.contains (configBytes c.tenantId c.entityType) s.configs <;> rfl

theorem run_updateConfig (c : EntityConfig) :
    (updateConfig c).run serveTree s =
      if Entries.contains (configBytes c.tenantId c.entityType) s.configs then
        (.ok c, s.storeConfig c)
      else (.error (.configNotFound c.tenantId c.entityType), s) := by
  simp only [updateConfig, Program.run_bind, run_tree, serveTree, TreeAccess.serve]
  cases Entries.contains (configBytes c.tenantId c.entityType) s.configs <;> rfl

theorem run_getRecord (id : Uuid) :
    (getRecord id).run serveTree s =
      (match Entries.get? id.bytes s.records with
        | none => .ok none
        | some text => (readBack Record.decode text).map some, s) := by
  simp only [getRecord, Program.run_bind, run_tree, serveTree, TreeAccess.serve]
  cases Entries.get? id.bytes s.records <;> rfl

theorem run_insertRecord (r : Record) :
    (insertRecord r).run serveTree s =
      if Entries.contains r.id.bytes s.records then (.error (.recordExists r.id), s)
      else (.ok r, s.storeRecord r) := by
  simp only [insertRecord, Program.run_bind, run_tree, serveTree, TreeAccess.serve]
  cases Entries.contains r.id.bytes s.records <;> rfl

theorem run_updateRecord (r : Record) :
    (updateRecord r).run serveTree s =
      if Entries.contains r.id.bytes s.records then (.ok r, s.storeRecord r)
      else (.error (.recordNotFound r.id), s) := by
  simp only [updateRecord, Program.run_bind, run_tree, serveTree, TreeAccess.serve]
  cases Entries.contains r.id.bytes s.records <;> rfl

end PersistentStore

/-! ## Reading back -/

open PersistentStore (readBack configBytes tenantBytes)

/-- A row of texts is read back if each of them is. -/
theorem mapM_readBack {α : Type} {d : Json.Decoder α} {g : α → String} {xs : List α}
    (h : ∀ x ∈ xs, readBack d (g x) = .ok x) : (xs.map g).mapM (readBack d) = .ok xs := by
  induction xs with
  | nil => rfl
  | cons x xs ih =>
    rw [List.map_cons, List.mapM_cons, h x List.mem_cons_self,
      ih fun y hy => h y (List.mem_cons_of_mem _ hy)]
    rfl

namespace MemoryStore

/-- Each thing that is stored can be read back from its text. -/
structure Lossless (m : MemoryStore) : Prop where
  config : ∀ key c, (key, c) ∈ m.configs → readBack EntityConfig.decode c.toJson.compact = .ok c
  record : ∀ id r, (id, r) ∈ m.records → readBack Record.decode r.toJson.compact = .ok r

/-- The trees of a persistent store mirror what a store in memory holds. -/
structure MirroredBy (m : MemoryStore) (s : PersistentStore) : Prop where
  keyed : m.Keyed
  configs : Entries.Mirrors (fun key : String => key.toUTF8.toList)
    (fun c : EntityConfig => c.toJson.compact) m.configs s.configs
  records : Entries.Mirrors Uuid.bytes (fun r : Record => r.toJson.compact) m.records s.records

theorem mirroredBy_empty : empty.MirroredBy .empty where
  keyed := keyed_empty
  configs := Entries.mirrors_nil _ _
  records := Entries.mirrors_nil _ _

/-! ## Storing -/

section Storing

variable {m : MemoryStore} {s : PersistentStore}

/-- A config that is stored on both sides keeps the relation. -/
theorem MirroredBy.storeConfig (h : m.MirroredBy s) (c : EntityConfig) :
    (m.storeConfig c).MirroredBy (s.storeConfig c) where
  keyed := h.keyed.storeConfig c
  configs := h.configs.put PersistentStore.configBytes_injective _ c
  records := h.records

theorem MirroredBy.storeRecord (h : m.MirroredBy s) (r : Record) :
    (m.storeRecord r).MirroredBy (s.storeRecord r) where
  keyed := h.keyed.storeRecord r
  configs := h.configs
  records := h.records.put Uuid.bytes_injective _ r

theorem MirroredBy.containsConfig (h : m.MirroredBy s) (t : Uuid) (e : String) :
    Entries.contains (configBytes t e) s.configs = Entries.contains (configKey t e) m.configs :=
  h.configs.contains (configKey t e)

theorem MirroredBy.containsRecord (h : m.MirroredBy s) (id : Uuid) :
    Entries.contains id.bytes s.records = Entries.contains id m.records :=
  h.records.contains id

end Storing

/-! ## Reading -/

section Reading

variable {m : MemoryStore} {s : PersistentStore}

theorem MirroredBy.getConfig (h : m.MirroredBy s) (lossless : m.Lossless) (t : Uuid) (e : String) :
    (PersistentStore.getConfig t e).run PersistentStore.serveTree s =
      (.ok (m.getConfig t e), s) := by
  -- the tree has the text of what is in memory, and the text is read back
  have hget : Entries.get? (configBytes t e) s.configs =
      (m.getConfig t e).map fun c => c.toJson.compact := h.configs.get?_eq (configKey t e)
  rw [PersistentStore.run_getConfig, hget]
  cases hc : m.getConfig t e with
  | none => rfl
  | some c =>
    simp only [Option.map_some, lossless.config _ c (Entries.mem_of_get?_eq_some hc), Except.map]

theorem MirroredBy.getRecord (h : m.MirroredBy s) (lossless : m.Lossless) (id : Uuid) :
    (PersistentStore.getRecord id).run PersistentStore.serveTree s = (.ok (m.getRecord id), s) := by
  have hget : Entries.get? id.bytes s.records =
      (m.getRecord id).map fun r => r.toJson.compact := h.records.get?_eq id
  rw [PersistentStore.run_getRecord, hget]
  cases hr : m.getRecord id with
  | none => rfl
  | some r =>
    simp only [Option.map_some, lossless.record _ r (Entries.mem_of_get?_eq_some hr), Except.map]

/-- The configs of a tenant lie side by side in the tree, in the order of their entity types. -/
theorem MirroredBy.scan_eq (h : m.MirroredBy s) (t : Uuid) :
    s.configs.scan (tenantBytes t) = (m.listConfigs t).map fun c => c.toJson.compact := by
  -- the entries in memory, in the order of the tree
  obtain ⟨es, hperm, htree⟩ := h.configs.exists_map PersistentStore.configBytes_injective
  have hkey : ∀ e ∈ es, e.1 = configKey e.2.tenantId e.2.entityType := fun e he =>
    h.keyed.config e.1 e.2 (hperm.mem_iff.1 he)
  -- a key starts with the bytes of a tenant exactly if the config is one of the tenant's
  have hfilter : (es.filter fun e => (tenantBytes t).isPrefixOf e.1.toUTF8.toList) =
      es.filter ((·.tenantId == t) ∘ Prod.snd) := by
    refine List.filter_congr fun e he => ?_
    rw [Bool.eq_iff_iff, List.isPrefixOf_iff_prefix, hkey e he, Function.comp_apply, beq_iff_eq,
      eq_comm]
    exact PersistentStore.tenantBytes_prefix_iff
  have hscan : s.configs.scan (tenantBytes t) =
      ((es.map Prod.snd).filter (·.tenantId == t)).map fun c => c.toJson.compact := by
    rw [ByteTree.scan, htree, List.filter_map, List.map_map, List.filter_map, List.map_map]
    exact congrArg (List.map _) hfilter
  -- and then the keys are in the order of the entity types
  have hincreasing : ((es.map Prod.snd).filter (·.tenantId == t)).Pairwise
      fun a b => a.entityType < b.entityType := by
    have hsorted := h.configs.sorted
    rw [htree, Entries.keys, List.map_map, List.pairwise_map] at hsorted
    rw [List.filter_map, List.pairwise_map]
    refine (hsorted.filter _).imp_of_mem fun {a b} ha hb hlt => ?_
    obtain ⟨ha, hta⟩ := List.mem_filter.1 ha
    obtain ⟨hb, htb⟩ := List.mem_filter.1 hb
    have hta : a.2.tenantId = t := beq_iff_eq.1 hta
    have htb : b.2.tenantId = t := beq_iff_eq.1 htb
    change a.1.toUTF8.toList < b.1.toUTF8.toList at hlt
    rw [hkey a ha, hkey b hb, hta, htb] at hlt
    exact PersistentStore.configBytes_lt_iff.1 hlt
  -- so what is scanned is what sorting makes of the configs in memory
  have hsame : ((m.configs.map Prod.snd).filter (·.tenantId == t)).Perm
      ((es.map Prod.snd).filter (·.tenantId == t)) := (hperm.symm.map Prod.snd).filter _
  rw [hscan, MemoryStore.listConfigs, mergeSort_eq_of_increasing hsame hincreasing]

theorem MirroredBy.listConfigs (h : m.MirroredBy s) (lossless : m.Lossless) (t : Uuid) :
    (s.configs.scan (tenantBytes t)).mapM (readBack EntityConfig.decode) =
      .ok (m.listConfigs t) := by
  rw [h.scan_eq, mapM_readBack]
  intro c hc
  obtain ⟨e, he, rfl⟩ := List.mem_map.1 (List.mem_of_mem_filter (List.mem_mergeSort.1 hc))
  exact lossless.config e.1 e.2 he

theorem MirroredBy.listRecords (h : m.MirroredBy s) (lossless : m.Lossless) (f : RecordFilter) :
    ((s.records.scan []).mapM (readBack Record.decode)).map f.apply = .ok (m.listRecords f) := by
  obtain ⟨es, hperm, htree⟩ := h.records.exists_map Uuid.bytes_injective
  have hscan : s.records.scan [] = (es.map Prod.snd).map fun r => r.toJson.compact := by
    rw [ByteTree.scan, htree]
    simp [List.filter_eq_self.2]
  -- the page is taken from the records in another order, but no two have the same id
  have hdistinct : ((m.records.map Prod.snd).map (·.id)).Nodup := by
    have hids : (m.records.map Prod.snd).map (·.id) = Entries.keys m.records := by
      rw [List.map_map, Entries.keys]
      exact List.map_congr_left fun e he => (h.keyed.record e.1 e.2 he).symm
    exact hids ▸ h.records.nodup
  rw [hscan, mapM_readBack, MemoryStore.listRecords,
    f.apply_eq_of_perm (hperm.symm.map Prod.snd) hdistinct]
  · rfl
  · intro r hr
    obtain ⟨e, he, rfl⟩ := List.mem_map.1 hr
    exact lossless.record e.1 e.2 (hperm.mem_iff.1 he)

end Reading

/-! ## One access -/

variable {m : MemoryStore} {s : PersistentStore}

theorem MirroredBy.of_serve_eq {x : StoreAccess} {answer : Except StoreError x.Result}
    {m' : MemoryStore} {s' : PersistentStore} (hm : m.serve x = (answer, m'))
    (hs : s.serve x = (answer, s')) (h : m'.MirroredBy s') :
    (m.serve x).1 = (s.serve x).1 ∧ (m.serve x).2.MirroredBy (s.serve x).2 := by
  rw [hm, hs]
  exact ⟨rfl, h⟩

/-- An access that goes the same one of two ways on both sides. -/
theorem MirroredBy.of_serve_ite {x : StoreAccess} {p : Prop} [Decidable p]
    {a b : Except StoreError x.Result} {m₁ m₂ : MemoryStore} {s₁ s₂ : PersistentStore}
    (hm : m.serve x = if p then (a, m₁) else (b, m₂))
    (hs : s.serve x = if p then (a, s₁) else (b, s₂))
    (h₁ : m₁.MirroredBy s₁) (h₂ : m₂.MirroredBy s₂) :
    (m.serve x).1 = (s.serve x).1 ∧ (m.serve x).2.MirroredBy (s.serve x).2 := by
  by_cases hp : p
  · rw [if_pos hp] at hm hs
    exact of_serve_eq hm hs h₁
  · rw [if_neg hp] at hm hs
    exact of_serve_eq hm hs h₂

/-- **An access keeps the relation, and both stores answer alike.** -/
theorem MirroredBy.serve (h : m.MirroredBy s) (lossless : m.Lossless) (x : StoreAccess) :
    (m.serve x).1 = (s.serve x).1 ∧ (m.serve x).2.MirroredBy (s.serve x).2 := by
  cases x with
  | getConfig t e => exact of_serve_eq rfl (h.getConfig lossless t e) h
  | listConfigs t => exact ⟨(h.listConfigs lossless t).symm, h⟩
  | getRecord id => exact of_serve_eq rfl (h.getRecord lossless id) h
  | listRecords f => exact ⟨(h.listRecords lossless f).symm, h⟩
  -- what is written is found under its key on both sides or on neither
  | createConfig c =>
    have hs := s.run_createConfig c
    rw [h.containsConfig] at hs
    exact of_serve_ite (m.createConfig_eq c) hs h (h.storeConfig c)
  | updateConfig c =>
    have hs := s.run_updateConfig c
    rw [h.containsConfig] at hs
    exact of_serve_ite (m.updateConfig_eq c) hs (h.storeConfig c) h
  | insertRecord r =>
    have hs := s.run_insertRecord r
    rw [h.containsRecord] at hs
    exact of_serve_ite (m.insertRecord_eq r) hs h (h.storeRecord r)
  | updateRecord r =>
    have hs := s.run_updateRecord r
    rw [h.containsRecord] at hs
    exact of_serve_ite (m.updateRecord_eq r) hs (h.storeRecord r) h

end MemoryStore

/-! ## Operations that follow each other -/

/-- What can be done with a store: an access, looking up the schema of a pair, and closing the store
and opening it again. -/
inductive StoreOperation where
  | access (x : StoreAccess)
  | resolveSchema (tenantId : Uuid) (entityType : String)
  | reopen

/-- A store is asked for more than its accesses: for the schema of a pair, and to be opened again.
-/
def storeOperations : Interface where
  Access := StoreOperation
  Answer
    | .access x => Except StoreError x.Result
    | .resolveSchema _ _ => Except StoreError (Option Schema)
    | .reopen => Unit

/-- The operations of a store that serves accesses and can be opened again. The schema of a pair is
that of its config. -/
def operateWith {σ : Type} (server : storeInterface.Server σ) (reopen : σ → σ) :
    storeOperations.Server σ
  | .access x, s => server x s
  | .resolveSchema t e, s =>
    let (answer, s) := server (.getConfig t e) s
    (answer.map fun c => c.map (·.schema), s)
  | .reopen, s => ((), reopen s)

/-- A store in memory has nothing to open again. -/
def MemoryStore.operate : storeOperations.Server MemoryStore :=
  operateWith MemoryStore.serve id

/-- What a persistent store answers to an operation. -/
def PersistentStore.operate : storeOperations.Server PersistentStore :=
  operateWith PersistentStore.serve PersistentStore.reopen

/-- What an operation would store can be read back from its text. -/
def StoreOperation.Lossless : StoreOperation → Prop
  | .access (.createConfig c) => readBack EntityConfig.decode c.toJson.compact = .ok c
  | .access (.updateConfig c) => readBack EntityConfig.decode c.toJson.compact = .ok c
  | .access (.insertRecord r) => readBack Record.decode r.toJson.compact = .ok r
  | .access (.updateRecord r) => readBack Record.decode r.toJson.compact = .ok r
  | _ => True

section Operations

variable {m : MemoryStore} {s : PersistentStore}

theorem MemoryStore.MirroredBy.operation (h : m.MirroredBy s) (lossless : m.Lossless)
    (o : StoreOperation) :
    (MemoryStore.operate o m).1 = (PersistentStore.operate o s).1 ∧
      (MemoryStore.operate o m).2.MirroredBy (PersistentStore.operate o s).2 := by
  cases o with
  | access x => exact h.serve lossless x
  | resolveSchema t e =>
    obtain ⟨hanswer, hmirror⟩ := h.serve lossless (.getConfig t e)
    have hschema := congrArg (fun answer : Except StoreError (Option EntityConfig) =>
      answer.map fun c => c.map (·.schema)) hanswer
    exact ⟨hschema, hmirror⟩
  | reopen => exact ⟨rfl, s.reopen_eq.symm ▸ h⟩

theorem MemoryStore.lossless_empty : MemoryStore.empty.Lossless where
  config _ _ h := by cases h
  record _ _ h := by cases h

theorem MemoryStore.Lossless.storeConfig (h : m.Lossless) {c : EntityConfig}
    (hc : readBack EntityConfig.decode c.toJson.compact = .ok c) : (m.storeConfig c).Lossless where
  config := Entries.forall_mem_assign hc h.config
  record := h.record

theorem MemoryStore.Lossless.storeRecord (h : m.Lossless) {r : Record}
    (hr : readBack Record.decode r.toJson.compact = .ok r) : (m.storeRecord r).Lossless where
  config := h.config
  record := Entries.forall_mem_assign hr h.record

theorem MemoryStore.Lossless.operation (h : m.Lossless) {o : StoreOperation} (ho : o.Lossless) :
    (MemoryStore.operate o m).2.Lossless := by
  cases o with
  | reopen => exact h
  | resolveSchema t e => exact h
  | access x =>
    show (m.serve x).2.Lossless
    -- what is stored is what the operation was given
    obtain hm | ⟨c, rfl | rfl, hm⟩ | ⟨r, rfl | rfl, hm⟩ := m.serve_cases x
    · rwa [hm]
    · rw [hm]
      exact h.storeConfig ho
    · rw [hm]
      exact h.storeConfig ho
    · rw [hm]
      exact h.storeRecord ho
    · rw [hm]
      exact h.storeRecord ho

/-- If what is stored on the way can be read back, all that is ever held can. -/
theorem MemoryStore.Lossless.stateAfter (h : m.Lossless) {os : List StoreOperation}
    (hos : ∀ o ∈ os, o.Lossless) : (stateAfter MemoryStore.operate os m).Lossless := by
  induction os generalizing m with
  | nil => exact h
  | cons o os ih =>
    exact ih (h.operation (hos o List.mem_cons_self)) fun o' ho' =>
      hos o' (List.mem_cons_of_mem _ ho')

theorem MemoryStore.MirroredBy.answers_eq (h : m.MirroredBy s) (os : List StoreOperation)
    (lossless : ∀ before, before <+: os →
      (stateAfter MemoryStore.operate before m).Lossless) :
    answers MemoryStore.operate os m = answers PersistentStore.operate os s := by
  -- on the operations, from any two stores that are related
  induction os generalizing m s with
  | nil => rfl
  | cons o os ih =>
    obtain ⟨hanswer, hmirror⟩ := h.operation (lossless [] List.nil_prefix) o
    have hrest := ih hmirror fun before hbefore =>
      lossless (o :: before) (List.cons_prefix_cons.2 ⟨rfl, hbefore⟩)
    exact congrArg₂ List.cons (congrArg (Sigma.mk o) hanswer) hrest

/-- **The two kinds of storage answer alike.** Operations with any arguments follow each other, from
empty stores. If each thing that is stored on the way can be read back from its text, each operation
has the same answer in memory and in the trees: the same result or the same error. -/
theorem storage_answers_eq (os : List StoreOperation)
    (lossless : ∀ before, before <+: os →
      (stateAfter MemoryStore.operate before .empty).Lossless) :
    answers MemoryStore.operate os .empty = answers PersistentStore.operate os .empty :=
  MemoryStore.mirroredBy_empty.answers_eq os lossless

/-- A config with a slash in its entity type. -/
def slashConfig : EntityConfig :=
  .new (.ofNat 1) (.ofNat 2) "a/b" (some "A") ⟨[]⟩ ⟨0, 0⟩

/-- A record of no entity type. -/
def blankRecord : Record :=
  .new (.ofNat 3) (.ofNat 2) "" [] ⟨60, 0⟩

theorem readBack_slashConfig :
    readBack EntityConfig.decode slashConfig.toJson.compact = .ok slashConfig := by
  rw [readBack, Json.Value.parse?_compact]
  rfl

theorem readBack_blankRecord :
    readBack Record.decode blankRecord.toJson.compact = .ok blankRecord := by
  rw [readBack, Json.Value.parse?_compact]
  rfl

/-- Configs and records are stored, some of them twice, and read back over a reopening. -/
def storageSession : List StoreOperation :=
  [.access (.createConfig slashConfig), .access (.createConfig slashConfig),
    .resolveSchema (.ofNat 2) "a/b", .access (.updateRecord blankRecord), .reopen,
    .access (.insertRecord blankRecord), .access (.updateConfig slashConfig),
    .access (.listConfigs (.ofNat 2)), .access (.getConfig (.ofNat 2) "a"),
    .access (.listRecords .all)]

theorem storage_answers_eq_storageSession :
    (∀ before, before <+: storageSession →
        (stateAfter MemoryStore.operate before .empty).Lossless) ∧
      answers MemoryStore.operate storageSession .empty =
        answers PersistentStore.operate storageSession .empty := by
  have hwrites : ∀ o ∈ storageSession, o.Lossless := by
    simp [storageSession, StoreOperation.Lossless, readBack_slashConfig, readBack_blankRecord]
  have lossless : ∀ before, before <+: storageSession →
      (stateAfter MemoryStore.operate before .empty).Lossless := fun before hbefore =>
    MemoryStore.lossless_empty.stateAfter fun o ho => hwrites o (hbefore.subset ho)
  exact ⟨lossless, storage_answers_eq storageSession lossless⟩

end Operations

end CustomFields
