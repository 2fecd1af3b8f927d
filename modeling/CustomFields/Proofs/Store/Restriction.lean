import CustomFields.Proofs.Store.Identity

/-!
# What a tenant has in a storage

The configs and records of one tenant are a storage of their own. An access that is made for the
tenant comes to the same there as in the storage that it has been taken from, and one that is made
for another tenant does not change it. In memory a record says whose it is. In a tree its text does,
also where it nests too deep to be read as a whole: the tenant stands in front.

Only a listing of records looks at more than the tenant has. It reads all texts of a tree before it
asks whose they are, so that it comes to the same if all of them can be read.

## Main definitions

* `Storage.owner?`: whose record lies under an id
* `Storage.restrict`: what a tenant has in a storage
* `StoreAccess.StoresFor`: an access that stores something for a tenant

## Main results

* `Storage.serve_restrict`: what is stored for a tenant is stored alike without the others
* `Storage.serve_listRecords_restrict`: a tenant's records are listed alike without the others
* `Storage.restrict_storeConfig_of_ne`, `Storage.restrict_storeRecord_of_ne`: what is stored for
  other tenants does not show
-/

namespace CustomFields

open PersistentStore (readBack configBytes tenantBytes)

/-! ## Entries that are left out -/

namespace Entries

variable {κ ν : Type} [DecidableEq κ] {k : κ} {v : ν} {entries : List (κ × ν)} {p : κ × ν → Bool}

/-- A key of which no entry is left out has its value. -/
theorem get?_filter (hp : ∀ w, (k, w) ∈ entries → p (k, w) = true) :
    get? k (entries.filter p) = get? k entries := by
  induction entries with
  | nil => rfl
  | cons e rest ih =>
    obtain ⟨k', w⟩ := e
    have hrest := ih fun w hw => hp w (List.mem_cons_of_mem _ hw)
    by_cases hk : k = k'
    · subst hk
      rw [List.filter_cons_of_pos (hp w List.mem_cons_self), get?, get?, if_pos rfl, if_pos rfl]
    · rw [List.filter_cons]
      split
      · rw [get?, get?, if_neg hk, if_neg hk, hrest]
      · rw [get?, if_neg hk, hrest]

/-- What is stored under such a key is stored in its place. -/
theorem filter_assign (hv : p (k, v) = true) (hp : ∀ w, (k, w) ∈ entries → p (k, w) = true) :
    (assign k v entries).filter p = assign k v (entries.filter p) := by
  induction entries with
  | nil => rw [assign, List.filter_cons_of_pos hv, List.filter_nil, assign]
  | cons e rest ih =>
    obtain ⟨k', w⟩ := e
    have hrest := ih fun w hw => hp w (List.mem_cons_of_mem _ hw)
    by_cases hk : k = k'
    · subst hk
      rw [assign, if_pos rfl, List.filter_cons_of_pos hv,
        List.filter_cons_of_pos (hp w List.mem_cons_self), assign, if_pos rfl]
    · rw [assign, if_neg hk, List.filter_cons, List.filter_cons, hrest]
      split
      · rw [assign, if_neg hk]
      · rfl

section Put

variable [LT κ] [DecidableRel (α := κ) (· < ·)]

/-- An entry in front of all others is stored at the start. -/
theorem put_eq_cons [Std.Irrefl (α := κ) (· < ·)] (h : ∀ k' ∈ keys entries, k < k') :
    put k v entries = (k, v) :: entries := by
  cases entries with
  | nil => rfl
  | cons e rest =>
    have hlt : k < e.1 := h e.1 List.mem_cons_self
    have hne : k ≠ e.1 := by
      rintro rfl
      exact Std.Irrefl.irrefl _ hlt
    rw [put, if_neg hne, if_pos hlt]

/-- What is stored in the order of the keys, under a key of which no entry is left out, is stored in
its place. -/
theorem filter_put [Trans (α := κ) (· < ·) (· < ·) (· < ·)] [Std.Irrefl (α := κ) (· < ·)]
    (hs : (keys entries).Pairwise (· < ·)) (hv : p (k, v) = true)
    (hp : ∀ w, (k, w) ∈ entries → p (k, w) = true) :
    (put k v entries).filter p = put k v (entries.filter p) := by
  induction entries with
  | nil => rw [put, List.filter_cons_of_pos hv, List.filter_nil, put]
  | cons e rest ih =>
    obtain ⟨k', w⟩ := e
    obtain ⟨hfirst, hrest⟩ := List.pairwise_cons.1 hs
    have hput := ih hrest fun w hw => hp w (List.mem_cons_of_mem _ hw)
    by_cases hk : k = k'
    · subst hk
      rw [put, if_pos rfl, List.filter_cons_of_pos hv,
        List.filter_cons_of_pos (hp w List.mem_cons_self), put, if_pos rfl]
    by_cases hlt : k < k'
    · -- the key lies in front of all entries, and so of those that are left
      have hall : ∀ k₁ ∈ keys ((k', w) :: rest), k < k₁ :=
        List.forall_mem_cons.2 ⟨hlt, fun k₁ hk₁ => Trans.trans hlt (hfirst k₁ hk₁)⟩
      have hsub : (keys (((k', w) :: rest).filter p)).Sublist (keys ((k', w) :: rest)) :=
        List.filter_sublist.map Prod.fst
      rw [put_eq_cons hall, List.filter_cons_of_pos hv,
        put_eq_cons fun k₁ hk₁ => hall k₁ (hsub.subset hk₁)]
    · rw [put, if_neg hk, if_neg hlt, List.filter_cons, List.filter_cons, hput]
      split
      · rw [put, if_neg hk, if_neg hlt]
      · rfl

end Put

end Entries

/-! ## Whose a thing is -/

/-- The tenant that the text of a record names. It can be told also where the record as a whole
cannot be read. -/
def Record.ownerIn? (text : String) : Option Uuid :=
  match (Json.readValue (2 * text.toList.length + 2) text.toList).1 with
  | .object members _ =>
    match Entries.get? (some "tenant_id") members with
    | some (.string s) => Uuid.parse? s
    | _ => none
  | _ => none

theorem Record.ownerIn?_compact (r : Record) : ownerIn? r.toJson.compact = some r.tenantId := by
  have hread := (Json.Value.readsTexts (2 * r.toJson.chars.length + 2)).value r.toJson [] (by omega)
    (by simp [Json.Stops])
  rw [List.append_nil] at hread
  rw [ownerIn?, Json.Value.compact, String.toList_ofList, hread]
  exact r.tenantId.parse?_text

namespace Storage

/-- Whose record lies under an id. -/
def owner? : Storage → Uuid → Option Uuid
  | .memory m, id => (Entries.get? id m.records).map (·.tenantId)
  | .tree s, id => (Entries.get? id.bytes s.records).bind Record.ownerIn?

/-- The configs and the records that a tenant has. The key of a config tells whose it is. -/
def restrict (B : Uuid) : Storage → Storage
  | .memory m => .memory
    { configs := m.configs.filter (·.2.tenantId == B)
      records := m.records.filter (·.2.tenantId == B) }
  | .tree s => .tree
    { configs := s.configs.filter ((tenantBytes B).isPrefixOf ·.1)
      records := s.records.filter (Record.ownerIn? ·.2 == some B) }

/-- A record that may be looked at for a tenant: it is the tenant's, or it is not there. -/
def ownsOrLacks (S : Storage) (B id : Uuid) : Bool :=
  (S.owner? id).all (· == B)

section

variable {S : Storage} {B : Uuid} {id : Uuid}

theorem Orderly.owner?_of_record? (h : S.Orderly) {r : Record} (hr : S.record? id = .ok (some r)) :
    S.owner? id = some r.tenantId := by
  cases S with
  | memory m =>
    have hget : Entries.get? id m.records = some r := Except.ok.inj hr
    rw [owner?, hget, Option.map_some]
  | tree s =>
    rw [record?_tree] at hr
    split at hr
    · cases hr
    · rename_i text hget
      obtain ⟨r₀, -, rfl, -⟩ := h.records _ text (Entries.mem_of_get?_eq_some hget)
      have hread := Record.isReadAs_of_recovers
        (PersistentStore.recovers_of_readBack (eq_ok_of_map_some hr))
      rw [owner?, hget, Option.bind_some, Record.ownerIn?_compact, hread.tenantId]

theorem owner?_of_record?_eq_none (hr : S.record? id = .ok none) : S.owner? id = none := by
  cases S with
  | memory m =>
    have hget : Entries.get? id m.records = none := Except.ok.inj hr
    rw [owner?, hget, Option.map_none]
  | tree s =>
    rw [record?_tree] at hr
    split at hr
    · rename_i hget
      rw [owner?, hget, Option.bind_none]
    · -- what is read is a record, if it can be read
      rename_i text _
      cases hread : readBack Record.decode text <;> rw [hread] at hr <;> cases hr

theorem ownsOrLacks_of_record? (hr : S.record? id = .ok none) : S.ownsOrLacks B id = true := by
  rw [ownsOrLacks, owner?_of_record?_eq_none hr, Option.all_none]

theorem Orderly.tenantId_of_ownsOrLacks (h : S.Orderly) {r : Record}
    (hr : S.record? id = .ok (some r)) (hid : S.ownsOrLacks B id = true) : r.tenantId = B := by
  rw [ownsOrLacks, h.owner?_of_record? hr] at hid
  exact beq_iff_eq.1 hid

/-! ## Reading -/

theorem Orderly.tenantId_of_mem_configs {m : MemoryStore} (h : (memory m).Orderly) {t : Uuid}
    {e : String} {c : EntityConfig} (hc : (configKey t e, c) ∈ m.configs) : c.tenantId = t :=
  (configKey_inj.1 (h.configs _ c hc).1).1.symm

/-- The record under an id that is the tenant's is left, and one that is not there is not there. -/
theorem Orderly.tenantId_of_mem_records {m : MemoryStore} (h : (memory m).Orderly)
    (hid : (memory m).ownsOrLacks B id = true) {r : Record} (hr : (id, r) ∈ m.records) :
    r.tenantId = B := by
  rw [ownsOrLacks, owner?, (Entries.get?_eq_some_iff h.distinct.2).2 hr] at hid
  exact beq_iff_eq.1 hid

theorem Orderly.ownerIn?_of_mem_records {s : PersistentStore} (h : (tree s).Orderly)
    (hid : (tree s).ownsOrLacks B id = true) {text : String} (hr : (id.bytes, text) ∈ s.records) :
    Record.ownerIn? text = some B := by
  have hdistinct : (Entries.keys s.records).Nodup := Entries.nodup_of_sorted h.distinct.2
  obtain ⟨r, -, rfl, -⟩ := h.records _ text hr
  rw [ownsOrLacks, owner?, (Entries.get?_eq_some_iff hdistinct).2 hr, Option.bind_some,
    Record.ownerIn?_compact] at hid
  rw [Record.ownerIn?_compact, beq_iff_eq.1 hid]

theorem isPrefixOf_configBytes (B : Uuid) (e : String) :
    (tenantBytes B).isPrefixOf (configBytes B e) = true :=
  List.isPrefixOf_iff_prefix.2 (PersistentStore.tenantBytes_prefix_iff.2 rfl)

theorem config?_restrict (h : S.Orderly) (e : String) :
    (S.restrict B).config? B e = S.config? B e := by
  cases S with
  | memory m =>
    exact congrArg Except.ok
      (Entries.get?_filter fun _ hc => beq_iff_eq.2 (h.tenantId_of_mem_configs hc))
  | tree s =>
    have hget : Entries.get? (configBytes B e) (s.configs.filter ((tenantBytes B).isPrefixOf ·.1)) =
        Entries.get? (configBytes B e) s.configs :=
      Entries.get?_filter fun _ _ => isPrefixOf_configBytes B e
    rw [restrict, config?_tree, config?_tree, hget]

theorem record?_restrict (h : S.Orderly) (hid : S.ownsOrLacks B id = true) :
    (S.restrict B).record? id = S.record? id := by
  cases S with
  | memory m =>
    exact congrArg Except.ok
      (Entries.get?_filter fun _ hr => beq_iff_eq.2 (h.tenantId_of_mem_records hid hr))
  | tree s =>
    have hget : Entries.get? id.bytes (s.records.filter (Record.ownerIn? ·.2 == some B)) =
        Entries.get? id.bytes s.records :=
      Entries.get?_filter fun _ hr => beq_iff_eq.2 (h.ownerIn?_of_mem_records hid hr)
    rw [restrict, record?_tree, record?_tree, hget]

theorem serve_listConfigs_restrict (S : Storage) (B : Uuid) :
    ((S.restrict B).serve (.listConfigs B)).1 = (S.serve (.listConfigs B)).1 := by
  cases S with
  | memory m =>
    refine congrArg Except.ok ?_
    unfold MemoryStore.listConfigs
    rw [List.filter_map, List.filter_map, List.filter_filter]
    simp only [Function.comp_def, Bool.and_self]
    rfl
  | tree s =>
    have hscan : ByteTree.scan (s.configs.filter ((tenantBytes B).isPrefixOf ·.1)) (tenantBytes B) =
        ByteTree.scan s.configs (tenantBytes B) := by
      unfold ByteTree.scan
      rw [List.filter_filter]
      simp only [Bool.and_self]
    exact congrArg (List.mapM (readBack EntityConfig.decode)) hscan

/-- A filter that names a tenant asks for nothing of the others. -/
theorem apply_filter_of_tenant {f : RecordFilter} (hf : f.tenantId = some B) (rs : List Record) :
    f.apply (rs.filter (·.tenantId == B)) = f.apply rs := by
  have hmatch : ∀ r : Record, (f.isMatch r && r.tenantId == B) = f.isMatch r := by
    intro r
    unfold RecordFilter.isMatch
    rw [hf, Option.all_some, BEq.comm (a := B)]
    cases r.tenantId == B <;> simp
  unfold RecordFilter.apply
  rw [List.filter_filter]
  simp only [hmatch]

/-- Texts that are all read are read in part as well. -/
theorem mapM_filter {α β ε : Type} {read : α → Except ε β} {p : α → Bool} {q : β → Bool}
    {xs : List α} {ys : List β} (h : xs.mapM read = .ok ys)
    (hp : ∀ x ∈ xs, ∀ y, read x = .ok y → p x = q y) : (xs.filter p).mapM read = .ok (ys.filter q) := by
  induction xs generalizing ys with
  | nil =>
    obtain rfl := Except.ok.inj h
    rfl
  | cons x xs ih =>
    rw [List.mapM_cons] at h
    obtain ⟨y, hy, hrest⟩ := Json.exists_of_bind_eq_ok h
    obtain ⟨ys', hys, heq⟩ := Json.exists_of_bind_eq_ok hrest
    obtain rfl := Except.ok.inj heq
    have hfilter := ih hys fun x' hx' => hp x' (List.mem_cons_of_mem x hx')
    rw [List.filter_cons, List.filter_cons, hp x List.mem_cons_self y hy]
    split
    · rw [List.mapM_cons, hy, hfilter]
      rfl
    · exact hfilter

/-- **The records of a tenant are listed alike without the others,** if all records can be read. -/
theorem serve_listRecords_restrict (h : S.Orderly) {f : RecordFilter} (hf : f.tenantId = some B)
    (hread : ∀ id, ∃ r?, S.record? id = .ok r?) :
    ((S.restrict B).serve (.listRecords f)).1 = (S.serve (.listRecords f)).1 := by
  cases S with
  | memory m =>
    refine congrArg Except.ok ?_
    have hrecords : (m.records.filter (·.2.tenantId == B)).map Prod.snd =
        (m.records.map Prod.snd).filter (·.tenantId == B) := by
      rw [List.filter_map]
      rfl
    unfold MemoryStore.listRecords
    rw [hrecords]
    exact apply_filter_of_tenant hf _
  | tree s =>
    have hdistinct : (Entries.keys s.records).Nodup := Entries.nodup_of_sorted h.distinct.2
    have htexts : ∀ text ∈ s.records.map Prod.snd, ∃ r, readBack Record.decode text = .ok r := by
      intro text htext
      obtain ⟨⟨key, text⟩, hmem, rfl⟩ := List.mem_map.1 htext
      obtain ⟨r, rfl, -, -⟩ := h.records key text hmem
      obtain ⟨r?, hr⟩ := hread r.id
      rw [record?_tree, (Entries.get?_eq_some_iff hdistinct).2 hmem] at hr
      have hr : (readBack Record.decode text).map some = .ok r? := hr
      cases hback : readBack Record.decode text with
      | ok r' => exact ⟨r', rfl⟩
      | error err =>
        rw [hback] at hr
        cases hr
    obtain ⟨rs, hrs⟩ := exists_mapM_eq_ok htexts
    -- a text names the tenant that is read there
    have howner : ∀ text ∈ s.records.map Prod.snd, ∀ r, readBack Record.decode text = .ok r →
        (Record.ownerIn? text == some B) = (r.tenantId == B) := by
      intro text htext r hr
      obtain ⟨⟨key, text⟩, hmem, rfl⟩ := List.mem_map.1 htext
      obtain ⟨r₀, -, rfl, -⟩ := h.records key text hmem
      have htenant :=
        (Record.isReadAs_of_recovers (PersistentStore.recovers_of_readBack hr)).tenantId
      rw [Record.ownerIn?_compact, htenant]
      rfl
    have hrecords : (s.records.filter (Record.ownerIn? ·.2 == some B)).map Prod.snd =
        (s.records.map Prod.snd).filter (Record.ownerIn? · == some B) := by
      rw [List.filter_map]
      rfl
    rw [restrict, serve_listRecords_tree, serve_listRecords_tree, hrecords, hrs,
      mapM_filter hrs howner]
    exact congrArg Except.ok (apply_filter_of_tenant hf rs)

/-! ## Storing -/

theorem restrict_storeConfig (h : S.Orderly) {c : EntityConfig} (hc : c.tenantId = B) :
    (S.storeConfig c).restrict B = (S.restrict B).storeConfig c := by
  subst hc
  cases S with
  | memory m =>
    have hconfigs : (m.storeConfig c).configs.filter (·.2.tenantId == c.tenantId) =
        Entries.assign (configKey c.tenantId c.entityType) c
          (m.configs.filter (·.2.tenantId == c.tenantId)) :=
      Entries.filter_assign BEq.rfl fun _ hmem => beq_iff_eq.2 (h.tenantId_of_mem_configs hmem)
    exact congrArg (fun configs => memory ⟨configs, _⟩) hconfigs
  | tree s =>
    have hconfigs : (s.storeConfig c).configs.filter ((tenantBytes c.tenantId).isPrefixOf ·.1) =
        Entries.put (configBytes c.tenantId c.entityType) c.toJson.compact
          (s.configs.filter ((tenantBytes c.tenantId).isPrefixOf ·.1)) :=
      Entries.filter_put h.distinct.1 (isPrefixOf_configBytes _ _) fun _ _ =>
        isPrefixOf_configBytes _ _
    exact congrArg (fun configs => tree ⟨configs, _⟩) hconfigs

theorem restrict_storeRecord (h : S.Orderly) {r : Record} (hr : r.tenantId = B)
    (hid : S.ownsOrLacks B r.id = true) :
    (S.storeRecord r).restrict B = (S.restrict B).storeRecord r := by
  cases S with
  | memory m =>
    have hrecords : (m.storeRecord r).records.filter (·.2.tenantId == B) =
        Entries.assign r.id r (m.records.filter (·.2.tenantId == B)) :=
      Entries.filter_assign (beq_iff_eq.2 hr) fun _ hmem =>
        beq_iff_eq.2 (h.tenantId_of_mem_records hid hmem)
    exact congrArg (fun records => memory ⟨_, records⟩) hrecords
  | tree s =>
    have hrecords : (s.storeRecord r).records.filter (Record.ownerIn? ·.2 == some B) =
        Entries.put r.id.bytes r.toJson.compact
          (s.records.filter (Record.ownerIn? ·.2 == some B)) := by
      refine Entries.filter_put h.distinct.2 ?_ fun _ hmem =>
        beq_iff_eq.2 (h.ownerIn?_of_mem_records hid hmem)
      rw [Record.ownerIn?_compact, hr, beq_self_eq_true]
    exact congrArg (fun records => tree ⟨_, records⟩) hrecords

theorem containsConfig_restrict (h : S.Orderly) (e : String) :
    (S.restrict B).containsConfig B e = S.containsConfig B e := by
  cases S with
  | memory m =>
    exact congrArg Option.isSome
      (Entries.get?_filter fun _ hc => beq_iff_eq.2 (h.tenantId_of_mem_configs hc))
  | tree s =>
    exact congrArg Option.isSome (Entries.get?_filter fun _ _ => isPrefixOf_configBytes B e)

theorem containsRecord_restrict (h : S.Orderly) (hid : S.ownsOrLacks B id = true) :
    (S.restrict B).containsRecord id = S.containsRecord id := by
  cases S with
  | memory m =>
    exact congrArg Option.isSome
      (Entries.get?_filter fun _ hr => beq_iff_eq.2 (h.tenantId_of_mem_records hid hr))
  | tree s =>
    exact congrArg Option.isSome
      (Entries.get?_filter fun _ hr => beq_iff_eq.2 (h.ownerIn?_of_mem_records hid hr))

end

end Storage

/-- An access that stores something for a tenant: what is the tenant's, in the place of what is the
tenant's or is not there. -/
def StoreAccess.StoresFor (B : Uuid) (S : Storage) : StoreAccess → Prop
  | .createConfig c | .updateConfig c => c.tenantId = B
  | .insertRecord r | .updateRecord r => r.tenantId = B ∧ S.ownsOrLacks B r.id = true
  | _ => False

/-- **What is stored for a tenant is stored alike without the others**: the access has the same
answer, and the tenant has the same then. -/
theorem Storage.serve_restrict {S : Storage} {B : Uuid} (h : S.Orderly) {x : StoreAccess}
    (hx : x.StoresFor B S) :
    (S.restrict B).serve x = ((S.serve x).1, (S.serve x).2.restrict B) := by
  cases x with
  | createConfig c =>
    obtain rfl : c.tenantId = B := hx
    rw [serve_createConfig_eq, serve_createConfig_eq, containsConfig_restrict h]
    split
    · rfl
    · exact Prod.ext rfl (restrict_storeConfig h rfl).symm
  | updateConfig c =>
    obtain rfl : c.tenantId = B := hx
    rw [serve_updateConfig_eq, serve_updateConfig_eq, containsConfig_restrict h]
    split
    · exact Prod.ext rfl (restrict_storeConfig h rfl).symm
    · rfl
  | insertRecord r =>
    obtain ⟨hr, hid⟩ := hx
    rw [serve_insertRecord_eq, serve_insertRecord_eq, containsRecord_restrict h hid]
    split
    · rfl
    · exact Prod.ext rfl (restrict_storeRecord h hr hid).symm
  | updateRecord r =>
    obtain ⟨hr, hid⟩ := hx
    rw [serve_updateRecord_eq, serve_updateRecord_eq, containsRecord_restrict h hid]
    split
    · exact Prod.ext rfl (restrict_storeRecord h hr hid).symm
    · rfl
  | _ => cases hx

end CustomFields
