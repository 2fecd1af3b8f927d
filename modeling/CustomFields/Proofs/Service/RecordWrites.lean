import CustomFields.Proofs.Service.Among
import CustomFields.Proofs.Service.Runs

/-!
# Records among calls that run at the same time

Calls of all kinds make their accesses in any order. A call that updates a record reads it, reads
and uses the schema of its pair, and stores what it has read with other values; whatever else is
done in between, a record in the store is always what one call has stored, with the values that this
call was given. They are not mixed with those of another one, and they have been validated by the
schema that this call has found for the pair on the way. What a record was created with is kept,
since an update stores it as it was read, and it was read as it had been created.

Each access is accounted for in what has been done before it, so there is one property of a record
and of all accesses made so far, which is kept by each access of each call.

## Main definitions

* `ServiceCall.program`: the accesses of a call
* `ServiceAccess.Lossless`: what an access stores can be read back
* `Record.LastStored`, `Record.Created`: how a record has come about
* `KeptAmong`: what holds of the shared state among calls

## Main results

* `ServiceCall.ensures_call`: what a call ensures among others
* `records_of_calls`: how each record has come about, after any schedule of any calls
-/

namespace CustomFields

/-- The accesses of a call, and its answer. -/
def ServiceCall.program (x : ServiceCall) (m : Moment) :
    Program serviceInterface (Σ x : ServiceCall, Except ServiceError x.Result) := do
  let answer ← ExceptT.run (x.call m)
  return ⟨x, answer⟩

/-- What an access stores can be read back from its text. -/
def ServiceAccess.Lossless : ServiceAccess → Prop
  | .store x => (StoreOperation.access x).Lossless
  | _ => True

/-- The record that an access has stored. -/
def storedRecord? (ev : ServiceAccessEvent) : Option Record :=
  match ev.access with
  | .store (.insertRecord r) =>
    Except.toOption (ev.before.storage.serve (.insertRecord r)).1
  | .store (.updateRecord r) =>
    Except.toOption (ev.before.storage.serve (.updateRecord r)).1
  | _ => none

/-! ## How a record has come about -/

namespace Record

/-- A record is what a call has stored that stored last under its id. It has the values that this
call was given, which could be stored for the pair when the call looked. -/
def LastStored (calls : List (ServiceCall × Moment)) (past : List ServiceAccessEvent)
    (r : Record) : Prop :=
  ∃ earlier w later x m, past = earlier ++ w :: later ∧ calls[w.place]? = some (x, m) ∧
    storedRecord? w = some r ∧ x.values? = some r.customData ∧
    (∃ ev ∈ earlier, ev.place = w.place ∧
      ev.before.Admits r.tenantId r.entityType r.customData m.today) ∧
    ∀ ev ∈ later, ∀ r', storedRecord? ev = some r' → r'.id ≠ r.id

/-- A record has the id, the tenant, the entity type and the time that it was created with, by the
first access that stored under its id. -/
def Created (calls : List (ServiceCall × Moment)) (past : List ServiceAccessEvent)
    (r : Record) : Prop :=
  ∃ earlier w later values m, past = earlier ++ w :: later ∧
    calls[w.place]? = some (.createRecord r.tenantId r.entityType values, m) ∧
    storedRecord? w = some (.new r.id r.tenantId r.entityType values r.createdAt) ∧
    m.freshId = r.id ∧ m.now = r.createdAt ∧
    ∀ ev ∈ earlier, ∀ r', storedRecord? ev = some r' → r'.id ≠ r.id

variable {calls : List (ServiceCall × Moment)} {past past' : List ServiceAccessEvent} {r : Record}

/-- An access that stores nothing under the id of a record leaves it as it was stored last. -/
theorem LastStored.append (h : LastStored calls past r) {ev : ServiceAccessEvent}
    (hev : ∀ r', storedRecord? ev = some r' → r'.id ≠ r.id) :
    LastStored calls (past ++ [ev]) r := by
  obtain ⟨earlier, w, later, x, m, rfl, hx, hw, hv, ha, hlater⟩ := h
  refine ⟨earlier, w, later ++ [ev], x, m, ?_, hx, hw, hv, ha, fun ev' hev' => ?_⟩
  · rw [List.append_assoc, List.cons_append]
  · rcases List.mem_append.1 hev' with hmem | hmem
    · exact hlater ev' hmem
    · obtain rfl := List.mem_singleton.1 hmem
      exact hev

theorem LastStored.append_of_none (h : LastStored calls past r) {ev : ServiceAccessEvent}
    (hev : storedRecord? ev = none) : LastStored calls (past ++ [ev]) r :=
  h.append fun _ hr' => absurd (hev.symm.trans hr') nofun

/-- What comes later does not change how a record was created. -/
theorem Created.mono (h : Created calls past r) (hpre : past <+: past') :
    Created calls past' r := by
  obtain ⟨more, rfl⟩ := hpre
  obtain ⟨earlier, w, later, values, m, rfl, hx, hw, hid, hnow, hfirst⟩ := h
  exact ⟨earlier, w, later ++ more, values, m, by rw [List.append_assoc, List.cons_append],
    hx, hw, hid, hnow, hfirst⟩

end Record

/-! ## What calls keep among each other -/

/-- What holds of the shared state among calls: what is stored is read as it is, schemas are those
that were given and satisfy their checks, and each record has come about as it should. -/
structure KeptAmong (used : List Schema) (calls : List (ServiceCall × Moment)) (engine : Engine)
    (kind : StorageKind) (past : List ServiceAccessEvent) (d : Deployment) : Prop where
  engine_eq : d.engine = engine
  kind_eq : d.storage.kind = kind
  cache : d.cache.Sound used
  distinct : d.storage.Distinct
  configs : d.storage.EachConfig fun c =>
    kind.ReadsConfig c c ∧ c.schema ∈ used ∧ c.schema.check = .ok ()
  records : d.storage.EachRecord fun r =>
    kind.ReadsRecord r r ∧ r.LastStored calls past ∧ r.Created calls past
  stored : ∀ ev ∈ past, ∀ r, storedRecord? ev = some r → d.storage.record? r.id ≠ .ok none

section Steps

variable {used : List Schema} {calls : List (ServiceCall × Moment)} {engine : Engine}
  {kind : StorageKind} {past : List ServiceAccessEvent} {d d' : Deployment}
  {ev : ServiceAccessEvent}

/-- The schema of a config that is read is one that was given, and satisfies its check. -/
theorem KeptAmong.schema_of_config? (h : KeptAmong used calls engine kind past d) {t : Uuid}
    {e : String} {c : EntityConfig} (hc : d.storage.config? t e = .ok (some c)) :
    c.schema ∈ used ∧ c.schema.check = .ok () := by
  obtain ⟨c₀, ⟨hread, hused, hcheck⟩, hread'⟩ := h.configs.exists_reads hc
  rw [h.kind_eq] at hread'
  obtain rfl := hread.eq hread'
  exact ⟨hused, hcheck⟩

/-- A record that is read is one that is stored. -/
theorem KeptAmong.created_of_record? (h : KeptAmong used calls engine kind past d) {id : Uuid}
    {r : Record} (hr : d.storage.record? id = .ok (some r)) : r.Created calls past := by
  obtain ⟨r₀, ⟨hread, -, hcreated⟩, hread'⟩ := h.records.exists_reads hr
  rw [h.kind_eq] at hread'
  obtain rfl := hread.eq hread'
  exact hcreated

theorem forall_stored_append {P : Record → Prop}
    (h : ∀ ev ∈ past, ∀ r, storedRecord? ev = some r → P r)
    (hev : ∀ r, storedRecord? ev = some r → P r) :
    ∀ ev' ∈ past ++ [ev], ∀ r, storedRecord? ev' = some r → P r := by
  intro ev' hev'
  rcases List.mem_append.1 hev' with hmem | hmem
  · exact h ev' hmem
  · exact List.mem_singleton.1 hmem ▸ hev

/-- An access that stores nothing keeps what holds. -/
theorem KeptAmong.keep (h : KeptAmong used calls engine kind past d)
    (hb : d.Becomes used d.storage d') (hev : storedRecord? ev = none) :
    KeptAmong used calls engine kind (past ++ [ev]) d' where
  engine_eq := hb.engine.trans h.engine_eq
  kind_eq := hb.storage ▸ h.kind_eq
  cache := hb.cache h.cache
  distinct := hb.storage ▸ h.distinct
  configs := hb.storage ▸ h.configs
  records := by
    rw [hb.storage]
    exact h.records.imp fun r hr =>
      ⟨hr.1, hr.2.1.append_of_none hev, hr.2.2.mono (List.prefix_append _ _)⟩
  stored := by
    rw [hb.storage]
    exact forall_stored_append h.stored fun r hr => absurd (hev.symm.trans hr) nofun

theorem KeptAmong.storeConfig (h : KeptAmong used calls engine kind past d) {c : EntityConfig}
    (hc : kind.ReadsConfig c c ∧ c.schema ∈ used ∧ c.schema.check = .ok ())
    (hb : d.Becomes used (d.storage.storeConfig c) d') (hev : storedRecord? ev = none) :
    KeptAmong used calls engine kind (past ++ [ev]) d' where
  engine_eq := hb.engine.trans h.engine_eq
  kind_eq := by rw [hb.storage, Storage.kind_storeConfig, h.kind_eq]
  cache := hb.cache h.cache
  distinct := hb.storage ▸ h.distinct.storeConfig c
  configs := hb.storage ▸ h.configs.storeConfig hc
  records := by
    rw [hb.storage]
    exact (h.records.imp fun r hr =>
      ⟨hr.1, hr.2.1.append_of_none hev, hr.2.2.mono (List.prefix_append _ _)⟩).storeConfig c
  stored := by
    simp only [hb.storage, Storage.record?_storeConfig]
    exact forall_stored_append h.stored fun r hr => absurd (hev.symm.trans hr) nofun

/-- An access that stores a record keeps what holds, if the record has come about as it should. -/
theorem KeptAmong.storeRecord (h : KeptAmong used calls engine kind past d) {r : Record}
    (hread : kind.ReadsRecord r r) (hev : storedRecord? ev = some r)
    (hlast : r.LastStored calls (past ++ [ev])) (hcreated : r.Created calls (past ++ [ev]))
    (hb : d.Becomes used (d.storage.storeRecord r) d') :
    KeptAmong used calls engine kind (past ++ [ev]) d' where
  engine_eq := hb.engine.trans h.engine_eq
  kind_eq := by rw [hb.storage, Storage.kind_storeRecord, h.kind_eq]
  cache := hb.cache h.cache
  distinct := hb.storage ▸ h.distinct.storeRecord r
  configs := hb.storage ▸ h.configs.storeRecord r
  records := by
    rw [hb.storage]
    refine h.records.storeRecord h.distinct ⟨hread, hlast, hcreated⟩ fun r' hr' hne =>
      ⟨hr'.1, hr'.2.1.append ?_, hr'.2.2.mono (List.prefix_append _ _)⟩
    rw [hev]
    rintro _ ⟨⟩
    exact hne.symm
  stored := by
    rw [hb.storage]
    have hself : (d.storage.storeRecord r).record? r.id = .ok (some r) :=
      Storage.record?_storeRecord_self (h.kind_eq.symm ▸ hread)
    refine forall_stored_append (fun ev' hev' r' hr' => ?_) fun r' hr' => ?_
    · by_cases hid : r'.id = r.id
      · rw [hid, hself]
        nofun
      · rw [Storage.record?_storeRecord_of_ne hid]
        exact h.stored ev' hev' r' hr'
    · obtain rfl := Option.some.inj (hev.symm.trans hr')
      rw [hself]
      nofun

theorem keptAmong_new (used : List Schema) (calls : List (ServiceCall × Moment)) (engine : Engine)
    (kind : StorageKind) (capacity : ℕ) (withMetrics : Bool) :
    KeptAmong used calls engine kind [] (.new engine kind capacity withMetrics) where
  engine_eq := rfl
  kind_eq := by cases kind <;> rfl
  cache := SchemaCache.sound_new used capacity
  distinct := Storage.distinct_new kind
  configs := Storage.eachConfig_new kind _
  records := Storage.eachRecord_new kind _
  stored _ h := by cases h

end Steps

/-- What calls of all kinds keep among each other. -/
def amongCalls (used : List Schema) (calls : List (ServiceCall × Moment)) (engine : Engine)
    (kind : StorageKind) : Contract Deployment.serve where
  Allowed ev := kind = .tree → ev.access.Lossless
  Keeps := KeptAmong used calls engine kind

/-! ## Single accesses -/

section Accesses

variable {used : List Schema} {calls : List (ServiceCall × Moment)} {engine : Engine}
  {kind : StorageKind} {i : ℕ} {past : List ServiceAccessEvent}

/-- What an access that only reads has answered is read in a state in which what is kept holds. -/
theorem ensures_read {x : StoreAccess} {f : Storage → Except StoreError x.Result}
    (hx : ∀ S, S.serve x = (f S, S)) (hnone : ∀ d, storedRecord? ⟨i, .store x, d⟩ = none) :
    Call.Ensures (amongCalls used calls engine kind) i
      (fun past' r => ∀ a, r = .ok a → ∃ before ev, before ++ [ev] <+: past' ∧ ev.place = i ∧
        KeptAmong used calls engine kind before ev.before ∧ f ev.before.storage = .ok a)
      past (Call.store x) := by
  refine Call.ensures_store fun past' d _ hd _ => ?_
  rw [hx]
  refine ⟨hd.keep ⟨rfl, rfl, id⟩ (hnone d), fun past'' hw a ha => ?_⟩
  exact ⟨past', ⟨i, .store x, d⟩, hw.isPrefix, rfl, hd, mapError_eq_ok_iff.1 ha⟩

theorem ensures_checkEntityType (e : String) :
    Call.Ensures (amongCalls used calls engine kind) i (fun _ _ => True) past
      (liftM (checkEntityType e)) :=
  Call.ensures_lift fun _ _ => trivial

theorem ensures_observe (o : Observation) :
    Call.Ensures (amongCalls used calls engine kind) i (fun _ _ => True) past (Call.observe o) :=
  Call.ensures_access fun _ _ _ hd _ => ⟨hd.keep ⟨rfl, rfl, id⟩ rfl, fun _ _ => trivial⟩

theorem ensures_forM_observe {ι : Type} {xs : List ι} {f : ι → Observation} :
    Call.Ensures (amongCalls used calls engine kind) i (fun _ _ => True) past
      (xs.forM fun x => Call.observe (f x)) := by
  induction xs generalizing past with
  | nil => exact Call.ensures_pure fun _ _ => trivial
  | cons x xs ih =>
    exact Call.Ensures.bind (ensures_observe (f x)) (fun _ _ _ _ => ih) fun _ _ _ => trivial

theorem ensures_compile (free : CollisionFree used) {s : Schema} (hs : s ∈ used) :
    Call.Ensures (amongCalls used calls engine kind) i
      (fun _ r => ∀ k, r = .ok k → s.check = .ok ()) past (Call.compile s) := by
  refine Call.ensures_compile fun past' d _ hd _ => ?_
  obtain ⟨hsound, hanswer⟩ := hd.cache.getOrCompile free hs
  refine ⟨hd.keep ⟨rfl, rfl, fun _ => hsound⟩ rfl, fun _ _ k hk => ?_⟩
  cases hr : (d.cache.getOrCompile s).1 with
  | error e =>
    rw [hr] at hk
    cases hk
  | ok k' =>
    rw [hr] at hanswer
    exact CompiledSchema.exists_compile_iff.1 ⟨k'.schema, hanswer.symm⟩

/-- An answer that is counted before it is given. -/
theorem ensures_observe_pure {α : Type} (o : Observation) (a : α) :
    Call.Ensures (amongCalls used calls engine kind) i (fun _ _ => True) past
      (do Call.observe o; return a) :=
  Call.Ensures.bind (ensures_observe o) (fun _ _ _ _ => Call.ensures_pure fun _ _ => trivial)
    fun _ _ _ => trivial

/-- The schema of a pair that has been read at some point of the call, if the pair had a config. -/
theorem ensures_resolveSchema (t : Uuid) (e : String) :
    Call.Ensures (amongCalls used calls engine kind) i
      (fun past' r => ∀ s?, r = .ok s? → ∃ ev ∈ past', ev.place = i ∧ ev.before.engine = engine ∧
        ∃ c?, ev.before.storage.config? t e = .ok c? ∧ s? = c?.map (·.schema) ∧
          ∀ s ∈ s?, s ∈ used ∧ s.check = .ok ())
      past (Records.resolveSchema t e) := by
  refine Call.Ensures.bind (ensures_read (·.serve_getConfig t e) fun _ => rfl)
    (fun past' c? _ hread => ?_) (by rintro past' err - s? ⟨⟩)
  obtain ⟨before, ev, hpre, hplace, hkept, hc⟩ := hread c? rfl
  refine Call.ensures_pure fun past'' hw => ?_
  rintro s? ⟨⟩
  refine ⟨ev, (hpre.trans hw.isPrefix).subset (by simp), hplace, hkept.engine_eq, c?, hc, rfl, ?_⟩
  intro s hs
  obtain ⟨c, rfl, rfl⟩ := Option.map_eq_some_iff.1 hs
  exact hkept.schema_of_config? hc

/-- A validation by schemas that satisfy their checks finds issues, or lets the values through as
they are. -/
theorem ensures_useSchema (free : CollisionFree used) {s? : Option Schema}
    (hs : ∀ s ∈ s?, s ∈ used ∧ s.check = .ok ()) {values : Json.Object} {today : Calendar.Date} :
    Call.Ensures (amongCalls used calls engine kind) i
      (fun _ r => (∃ l, r = .ok (.error (.validation l))) ∨
        r = .ok (.ok values) ∧ ∀ s ∈ s?, ∃ k, CompiledSchema.compile s = .ok k ∧
          (engine.collectIssues k values today).issues = [])
      past (Call.access (.validate s? values today)) := by
  refine Call.ensures_access fun past' d _ hd _ => ?_
  obtain ⟨hb, hanswer⟩ := Call.validate_cases free hd.cache hs (Call.run_access _ d)
  rw [hd.engine_eq] at hanswer
  exact ⟨hd.keep hb rfl, fun _ _ => hanswer⟩

/-- Values that are let through are those that were given, and they could be stored for the pair at
some point of the call. -/
theorem ensures_validate (free : CollisionFree used) (t : Uuid) (e : String)
    (values : Json.Object) (m : Moment) :
    Call.Ensures (amongCalls used calls engine kind) i
      (fun past' r => ∀ validated, r = .ok validated → validated = values ∧
        ∃ ev ∈ past', ev.place = i ∧ ev.before.Admits t e values m.today)
      past (Records.validate t e values m) := by
  refine Call.Ensures.bind (ensures_resolveSchema t e) (fun past₁ s? _ hresolved => ?_)
    (by rintro past' err - validated ⟨⟩)
  obtain ⟨ev, hev, hplace, hengine, c?, hc, rfl, hs⟩ := hresolved s? rfl
  refine Call.Ensures.bind (ensures_useSchema free hs) (fun past₂ result hpre₂ hresult => ?_)
    (by rintro past' err - validated ⟨⟩)
  refine Call.Ensures.bind (ensures_observe _) (fun past₃ _ hpre₃ _ => ?_)
    (by rintro past' err - validated ⟨⟩)
  obtain ⟨l, hl⟩ | ⟨hvalid, hissues⟩ := hresult
  · -- each issue is counted before the call fails
    obtain rfl := Except.ok.inj hl
    refine Call.Ensures.bind (ensures_observe _) (fun past₄ _ _ _ => ?_)
      (by rintro past' err - validated ⟨⟩)
    refine Call.Ensures.bind ensures_forM_observe (fun past₅ _ _ _ => ?_)
      (by rintro past' err - validated ⟨⟩)
    exact Call.ensures_throw (by rintro past' - validated ⟨⟩)
  · obtain rfl := Except.ok.inj hvalid
    refine Call.Ensures.bind (ensures_observe _) (fun past₄ _ hpre₄ _ => ?_)
      (by rintro past' err - validated ⟨⟩)
    refine Call.ensures_pure fun past' hw => ?_
    rintro _ ⟨⟩
    have hpre := ((hpre₂.trans hpre₃).trans hpre₄).trans hw.isPrefix
    refine ⟨rfl, ev, hpre.subset hev, hplace, ?_⟩
    -- what the schema of that state has found is what that state admits
    cases c? with
    | none => exact Or.inl hc
    | some c =>
      obtain ⟨k, hk, hnone⟩ := hissues c.schema rfl
      exact Or.inr ⟨c, k, hc, hk, hengine ▸ hnone⟩

/-- A config that is stored has a schema that satisfies its check. -/
theorem ensures_storeConfig {x : StoreAccess} {c : EntityConfig}
    (hx : x = .createConfig c ∨ x = .updateConfig c)
    (hc : c.schema ∈ used ∧ c.schema.check = .ok ()) :
    Call.Ensures (amongCalls used calls engine kind) i (fun _ _ => True) past (Call.store x) := by
  refine Call.ensures_store fun past' d _ hd hallowed => ⟨?_, fun _ _ => trivial⟩
  have hwrite : (d.storage.serve x).2 = d.storage ∨
      (d.storage.serve x).2 = d.storage.storeConfig c := by
    rcases hx with rfl | rfl
    · exact (d.storage.serve_createConfig c).imp (congrArg Prod.snd) (congrArg Prod.snd)
    · exact (d.storage.serve_updateConfig c).imp (congrArg Prod.snd) (congrArg Prod.snd)
  have hnone : storedRecord? ⟨i, .store x, d⟩ = none := by
    rcases hx with rfl | rfl <;> rfl
  have hread : kind.ReadsConfig c c := by
    rcases hx with rfl | rfl <;> exact StorageKind.readsConfig_self hallowed
  rcases hwrite with hS | hS
  · exact hd.keep ⟨rfl, hS, id⟩ hnone
  · exact hd.storeConfig ⟨hread, hc⟩ ⟨rfl, hS, id⟩ hnone

/-- A record that is inserted is new: none has been stored under its id before. -/
theorem ensures_insertRecord {t : Uuid} {e : String} {values : Json.Object} {m : Moment}
    (hcall : calls[i]? = some (.createRecord t e values, m))
    (ha : ∃ ev ∈ past, ev.place = i ∧ ev.before.Admits t e values m.today) :
    Call.Ensures (amongCalls used calls engine kind) i (fun _ _ => True) past
      (Call.store (.insertRecord (.new m.freshId t e values m.now))) := by
  refine Call.ensures_store fun past' d hw hd hallowed => ⟨?_, fun _ _ => trivial⟩
  obtain ⟨ev, hev, hadmits⟩ := ha
  generalize hr : Record.new m.freshId t e values m.now = r at hallowed
  rcases d.storage.serve_insertRecord r with hserve | hserve
  · refine hd.keep ⟨rfl, congrArg Prod.snd hserve, id⟩ ?_
    simp only [storedRecord?, hserve, Except.toOption]
  · have hstored : storedRecord? ⟨i, .store (.insertRecord r), d⟩ = some r := by
      simp only [storedRecord?, hserve, Except.toOption]
    have hnew : ∀ ev ∈ past', ∀ r', storedRecord? ev = some r' → r'.id ≠ r.id := by
      intro ev' hev' r' hr' hid
      refine hd.stored ev' hev' r' hr' ?_
      rw [hid]
      exact Storage.record?_of_serve_insertRecord hserve
    subst hr
    refine hd.storeRecord (StorageKind.readsRecord_self hallowed) hstored ?_ ?_
      ⟨rfl, congrArg Prod.snd hserve, id⟩
    · exact ⟨past', _, [], _, m, rfl, hcall, hstored, rfl, ⟨ev, hw.isPrefix.subset hev, hadmits⟩,
        by rintro _ ⟨⟩⟩
    · exact ⟨past', _, [], values, m, rfl, hcall, hstored, rfl, rfl, hnew⟩

/-- A record that is stored with new values is the one that has been read, apart from them. -/
theorem ensures_replaceRecord {id : Uuid} {old : Record} {values : Json.Object} {m : Moment}
    (hcall : calls[i]? = some (.updateRecord id (some values), m))
    (hold : old.Created calls past)
    (ha : ∃ ev ∈ past, ev.place = i ∧ ev.before.Admits old.tenantId old.entityType values m.today) :
    Call.Ensures (amongCalls used calls engine kind) i (fun _ _ => True) past
      (Call.store (.updateRecord (old.replaceData values m.now))) := by
  refine Call.ensures_store fun past' d hw hd hallowed => ⟨?_, fun _ _ => trivial⟩
  obtain ⟨ev, hev, hadmits⟩ := ha
  rcases d.storage.serve_updateRecord (old.replaceData values m.now) with hserve | hserve
  · refine hd.keep ⟨rfl, congrArg Prod.snd hserve, fun h => h⟩ ?_
    simp only [storedRecord?, hserve, Except.toOption]
  · have hstored : storedRecord? ⟨i, .store (.updateRecord (old.replaceData values m.now)), d⟩ =
        some (old.replaceData values m.now) := by
      simp only [storedRecord?, hserve, Except.toOption]
    -- it keeps what it was created with, in whatever state it has been read
    have hcreated : (old.replaceData values m.now).Created calls past := hold
    refine hd.storeRecord (StorageKind.readsRecord_self hallowed) hstored ?_
      (hcreated.mono (hw.isPrefix.trans (List.prefix_append _ _)))
      ⟨rfl, congrArg Prod.snd hserve, fun h => h⟩
    exact ⟨past', _, [], _, m, rfl, hcall, hstored, rfl, ⟨ev, hw.isPrefix.subset hev, hadmits⟩,
      by rintro _ ⟨⟩⟩

end Accesses

/-! ## Calls -/

section Calls

variable {used : List Schema} {calls : List (ServiceCall × Moment)} {engine : Engine}
  {kind : StorageKind} {i : ℕ} {past : List ServiceAccessEvent} {t : Uuid} {e : String} {m : Moment}

theorem ensures_createConfig (free : CollisionFree used) {name : Option String} {s : Schema}
    (hs : s ∈ used) :
    Call.Ensures (amongCalls used calls engine kind) i (fun _ _ => True) past
      (Configs.create t e name s m) := by
  refine Call.Ensures.bind (ensures_checkEntityType e) (fun past₁ _ _ _ => ?_) fun _ _ _ => trivial
  refine Call.Ensures.bind (ensures_compile free hs) (fun past₂ k _ hk => ?_) fun _ _ _ => trivial
  exact Call.Ensures.bind (ensures_storeConfig (Or.inl rfl) ⟨hs, hk k rfl⟩)
    (fun past₃ c _ _ => ensures_observe_pure _ c) fun _ _ _ => trivial

theorem ensures_updateConfig (free : CollisionFree used) {name : Option String} {s : Schema}
    (hs : s ∈ used) :
    Call.Ensures (amongCalls used calls engine kind) i (fun _ _ => True) past
      (Configs.update t e name s m) := by
  refine Call.Ensures.bind (ensures_compile free hs) (fun past₁ k _ hk => ?_) fun _ _ _ => trivial
  refine Call.Ensures.bind (ensures_read (·.serve_getConfig t e) fun _ => rfl)
    (fun past₂ old? _ _ => ?_) fun _ _ _ => trivial
  cases old? with
  | none => exact Call.ensures_throw fun _ _ => trivial
  | some old =>
    exact Call.Ensures.bind (ensures_storeConfig (Or.inr rfl) ⟨hs, hk k rfl⟩)
      (fun past₃ c _ _ => ensures_observe_pure _ c) fun _ _ _ => trivial

theorem ensures_createRecord (free : CollisionFree used) {values : Json.Object}
    (hcall : calls[i]? = some (.createRecord t e values, m)) :
    Call.Ensures (amongCalls used calls engine kind) i (fun _ _ => True) past
      (Records.create t e values m) := by
  refine Call.Ensures.bind (ensures_checkEntityType e) (fun past₁ _ _ _ => ?_) fun _ _ _ => trivial
  refine Call.Ensures.bind (ensures_validate free t e values m) (fun past₂ validated _ hv => ?_)
    fun _ _ _ => trivial
  obtain ⟨rfl, ha⟩ := hv validated rfl
  exact ensures_insertRecord hcall ha

theorem ensures_updateRecord (free : CollisionFree used) {id : Uuid} {values? : Option Json.Object}
    (hcall : calls[i]? = some (.updateRecord id values?, m)) :
    Call.Ensures (amongCalls used calls engine kind) i (fun _ _ => True) past
      (Records.update id values? m) := by
  refine Call.Ensures.bind (ensures_read (·.serve_getRecord id) fun _ => rfl)
    (fun past₁ old? _ hread => ?_) fun _ _ _ => trivial
  cases old? with
  | none => exact Call.ensures_throw fun _ _ => trivial
  | some old =>
    cases values? with
    | none => exact Call.ensures_pure fun _ _ => trivial
    | some values =>
      -- the record that is read was created as it should, and will stay so
      obtain ⟨before, ev, hpre, -, hkept, hold⟩ := hread (some old) rfl
      have hcreated := (hkept.created_of_record? hold).mono ((List.prefix_append _ _).trans hpre)
      refine Call.Ensures.bind (ensures_validate free old.tenantId old.entityType values m)
        (fun past₂ validated hpre₂ hv => ?_) fun _ _ _ => trivial
      obtain ⟨rfl, ha⟩ := hv validated rfl
      exact ensures_replaceRecord hcall (hcreated.mono hpre₂) ha

theorem ensures_dryRun (free : CollisionFree used) {values : Json.Object} :
    Call.Ensures (amongCalls used calls engine kind) i (fun _ _ => True) past
      (Records.dryRun t e values m) := by
  refine Call.Ensures.bind (ensures_resolveSchema t e) (fun past₁ s? _ hresolved => ?_)
    fun _ _ _ => trivial
  obtain ⟨-, -, -, -, -, -, -, hs⟩ := hresolved s? rfl
  cases s? with
  | none => exact Call.ensures_pure fun _ _ => trivial
  | some s =>
    obtain ⟨hused, hcheck⟩ := hs s rfl
    refine Call.Ensures.orThrow (c := Call.access (.dryRun s values m.today)) (fun _ => rfl)
      (fun _ => rfl) (Call.ensures_access fun past₂ d _ hd _ => ?_)
    obtain ⟨hb, -⟩ := Call.tryOut_cases free hd.cache hused hcheck (Call.run_access _ d)
    exact ⟨hd.keep hb rfl, fun _ _ => ⟨_, rfl, trivial⟩⟩

/-- **What a call ensures among others**: each of its accesses keeps what is kept among calls. -/
theorem ServiceCall.ensures_call (free : CollisionFree used) {x : ServiceCall}
    (hcall : calls[i]? = some (x, m)) (hx : ∀ s ∈ x.schema?, s ∈ used) :
    Call.Ensures (amongCalls used calls engine kind) i (fun _ _ => True) past (x.call m) := by
  -- the calls that only read make one access
  have hread {x : StoreAccess} {f : Storage → Except StoreError x.Result}
      (hx : ∀ S, S.serve x = (f S, S)) (hnone : ∀ d, storedRecord? ⟨i, .store x, d⟩ = none) :
      Call.Ensures (amongCalls used calls engine kind) i (fun _ _ => True) past (Call.store x) :=
    (ensures_read hx hnone).imp fun _ _ _ => trivial
  cases x with
  | createConfig t e name s => exact ensures_createConfig free (hx s rfl)
  | getConfig t e => exact hread (·.serve_getConfig t e) fun _ => rfl
  | updateConfig t e name s => exact ensures_updateConfig free (hx s rfl)
  | listConfigs t => exact hread (fun S => Prod.ext rfl (S.serve_listConfigs t)) fun _ => rfl
  | createRecord t e values => exact ensures_createRecord free hcall
  | getRecord id => exact hread (·.serve_getRecord id) fun _ => rfl
  | updateRecord id values? => exact ensures_updateRecord free hcall
  | listRecords f => exact hread (fun S => Prod.ext rfl (S.serve_listRecords f)) fun _ => rfl
  | dryRun t e values => exact ensures_dryRun free

theorem ServiceCall.ensures_program (free : CollisionFree used) {x : ServiceCall}
    (hcall : calls[i]? = some (x, m)) (hx : ∀ s ∈ x.schema?, s ∈ used) :
    (amongCalls used calls engine kind).Ensures i (fun _ _ => True) past (x.program m) :=
  Contract.Ensures.bind (x.ensures_call free hcall hx) fun _ _ _ _ _ _ => trivial

end Calls

/-- **How each record has come about**, after any schedule of any calls from empty stores, if the
digest takes no two of their schemas for each other. A record has the values of one call, which is
the one that stored last under its id, and they could be stored for its pair in a state that this
call has found before; its id, tenant, entity type and time of creation are those of the call that
created it. In memory this is so of all calls. In a tree, where a thing is read from its text, it is
so if each text that is stored is read as what it was made from. -/
theorem records_of_calls {used : List Schema} (free : CollisionFree used) (engine : Engine)
    (kind : StorageKind) (capacity : ℕ) (withMetrics : Bool) (calls : List (ServiceCall × Moment))
    (hcalls : ∀ x ∈ calls, ∀ s ∈ x.1.schema?, s ∈ used) (schedule : List ℕ)
    {programs : List (Program serviceInterface (Σ x : ServiceCall, Except ServiceError x.Result))}
    {d : Deployment} {log : List ServiceAccessEvent}
    (hrun : runSchedule Deployment.serve schedule (calls.map fun x => x.1.program x.2)
      (.new engine kind capacity withMetrics) = (programs, d))
    (hlog : scheduleEvents Deployment.serve schedule (calls.map fun x => x.1.program x.2)
      (.new engine kind capacity withMetrics) = log)
    (lossless : kind = .tree → ∀ ev ∈ log, ev.access.Lossless) :
    d.storage.EachRecord fun r =>
      kind.ReadsRecord r r ∧ r.LastStored calls log ∧ r.Created calls log := by
  have hstart : (amongCalls used calls engine kind).Keeps []
      (.new engine kind capacity withMetrics) :=
    keptAmong_new used calls engine kind capacity withMetrics
  have hensures : ∀ i, ∀ p ∈ (calls.map fun x => x.1.program x.2)[i]?,
      (amongCalls used calls engine kind).Ensures i (fun _ _ => True) [] p := by
    intro i p hp
    rw [List.getElem?_map] at hp
    obtain ⟨x, hx, rfl⟩ := Option.map_eq_some_iff.1 hp
    exact ServiceCall.ensures_program free hx (hcalls x (List.mem_of_getElem? hx))
  have hallowed : ∀ ev ∈ scheduleEvents Deployment.serve schedule
      (calls.map fun x => x.1.program x.2) (.new engine kind capacity withMetrics),
      (amongCalls used calls engine kind).Allowed ev := by
    rw [hlog]
    exact fun ev hev hkind => lossless hkind ev hev
  obtain ⟨hkeeps, -⟩ := Contract.after_schedule schedule hstart hensures hallowed
  rw [hlog, hrun, List.nil_append] at hkeeps
  exact hkeeps.records

/-- A record is created by the config of its pair, and two calls give it new values at once. -/
def recordCalls : List (ServiceCall × Moment) :=
  [(.createConfig (.ofNat 1) "site" none SchemaCache.codeSchema, leapDay 2),
    (.createRecord (.ofNat 1) "site" [("code", .string "A1")], leapDay 3),
    (.updateRecord (.ofNat 3) (some [("code", .string "B2")]), leapDay 4),
    (.updateRecord (.ofNat 3) (some [("code", .string "C3")]), leapDay 5)]

/-- The config and the record are created, and then the updates take turns. -/
def recordSchedule : List ℕ :=
  [0, 0, 0, 1, 1, 1, 1, 1, 2, 3, 3, 2, 2, 3, 3, 2, 2, 3, 3, 2]

/-- The programs of the calls. -/
def recordPrograms :
    List (Program serviceInterface (Σ x : ServiceCall, Except ServiceError x.Result)) :=
  recordCalls.map fun x => x.1.program x.2

/-- The accesses of the calls. -/
def recordLog : List ServiceAccessEvent :=
  scheduleEvents Deployment.serve recordSchedule recordPrograms (.new (.new .empty) .memory 1 false)

/-- The state that the calls leave. -/
def recordState : Deployment :=
  (runSchedule Deployment.serve recordSchedule recordPrograms
    (.new (.new .empty) .memory 1 false)).2

theorem records_of_calls_recordCalls :
    CollisionFree [SchemaCache.codeSchema] ∧
      (recordState.storage.EachRecord fun r =>
        StorageKind.memory.ReadsRecord r r ∧ r.LastStored recordCalls recordLog ∧
          r.Created recordCalls recordLog) ∧
      (recordState.storage.record? (.ofNat 3)).toOption.map (·.isSome) = some true := by
  have free : CollisionFree [SchemaCache.codeSchema] := by simp [CollisionFree]
  have hcalls : ∀ x ∈ recordCalls, ∀ s ∈ x.1.schema?, s ∈ [SchemaCache.codeSchema] := by
    simp [recordCalls, ServiceCall.schema?]
  have hstored : (recordState.storage.record? (.ofNat 3)).toOption.map (·.isSome) = some true := by
    decide +kernel
  exact ⟨free, records_of_calls free (.new .empty) .memory 1 false recordCalls hcalls recordSchedule
    Prod.mk.eta.symm rfl (fun htree => absurd htree (by decide)), hstored⟩

end CustomFields
