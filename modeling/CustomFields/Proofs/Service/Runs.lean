import CustomFields.Proofs.Service.Calls

/-!
# Runs of the services

Calls follow each other, each with arguments of any kind, from empty stores. What a call leaves
behind is what it was given and has checked: schemas that satisfy their check, and values that have
been validated by the schema that their pair had at that moment. So a schema that a validation finds
in the store always compiles, and a call that validates never fails because of one.

## Main definitions

* `ServiceCall`, `ServiceEvent`: a call with its arguments, and one that has been made
* `Deployment.runCalls`: the history of calls that follow each other, and the state they leave
* `ServiceEvent.Effect`: what a call can do to the stores
* `ServiceRun.LastWrote`: the call that has written a record last

## Main results

* `ServiceCall.effect`: a call does one of three things
* `ServiceRun.Kept.next`: a call keeps what holds after a run
* `runCalls_schemas_and_records`: what holds after every run
-/

namespace CustomFields

/-! ## Calls and events -/

/-- A call to one of the services. -/
inductive ServiceCall where
  | createConfig (tenantId : Uuid) (entityType : String) (name : Option String) (schema : Schema)
  | getConfig (tenantId : Uuid) (entityType : String)
  | updateConfig (tenantId : Uuid) (entityType : String) (name : Option String) (schema : Schema)
  | listConfigs (tenantId : Uuid)
  | createRecord (tenantId : Uuid) (entityType : String) (values : Json.Object)
  | getRecord (id : Uuid)
  | updateRecord (id : Uuid) (values : Option Json.Object)
  | listRecords (filter : RecordFilter)
  | dryRun (tenantId : Uuid) (entityType : String) (values : Json.Object)

namespace ServiceCall

/-- What a call answers unless it fails. -/
def Result : ServiceCall → Type
  | .createConfig _ _ _ _ => EntityConfig
  | .getConfig _ _ => Option EntityConfig
  | .updateConfig _ _ _ _ => EntityConfig
  | .listConfigs _ => List EntityConfig
  | .createRecord _ _ _ => Record
  | .getRecord _ => Option Record
  | .updateRecord _ _ => Record
  | .listRecords _ => List Record
  | .dryRun _ _ _ => ValidationReport

/-- What a call does at a moment. -/
def call : (x : ServiceCall) → Moment → Call x.Result
  | .createConfig t e name s, m => Configs.create t e name s m
  | .getConfig t e, _ => Configs.get t e
  | .updateConfig t e name s, m => Configs.update t e name s m
  | .listConfigs t, _ => Configs.list t
  | .createRecord t e values, m => Records.create t e values m
  | .getRecord id, _ => Records.get id
  | .updateRecord id values, m => Records.update id values m
  | .listRecords f, _ => Records.list f
  | .dryRun t e values, m => Records.dryRun t e values m

/-- The schema that a call is given. -/
def schema? : ServiceCall → Option Schema
  | .createConfig _ _ _ s => some s
  | .updateConfig _ _ _ s => some s
  | _ => none

/-- The values that a call is given to store. -/
def values? : ServiceCall → Option Json.Object
  | .createRecord _ _ values => some values
  | .updateRecord _ values => values
  | _ => none

/-- Whether a call validates values, to store them or not. -/
def Validates : ServiceCall → Prop
  | .createRecord _ _ _ => True
  | .updateRecord _ _ => True
  | .dryRun _ _ _ => True
  | _ => False

end ServiceCall

/-- A call that has been made at a moment, the state that it found, and its answer. -/
structure ServiceEvent where
  call : ServiceCall
  moment : Moment
  before : Deployment
  answer : Except ServiceError call.Result

namespace ServiceEvent

/-- The record that a call has written. -/
def written? : ServiceEvent → Option Record
  | ⟨.createRecord _ _ _, _, _, .ok r⟩ => some r
  | ⟨.updateRecord _ (some _), _, _, .ok r⟩ => some r
  | _ => none

/-- A schema that a call is given or can read. -/
def Uses (ev : ServiceEvent) (s : Schema) : Prop :=
  ev.call.schema? = some s ∨
    ∃ t e c, ev.before.storage.config? t e = .ok (some c) ∧ c.schema = s

end ServiceEvent

/-! ## Runs -/

/-- Calls that have been made, and the state that they have left. -/
structure ServiceRun where
  history : List ServiceEvent
  state : Deployment

namespace ServiceRun

/-- Makes one call more. -/
def next (R : ServiceRun) (x : ServiceCall × Moment) : ServiceRun where
  history := R.history ++ [⟨x.1, x.2, R.state, ((x.1.call x.2).run R.state).1⟩]
  state := ((x.1.call x.2).run R.state).2

/-- The values of a record are those of the last call that has written it, and might be stored for
its pair in the state that this call found. -/
def LastWrote (history : List ServiceEvent) (r : Record) : Prop :=
  ∃ earlier ev later, history = earlier ++ ev :: later ∧ ev.written? = some r ∧
    ev.call.values? = some r.customData ∧
    ev.before.Admits r.tenantId r.entityType r.customData ev.moment.today ∧
    ∀ ev' ∈ later, ∀ r', ev'.written? = some r' → r'.id ≠ r.id

end ServiceRun

/-- Makes calls that follow each other. -/
def Deployment.runCalls (d : Deployment) (calls : List (ServiceCall × Moment)) : ServiceRun :=
  calls.foldl ServiceRun.next ⟨[], d⟩

theorem Deployment.runCalls_append_singleton (d : Deployment) (calls : List (ServiceCall × Moment))
    (x : ServiceCall × Moment) : d.runCalls (calls ++ [x]) = (d.runCalls calls).next x :=
  List.foldl_append.trans rfl

/-! ## What one call does -/

/-- What a call can do to the stores: nothing, or it stores a config with a schema and an entity
type that satisfy their checks, or the record that it answers, with values that may be stored. -/
inductive ServiceEvent.Effect (used : List Schema) (ev : ServiceEvent) (d' : Deployment) : Prop
  | reads (hw : ev.written? = none) (hb : ev.before.Becomes used ev.before.storage d')
  | config (c : EntityConfig) (hc : c.Proper) (hw : ev.written? = none)
      (hb : ev.before.Becomes used (ev.before.storage.storeConfig c) d')
  | record (r : Record) (hr : r.Proper) (hw : ev.written? = some r)
      (hv : ev.call.values? = some r.customData)
      (ha : ev.before.Admits r.tenantId r.entityType r.customData ev.moment.today)
      (hb : ev.before.Becomes used (ev.before.storage.storeRecord r) d')

section Step

variable {used : List Schema} {d d' : Deployment} {m : Moment}

/-- **A call does one of three things**, and no schema is at fault where it validates values. -/
theorem ServiceCall.effect (free : CollisionFree used) (hd : d.Sound used)
    (hread : d.ReadsUsed used) (x : ServiceCall) (hx : ∀ s ∈ x.schema?, s ∈ used)
    {answer : Except ServiceError x.Result} (h : (x.call m).run d = (answer, d')) :
    ServiceEvent.Effect used ⟨x, m, d, answer⟩ d' ∧
      (x.Validates → ∀ err, answer = .error err → err.isSchema = false) := by
  -- one case for each kind of call; those to configs validate no values
  cases x with
  | createConfig t e name s =>
    refine ⟨?_, False.elim⟩
    obtain ⟨err, rfl, hb⟩ | ⟨c, -, hc, rfl, hb⟩ := Configs.create_cases free (hx s rfl) hd.cache h
    · exact .reads rfl hb
    · exact .config c hc rfl hb
  | getConfig t e => exact ⟨.reads rfl (Configs.get_cases h), False.elim⟩
  | updateConfig t e name s =>
    refine ⟨?_, False.elim⟩
    obtain ⟨err, rfl, hb⟩ | ⟨old, c, hold, rfl, hs, rfl, hb⟩ :=
      Configs.update_cases free (hx s rfl) hd.cache h
    · exact .reads rfl hb
    · -- the entity type is the one that was checked when the config was created
      have hproper := hd.proper_of_config? hold
      exact .config { old.replaceSchema s m.now with name := name.or old.name }
        ⟨hs, hproper.entityType⟩ rfl hb
  | listConfigs t => exact ⟨.reads rfl (Configs.list_cases h), False.elim⟩
  | createRecord t e values =>
    obtain ⟨err, rfl, herr, hb⟩ | ⟨r, rfl, hr, rfl, ha, hb⟩ :=
      Records.create_cases free hd hread h
    · refine ⟨.reads rfl hb, fun _ => ?_⟩
      rintro _ ⟨⟩
      exact herr
    · exact ⟨.record _ hr rfl rfl ha hb, by rintro - _ ⟨⟩⟩
  | getRecord id => exact ⟨.reads rfl (Records.get_cases h), False.elim⟩
  | updateRecord id values? =>
    obtain ⟨hb, ⟨err, rfl, herr⟩ | ⟨rfl, r, rfl⟩⟩ | ⟨old, values, r, hold, rfl, rfl, rfl, ha, hb⟩ :=
      Records.update_cases free hd hread h
    · refine ⟨.reads ?_ hb, fun _ => ?_⟩
      · cases values? <;> rfl
      · rintro _ ⟨⟩
        exact herr
    · exact ⟨.reads rfl hb, by rintro - _ ⟨⟩⟩
    · -- nor is the entity type of a record checked a second time
      have hproper := hd.proper_of_record? hold
      exact ⟨.record (old.replaceData values m.now) hproper rfl rfl ha hb, by rintro - _ ⟨⟩⟩
  | listRecords f => exact ⟨.reads rfl (Records.list_cases h), False.elim⟩
  | dryRun t e values =>
    obtain ⟨hb, herr⟩ := Records.dryRun_cases free hd hread h
    exact ⟨.reads rfl hb, fun _ => herr⟩

end Step

/-! ## What a run keeps -/

namespace ServiceRun

/-- What holds after a run: the state is sound, each record has the values of the call that has
written it last, and no call that validates values has found a schema at fault. -/
structure Kept (used : List Schema) (R : ServiceRun) : Prop where
  sound : R.state.Sound used
  records : R.state.storage.EachRecord fun r => r.Proper ∧ LastWrote R.history r
  noSchemaError : ∀ ev ∈ R.history, ev.call.Validates → ∀ err, ev.answer = .error err →
    err.isSchema = false

variable {used : List Schema} {R : ServiceRun}

/-- A call that does not write a record leaves it with the values that it had. -/
theorem LastWrote.append {history : List ServiceEvent} {r : Record} (h : LastWrote history r)
    (ev : ServiceEvent) (hev : ∀ r', ev.written? = some r' → r'.id ≠ r.id) :
    LastWrote (history ++ [ev]) r := by
  obtain ⟨earlier, ev₀, later, rfl, hw, hv, ha, hlater⟩ := h
  refine ⟨earlier, ev₀, later ++ [ev], ?_, hw, hv, ha, ?_⟩
  · rw [List.append_assoc, List.cons_append]
  · intro ev' hev' r' hr'
    rcases List.mem_append.1 hev' with hmem | hmem
    · exact hlater ev' hmem r' hr'
    · obtain rfl := List.mem_singleton.1 hmem
      exact hev r' hr'

theorem kept_start (used : List Schema) {d : Deployment} {kind : StorageKind} {capacity : ℕ}
    (hstorage : d.storage = .new kind) (hcache : d.cache = .new capacity) :
    Kept used ⟨[], d⟩ where
  sound :=
    { cache := hcache ▸ SchemaCache.sound_new used capacity
      distinct := hstorage ▸ Storage.distinct_new kind
      configs := hstorage ▸ Storage.eachConfig_new kind _
      records := hstorage ▸ Storage.eachRecord_new kind _ }
  records := hstorage ▸ Storage.eachRecord_new kind _
  noSchemaError _ h := by cases h

/-- **A call keeps what holds after a run.** -/
theorem Kept.next (free : CollisionFree used) (hR : R.Kept used) (hread : R.state.ReadsUsed used)
    {x : ServiceCall × Moment} (hx : ∀ s ∈ x.1.schema?, s ∈ used) : (R.next x).Kept used := by
  rcases hrun : (x.1.call x.2).run R.state with ⟨answer, d'⟩
  have hnext : R.next x = ⟨R.history ++ [⟨x.1, x.2, R.state, answer⟩], d'⟩ := by
    rw [ServiceRun.next, hrun]
  rw [hnext]
  obtain ⟨heffect, hschema⟩ := x.1.effect free hR.sound hread hx hrun
  -- the answers: those of the run and the new one
  have hno : ∀ ev ∈ R.history ++ [⟨x.1, x.2, R.state, answer⟩], ev.call.Validates →
      ∀ err, ev.answer = .error err → err.isSchema = false := by
    intro ev hev
    rcases List.mem_append.1 hev with hmem | hmem
    · exact hR.noSchemaError ev hmem
    · obtain rfl := List.mem_singleton.1 hmem
      exact hschema
  -- the records: the one that is written has a new last call, the others keep theirs
  cases heffect with
  | reads hw hb =>
    refine ⟨hR.sound.keep hb, ?_, hno⟩
    have hrecords := hR.records.imp fun r hr =>
      And.intro hr.1 (hr.2.append ⟨x.1, x.2, R.state, answer⟩ (by rw [hw]; rintro _ ⟨⟩))
    exact hb.storage ▸ hrecords
  | config c hc hw hb =>
    refine ⟨hR.sound.storeConfig hc hb, ?_, hno⟩
    have hrecords := hR.records.imp fun r hr =>
      And.intro hr.1 (hr.2.append ⟨x.1, x.2, R.state, answer⟩ (by rw [hw]; rintro _ ⟨⟩))
    exact hb.storage ▸ hrecords.storeConfig c
  | record r hr hw hv ha hb =>
    refine ⟨hR.sound.storeRecord hr hb, ?_, hno⟩
    have hlast : LastWrote (R.history ++ [⟨x.1, x.2, R.state, answer⟩]) r :=
      ⟨R.history, _, [], rfl, hw, hv, ha, by rintro _ ⟨⟩⟩
    refine hb.storage ▸ hR.records.storeRecord hR.sound.distinct ⟨hr, hlast⟩ fun r' hr' hne => ?_
    refine ⟨hr'.1, hr'.2.append _ ?_⟩
    rw [hw]
    rintro _ ⟨⟩
    exact hne.symm

end ServiceRun

/-- The state after a run from empty stores, if the schemas of the run do not collide. -/
theorem Deployment.runCalls_kept {used : List Schema} (free : CollisionFree used)
    {d : Deployment} {kind : StorageKind} {capacity : ℕ} (hstorage : d.storage = .new kind)
    (hcache : d.cache = .new capacity) (calls : List (ServiceCall × Moment))
    (hused : ∀ ev ∈ (d.runCalls calls).history, ∀ s, ev.Uses s → s ∈ used) :
    (d.runCalls calls).Kept used := by
  -- on the calls from the last one back, so that the run before it is a run from empty stores
  induction calls using List.reverseRecOn with
  | nil => exact ServiceRun.kept_start used hstorage hcache
  | append_singleton calls x ih =>
    rw [runCalls_append_singleton] at hused ⊢
    have hlast := hused _ (List.mem_append_right _ (List.mem_singleton_self _))
    refine (ih fun ev hev => hused ev (List.mem_append_left _ hev)).next free ?_ ?_
    · exact fun t e c hc => hlast c.schema (Or.inr ⟨t, e, c, hc, rfl⟩)
    · exact fun s hs => hlast s (Or.inl hs)

/-- **What holds after every run from empty stores**, if the digest takes no two of its schemas for
each other. Each config has a schema and an entity type that satisfy their checks, and so has what
is read for it; each record has an entity type that satisfies its check, and the values of the call
that has written it last, which had no issue by the schema that its pair had at that moment, or had
none to satisfy. And no call that validates values fails because of a schema. -/
theorem runCalls_schemas_and_records {used : List Schema} (free : CollisionFree used)
    (engine : Engine) (kind : StorageKind) (capacity : ℕ) (withMetrics : Bool)
    (calls : List (ServiceCall × Moment)) {R : ServiceRun}
    (hR : R = (Deployment.new engine kind capacity withMetrics).runCalls calls)
    (hused : ∀ ev ∈ R.history, ∀ s, ev.Uses s → s ∈ used) :
    R.state.storage.EachConfig EntityConfig.Proper ∧
      (∀ t e c, R.state.storage.config? t e = .ok (some c) → c.Proper) ∧
      (R.state.storage.EachRecord fun r => r.Proper ∧ ServiceRun.LastWrote R.history r) ∧
      ∀ ev ∈ R.history, ev.call.Validates → ∀ err, ev.answer ≠ .error (.schema err) := by
  subst hR
  have hkept := Deployment.runCalls_kept free rfl rfl calls hused
  refine ⟨hkept.sound.configs, fun t e c hc => hkept.sound.proper_of_config? hc, hkept.records,
    fun ev hev hv err herr => ?_⟩
  cases hkept.noSchemaError ev hev hv _ herr

/-- Whether a call is given no schema but `s`, and finds no other one in memory. -/
def ServiceEvent.usesOnly (s : Schema) (ev : ServiceEvent) : Bool :=
  ev.call.schema?.all (·.canonicalText == s.canonicalText) &&
    match ev.before.storage with
    | .memory m => m.configs.all fun e => e.2.schema.canonicalText == s.canonicalText
    | .tree _ => false

theorem ServiceEvent.eq_of_usesOnly {ev : ServiceEvent} {s s' : Schema}
    (h : ev.usesOnly s = true) (hs : ev.Uses s') : s' = s := by
  obtain ⟨hgiven, hstored⟩ := Bool.and_eq_true_iff.1 h
  refine Schema.canonicalText_injective ?_
  obtain hs | ⟨t, e, c, hc, rfl⟩ := hs
  · rw [hs] at hgiven
    exact beq_iff_eq.1 hgiven
  · cases hstorage : ev.before.storage with
    | memory m =>
      rw [hstorage] at hstored hc
      simp only [List.all_eq_true, beq_iff_eq] at hstored
      have hget := Except.ok.inj ((Storage.config?_memory m t e).symm.trans hc)
      exact hstored (configKey t e, c) (Entries.mem_of_get?_eq_some hget)
    | tree _ =>
      rw [hstorage] at hstored
      cases hstored

/-- A moment of a leap day. -/
def leapDay (id : ℕ) : Moment :=
  { freshId := .ofNat id, now := ⟨1709164800, 0⟩, today := ⟨2024, 2, 29⟩ }

/-- A config is created, and a record by its schema, which is updated; and other values are tried
out. -/
def recordSession : List (ServiceCall × Moment) :=
  [(.createConfig (.ofNat 1) "site" none SchemaCache.codeSchema, leapDay 2),
    (.createRecord (.ofNat 1) "site" [("code", .string "A1")], leapDay 3),
    (.updateRecord (.ofNat 3) (some [("code", .string "B2")]), leapDay 4),
    (.dryRun (.ofNat 1) "site" [("code", .null)], leapDay 5)]

/-- The calls, one after the other. -/
def recordRun : ServiceRun :=
  (Deployment.new (.new .empty) .memory 1 false).runCalls recordSession

/-- The config that is stored has the schema that it was created with, and the record has the values
of its update. -/
theorem runCalls_schemas_and_records_recordSession :
    CollisionFree [SchemaCache.codeSchema] ∧
      (∀ ev ∈ recordRun.history, ∀ s, ev.Uses s → s ∈ [SchemaCache.codeSchema]) ∧
      recordRun.state.storage.EachConfig EntityConfig.Proper ∧
      (recordRun.state.storage.EachRecord fun r =>
        r.Proper ∧ ServiceRun.LastWrote recordRun.history r) ∧
      (∃ c, recordRun.state.storage.config? (.ofNat 1) "site" = .ok (some c) ∧
        c.schema = SchemaCache.codeSchema ∧ c.Proper) ∧
      (∃ r, recordRun.state.storage.record? (.ofNat 3) = .ok (some r) ∧
        r.customData = [("code", .string "B2")] ∧
        ServiceRun.LastWrote recordRun.history r) ∧
      ∀ ev ∈ recordRun.history, ev.call.Validates → ∀ err, ev.answer ≠ .error (.schema err) := by
  have free : CollisionFree [SchemaCache.codeSchema] := by simp [CollisionFree]
  have hused : ∀ ev ∈ recordRun.history, ∀ s, ev.Uses s → s ∈ [SchemaCache.codeSchema] := by
    have honly : recordRun.history.all (·.usesOnly SchemaCache.codeSchema) = true := by
      decide +kernel
    exact fun ev hev s hs =>
      List.mem_singleton.2 (ServiceEvent.eq_of_usesOnly (List.all_eq_true.1 honly ev hev) hs)
  obtain ⟨hconfigs, hproper, hrecords, hanswers⟩ :=
    runCalls_schemas_and_records (R := recordRun) free (.new .empty) .memory 1 false recordSession
      rfl hused
  have hcomputed : (recordRun.state.storage.config? (.ofNat 1) "site").toOption.map
        (Option.map (·.schema.canonicalText)) ==
          some (some SchemaCache.codeSchema.canonicalText) ∧
      (recordRun.state.storage.record? (.ofNat 3)).toOption.map
        (Option.map fun r => (Json.Value.object r.customData).compact) ==
          some (some (Json.Value.object [("code", .string "B2")]).compact) ∧
      recordRun.state.storage.kind = .memory := by
    decide +kernel
  obtain ⟨hconfig, hrecord, hkind⟩ := hcomputed
  obtain ⟨c?, hc, hschema⟩ := Storage.exists_ok_of_map (beq_iff_eq.1 hconfig)
  obtain ⟨c, rfl, htext⟩ := Option.map_eq_some_iff.1 hschema
  obtain ⟨r?, hr, hvalues⟩ := Storage.exists_ok_of_map (beq_iff_eq.1 hrecord)
  obtain ⟨r, rfl, hdata⟩ := Option.map_eq_some_iff.1 hvalues
  -- in memory, what is read is what is stored
  obtain ⟨r', ⟨-, hlast⟩, hreads⟩ := hrecords.exists_reads hr
  rw [hkind] at hreads
  obtain rfl := hreads
  exact ⟨free, hused, hconfigs, hrecords,
    ⟨c, hc, Schema.canonicalText_injective htext, hproper _ _ c hc⟩,
    ⟨_, hr, Json.Value.object.inj (Json.Value.compact_injective hdata), hlast⟩, hanswers⟩

end CustomFields
