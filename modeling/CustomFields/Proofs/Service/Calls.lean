import CustomFields.Proofs.Service.Trials
import CustomFields.Proofs.Store.Document
import CustomFields.Proofs.Validation.Compiled
import CustomFields.Service.Configs

/-!
# What a call does

A call reads, compiles and validates, and stores at most one thing, at its end. For each call there
is one lemma that says all that it can come to: the answer, what is stored, and what has been found
before it is stored.

## Main definitions

* `Deployment.Sound`: what holds of the shared state between calls
* `Deployment.Admits`: values may be stored for a pair

## Main results

* `Configs.create_cases`, `Configs.update_cases`: what becomes of a config
* `Records.create_cases`, `Records.update_cases`, `Records.dryRun_cases`: what becomes of values
-/

namespace CustomFields

/-! ## The state between calls -/

/-- A config that a service stores: its schema satisfies its check, and its entity type as well. -/
structure EntityConfig.Proper (c : EntityConfig) : Prop where
  schema : c.schema.check = .ok ()
  entityType : checkEntityType c.entityType = .ok ()

/-- A record that a service stores has an entity type that satisfies its check. -/
def Record.Proper (r : Record) : Prop :=
  checkEntityType r.entityType = .ok ()

namespace Deployment

/-- Every schema that can be read is one of those used. -/
def ReadsUsed (used : List Schema) (d : Deployment) : Prop :=
  ∀ t e c, d.storage.config? t e = .ok (some c) → c.schema ∈ used

/-- What holds of the shared state between calls. -/
structure Sound (used : List Schema) (d : Deployment) : Prop where
  cache : d.cache.Sound used
  distinct : d.storage.Distinct
  configs : d.storage.EachConfig EntityConfig.Proper
  records : d.storage.EachRecord Record.Proper

/-- Values may be stored for a pair: it has no config, or the schema of its config compiles and
finds no issue in them. -/
def Admits (d : Deployment) (t : Uuid) (e : String) (values : Json.Object)
    (today : Calendar.Date) : Prop :=
  d.storage.config? t e = .ok none ∨
    ∃ c k, d.storage.config? t e = .ok (some c) ∧ CompiledSchema.compile c.schema = .ok k ∧
      (d.engine.collectIssues k values today).issues = []

variable {used : List Schema} {d d' : Deployment}

/-- A config that is read is as proper as the one that was stored. -/
theorem Sound.proper_of_config? (h : d.Sound used) {t : Uuid} {e : String} {c : EntityConfig}
    (hc : d.storage.config? t e = .ok (some c)) : c.Proper := by
  obtain ⟨c₀, hc₀, hread⟩ := h.configs.exists_reads hc
  exact ⟨hread.check_schema hc₀.schema, hread.entityType_eq ▸ hc₀.entityType⟩

theorem Sound.proper_of_record? (h : d.Sound used) {id : Uuid} {r : Record}
    (hr : d.storage.record? id = .ok (some r)) : r.Proper := by
  obtain ⟨r₀, hr₀, hread⟩ := h.records.exists_reads hr
  show checkEntityType r.entityType = .ok ()
  rw [hread.entityType_eq]
  exact hr₀

/-- What stores nothing keeps what holds between calls. -/
theorem Sound.keep (h : d.Sound used) (hb : d.Becomes used d.storage d') : d'.Sound used where
  cache := hb.cache h.cache
  distinct := hb.storage ▸ h.distinct
  configs := hb.storage ▸ h.configs
  records := hb.storage ▸ h.records

theorem Sound.storeConfig (h : d.Sound used) {c : EntityConfig} (hc : c.Proper)
    (hb : d.Becomes used (d.storage.storeConfig c) d') : d'.Sound used where
  cache := hb.cache h.cache
  distinct := hb.storage ▸ h.distinct.storeConfig c
  configs := hb.storage ▸ h.configs.storeConfig hc
  records := hb.storage ▸ h.records.storeConfig c

theorem Sound.storeRecord (h : d.Sound used) {r : Record} (hr : r.Proper)
    (hb : d.Becomes used (d.storage.storeRecord r) d') : d'.Sound used where
  cache := hb.cache h.cache
  distinct := hb.storage ▸ h.distinct.storeRecord r
  configs := hb.storage ▸ h.configs.storeRecord r
  records := hb.storage ▸ h.records.storeRecord h.distinct hr fun _ hr' _ => hr'

theorem ReadsUsed.keep (h : d.ReadsUsed used) (hb : d.Becomes used d.storage d') :
    d'.ReadsUsed used := by
  unfold ReadsUsed
  rwa [hb.storage]

theorem Becomes.admits_iff (hb : d.Becomes used d.storage d') {t : Uuid} {e : String}
    {values : Json.Object} {today : Calendar.Date} :
    d'.Admits t e values today ↔ d.Admits t e values today := by
  unfold Admits
  rw [hb.storage, hb.engine]

end Deployment

/-- Whether a schema is at fault. -/
def ServiceError.isSchema : ServiceError → Bool
  | .schema _ => true
  | _ => false

/-- An entity type that does not satisfy its check is the only thing at fault. -/
theorem exists_invalidInput_of_checkEntityType {entityType : String} {err : ServiceError}
    (h : checkEntityType entityType = .error err) : ∃ message, err = .invalidInput message := by
  unfold checkEntityType at h
  split at h
  · exact ⟨_, (Except.error.inj h).symm⟩
  · split at h
    · exact ⟨_, (Except.error.inj h).symm⟩
    · cases h

theorem isSchema_of_checkEntityType {entityType : String} {err : ServiceError}
    (h : checkEntityType entityType = .error err) : err.isSchema = false := by
  obtain ⟨message, rfl⟩ := exists_invalidInput_of_checkEntityType h
  rfl

/-! ## Validation -/

section Validation

variable {used : List Schema} {d d' : Deployment}

/-- A validation by schemas that satisfy their checks finds issues, or lets the values through as
they are. -/
theorem Call.validate_cases (free : CollisionFree used) (hd : d.cache.Sound used)
    {schema : Option Schema} (hs : ∀ s ∈ schema, s ∈ used ∧ s.check = .ok ())
    {values : Json.Object} {today : Calendar.Date}
    {answer : Except ServiceError (Except EngineError Json.Object)}
    (h : (access (.validate schema values today)).run d = (answer, d')) :
    d.Becomes used d.storage d' ∧
      ((∃ l, answer = .ok (.error (.validation l))) ∨
        answer = .ok (.ok values) ∧ ∀ s ∈ schema, ∃ k, CompiledSchema.compile s = .ok k ∧
          (d.engine.collectIssues k values today).issues = []) := by
  obtain ⟨result, hanswers, hresult⟩ :=
    answers_useSchema free hd (fun s hsome => (hs s hsome).1) values today
  obtain ⟨report, hreport, -, hnone⟩ :=
    d.engine.exists_trial values today fun s hsome => (hs s hsome).2
  rw [Answers, h] at hanswers
  obtain ⟨rfl, hb⟩ := hanswers
  rw [hreport] at hresult
  refine ⟨hb, ?_⟩
  obtain ⟨l, rfl⟩ | ⟨rfl, hissues⟩ := ValidationReport.verdict_cases hresult
  · exact Or.inl ⟨l, rfl⟩
  · exact Or.inr ⟨rfl, hnone hissues⟩

/-- A trial by a schema that satisfies its check has a report. -/
theorem Call.tryOut_cases (free : CollisionFree used) (hd : d.cache.Sound used) {s : Schema}
    (hs : s ∈ used) (hcheck : s.check = .ok ()) {values : Json.Object} {today : Calendar.Date}
    {answer : Except ServiceError (Except SchemaError ValidationReport)}
    (h : (access (.dryRun s values today)).run d = (answer, d')) :
    d.Becomes used d.storage d' ∧ ∃ report, answer = .ok (.ok report) := by
  have hanswers := answers_tryOut free hd hs values today
  have hcheck : ∀ s' ∈ some s, s'.check = .ok () := by
    rintro _ ⟨⟩
    exact hcheck
  obtain ⟨report, hreport, -⟩ := d.engine.exists_trial values today hcheck
  rw [Answers, h, hreport] at hanswers
  obtain ⟨rfl, hb⟩ := hanswers
  exact ⟨hb, report, rfl⟩

end Validation

/-! ## Configs -/

namespace Configs

open Call

variable {used : List Schema} {d d' : Deployment} {t : Uuid} {e : String} {name : Option String}
  {s : Schema} {m : Moment}

/-- A config is created with the schema that was given, which has satisfied its check, as its entity
type has; or nothing is stored. -/
theorem create_cases (free : CollisionFree used) (hs : s ∈ used) (hd : d.cache.Sound used)
    {answer : Except ServiceError EntityConfig} (h : (create t e name s m).run d = (answer, d')) :
    (∃ err, answer = .error err ∧ d.Becomes used d.storage d') ∨
      ∃ c, c = EntityConfig.new m.freshId t e name s m.now ∧ c.Proper ∧ answer = .ok c ∧
        d.Becomes used (d.storage.storeConfig c) d' := by
  obtain ⟨err, h₁, rfl⟩ | ⟨⟨⟩, d₁, h₁, hrest⟩ := bind_cases h
  · obtain ⟨-, rfl⟩ := lift_cases h₁
    exact Or.inl ⟨err, rfl, Deployment.becomes_self used _⟩
  -- the entity type has satisfied its check, and then the schema is compiled
  obtain ⟨hcheck, rfl⟩ := lift_cases h₁
  obtain ⟨err, h₂, rfl⟩ | ⟨k, d₂, h₂, hstore⟩ := bind_cases hrest
  · exact Or.inl ⟨err, rfl, (compile_cases free hs hd h₂).1⟩
  obtain ⟨hb, hk⟩ := compile_cases free hs hd h₂
  have hproper : (EntityConfig.new m.freshId t e name s m.now).Proper :=
    ⟨CompiledSchema.exists_compile_iff.1 ⟨k.schema, hk k rfl⟩, hcheck.symm⟩
  obtain ⟨hanswer, hb'⟩ | ⟨hanswer, hb'⟩ :=
    write_observe_cases used (d₂.storage.serve_createConfig _) hstore
  · exact Or.inl ⟨_, hanswer, hb.keep hb'⟩
  · exact Or.inr ⟨_, rfl, hproper, hanswer, hb.trans (hb.storage ▸ hb')⟩

/-- The schema of a config is replaced by the one that was given, which has satisfied its check; or
nothing is stored. -/
theorem update_cases (free : CollisionFree used) (hs : s ∈ used) (hd : d.cache.Sound used)
    {answer : Except ServiceError EntityConfig} (h : (update t e name s m).run d = (answer, d')) :
    (∃ err, answer = .error err ∧ d.Becomes used d.storage d') ∨
      ∃ old c, d.storage.config? t e = .ok (some old) ∧
        c = { old.replaceSchema s m.now with name := name.or old.name } ∧ s.check = .ok () ∧
        answer = .ok c ∧ d.Becomes used (d.storage.storeConfig c) d' := by
  obtain ⟨err, h₁, rfl⟩ | ⟨k, d₁, h₁, hget⟩ := bind_cases h
  · exact Or.inl ⟨err, rfl, (compile_cases free hs hd h₁).1⟩
  -- a schema that compiles satisfies its check
  obtain ⟨hb, hk⟩ := compile_cases free hs hd h₁
  have hcheck : s.check = .ok () := CompiledSchema.exists_compile_iff.1 ⟨k.schema, hk k rfl⟩
  obtain ⟨err, h₂, rfl⟩ | ⟨old?, d₂, h₂, hstore⟩ := bind_cases hget
  · exact Or.inl ⟨err, rfl, hb.keep (read_cases used (d₁.storage.serve_getConfig t e) h₂).1⟩
  obtain ⟨hb', ⟨err, ⟨⟩⟩ | ⟨old?, hold, ⟨⟩⟩⟩ :=
    read_cases used (d₁.storage.serve_getConfig t e) h₂
  have hb₂ := hb.keep hb'
  cases old? with
  | none =>
    obtain ⟨rfl, rfl⟩ := throw_cases hstore
    exact Or.inl ⟨_, rfl, hb₂⟩
  | some old =>
    obtain ⟨hanswer, hb₃⟩ | ⟨hanswer, hb₃⟩ :=
      write_observe_cases used (d₂.storage.serve_updateConfig _) hstore
    · exact Or.inl ⟨_, hanswer, hb₂.keep hb₃⟩
    · refine Or.inr ⟨old, _, hb.storage ▸ hold, rfl, hcheck, hanswer, ?_⟩
      exact hb₂.trans (hb₂.storage ▸ hb₃)

theorem get_cases {answer : Except ServiceError (Option EntityConfig)}
    (h : (get t e).run d = (answer, d')) : d.Becomes used d.storage d' :=
  (read_cases used (d.storage.serve_getConfig t e) h).1

theorem list_cases {answer : Except ServiceError (List EntityConfig)}
    (h : (list t).run d = (answer, d')) : d.Becomes used d.storage d' :=
  (read_cases used (r := (d.storage.serve (.listConfigs t)).1)
    (Prod.ext rfl (d.storage.serve_listConfigs t)) h).1

end Configs

/-! ## Records -/

namespace Records

open Call

variable {used : List Schema} {d d' : Deployment} {t : Uuid} {e : String} {id : Uuid} {m : Moment}

/-- The schema of a pair that has been read is one of those used, and satisfies its check. -/
theorem schema_of_config? (hd : d.Sound used) (hread : d.ReadsUsed used) {c? : Option EntityConfig}
    (hc : d.storage.config? t e = .ok c?) :
    ∀ s ∈ c?.map (·.schema), s ∈ used ∧ s.check = .ok () := by
  intro s hs
  obtain ⟨c, rfl, rfl⟩ := Option.map_eq_some_iff.1 hs
  exact ⟨hread t e c hc, (hd.proper_of_config? hc).schema⟩

theorem mem_of_schema? (hread : d.ReadsUsed used) {s : Schema}
    (hs : d.schema? t e = .ok (some s)) : s ∈ used := by
  unfold Deployment.schema? at hs
  cases hc : d.storage.config? t e with
  | error err =>
    rw [hc] at hs
    cases hs
  | ok c? =>
    rw [hc] at hs
    obtain ⟨c, rfl, rfl⟩ := Option.map_eq_some_iff.1 (Except.ok.inj hs)
    exact hread t e c hc

/-- There is a report on values wherever the config of the pair can be read, and values without an
issue may be stored. -/
theorem trial_cases (hd : d.Sound used) (hread : d.ReadsUsed used) (t : Uuid) (e : String)
    (values : Json.Object) (today : Calendar.Date) :
    (∃ err, d.storage.config? t e = .error err ∧
        d.trial t e values today = .error (.store err)) ∨
      ∃ c? report, d.storage.config? t e = .ok c? ∧
        d.engine.trial (c?.map (·.schema)) values today = .ok report ∧
        d.trial t e values today = .ok report ∧ report.valid = report.issues.isEmpty ∧
        (report.issues = [] → d.Admits t e values today) := by
  unfold Deployment.trial Deployment.schema?
  cases hc : d.storage.config? t e with
  | error err => exact Or.inl ⟨err, rfl, rfl⟩
  | ok c? =>
    have hschema := schema_of_config? hd hread hc
    obtain ⟨report, hreport, hvalid, hnone⟩ :=
      d.engine.exists_trial values today fun s hs => (hschema s hs).2
    have htrial := congrArg (Except.mapError ServiceError.schema) hreport
    refine Or.inr ⟨c?, report, rfl, hreport, htrial, hvalid, fun hissues => ?_⟩
    cases c? with
    | none => exact Or.inl hc
    | some c =>
      obtain ⟨k, hk, hfound⟩ := hnone hissues c.schema rfl
      exact Or.inr ⟨c, k, hc, hk, hfound⟩

/-- Values are let through as they are, and only where they may be stored. Whatever the validation
comes to, nothing is stored, and no schema is at fault. -/
theorem validate_cases (free : CollisionFree used) (hd : d.Sound used) (hread : d.ReadsUsed used)
    {values : Json.Object} {answer : Except ServiceError Json.Object}
    (h : (validate t e values m).run d = (answer, d')) :
    d.Becomes used d.storage d' ∧
      ((∃ err, answer = .error err ∧ err.isSchema = false) ∨
        answer = .ok values ∧ d.Admits t e values m.today) := by
  have hanswers :=
    answers_validate t e m values free hd.cache fun _ hs => mem_of_schema? hread hs
  rw [Answers, h] at hanswers
  obtain ⟨rfl, hb⟩ := hanswers
  refine ⟨hb, ?_⟩
  obtain ⟨err, -, htrial⟩ | ⟨c?, report, -, -, htrial, -, hadmits⟩ :=
    trial_cases hd hread t e values m.today
  · exact Or.inl ⟨.store err, by rw [htrial]; rfl, rfl⟩
  · rw [htrial]
    by_cases hissues : report.issues = []
    · exact Or.inr ⟨if_pos hissues, hadmits hissues⟩
    · exact Or.inl ⟨_, if_neg hissues, rfl⟩

/-- A record is created with the values that were given, which may be stored for its pair; or
nothing is stored. -/
theorem create_cases (free : CollisionFree used) (hd : d.Sound used) (hread : d.ReadsUsed used)
    {values : Json.Object} {answer : Except ServiceError Record}
    (h : (create t e values m).run d = (answer, d')) :
    (∃ err, answer = .error err ∧ err.isSchema = false ∧ d.Becomes used d.storage d') ∨
      ∃ r, r = Record.new m.freshId t e values m.now ∧ r.Proper ∧ answer = .ok r ∧
        d.Admits t e values m.today ∧ d.Becomes used (d.storage.storeRecord r) d' := by
  obtain ⟨err, h₁, rfl⟩ | ⟨⟨⟩, d₁, h₁, hrest⟩ := bind_cases h
  · obtain ⟨herr, rfl⟩ := lift_cases h₁
    exact Or.inl ⟨err, rfl, isSchema_of_checkEntityType herr.symm, Deployment.becomes_self used _⟩
  obtain ⟨hcheck, rfl⟩ := lift_cases h₁
  obtain ⟨err, h₂, rfl⟩ | ⟨validated, d₂, h₂, hstore⟩ := bind_cases hrest
  · obtain ⟨hb, ⟨err, ⟨⟩, herr⟩ | ⟨⟨⟩, -⟩⟩ := validate_cases free hd hread h₂
    exact Or.inl ⟨err, rfl, herr, hb⟩
  obtain ⟨hb, ⟨err, ⟨⟩, -⟩ | ⟨⟨⟩, hadmits⟩⟩ := validate_cases free hd hread h₂
  obtain ⟨hanswer, hb'⟩ | ⟨hanswer, hb'⟩ :=
    write_cases used (d₂.storage.serve_insertRecord _) hstore
  · exact Or.inl ⟨_, hanswer, rfl, hb.keep hb'⟩
  · exact Or.inr ⟨_, rfl, hcheck.symm, hanswer, hadmits, hb.trans (hb.storage ▸ hb')⟩

/-- The values of a record are replaced by those that were given, which may be stored for its pair;
or nothing is stored, and then new values were not given or the call fails. -/
theorem update_cases (free : CollisionFree used) (hd : d.Sound used) (hread : d.ReadsUsed used)
    {values? : Option Json.Object} {answer : Except ServiceError Record}
    (h : (update id values? m).run d = (answer, d')) :
    (d.Becomes used d.storage d' ∧
        ((∃ err, answer = .error err ∧ err.isSchema = false) ∨
          values? = none ∧ ∃ r, answer = .ok r)) ∨
      ∃ old values r, d.storage.record? id = .ok (some old) ∧ values? = some values ∧
        r = old.replaceData values m.now ∧ answer = .ok r ∧
        d.Admits old.tenantId old.entityType values m.today ∧
        d.Becomes used (d.storage.storeRecord r) d' := by
  obtain ⟨err, h₁, rfl⟩ | ⟨old?, d₁, h₁, hrest⟩ := bind_cases h
  · obtain ⟨hb, ⟨err', ⟨⟩⟩ | ⟨old?, -, ⟨⟩⟩⟩ :=
      read_cases used (d.storage.serve_getRecord id) h₁
    exact Or.inl ⟨hb, Or.inl ⟨_, rfl, rfl⟩⟩
  obtain ⟨hb, ⟨err, ⟨⟩⟩ | ⟨old?, hold, ⟨⟩⟩⟩ :=
    read_cases used (d.storage.serve_getRecord id) h₁
  cases old? with
  | none =>
    obtain ⟨rfl, rfl⟩ := throw_cases hrest
    exact Or.inl ⟨hb, Or.inl ⟨_, rfl, rfl⟩⟩
  | some old =>
    cases values? with
    -- without new values the record is answered as it is
    | none =>
      obtain ⟨rfl, rfl⟩ := pure_cases hrest
      exact Or.inl ⟨hb, Or.inr ⟨rfl, old, rfl⟩⟩
    -- new ones are validated for the pair of the record that was read
    | some values =>
      have hd₁ := hd.keep hb
      have hread₁ := hread.keep hb
      obtain ⟨err, h₂, rfl⟩ | ⟨validated, d₂, h₂, hstore⟩ := bind_cases hrest
      · obtain ⟨hb', ⟨err, ⟨⟩, herr⟩ | ⟨⟨⟩, -⟩⟩ := validate_cases free hd₁ hread₁ h₂
        exact Or.inl ⟨hb.keep hb', Or.inl ⟨err, rfl, herr⟩⟩
      obtain ⟨hb', ⟨err, ⟨⟩, -⟩ | ⟨⟨⟩, hadmits⟩⟩ := validate_cases free hd₁ hread₁ h₂
      have hb₂ := hb.keep hb'
      obtain ⟨hanswer, hb₃⟩ | ⟨hanswer, hb₃⟩ :=
        write_cases used (d₂.storage.serve_updateRecord _) hstore
      · exact Or.inl ⟨hb₂.keep hb₃, Or.inl ⟨_, hanswer, rfl⟩⟩
      · exact Or.inr ⟨old, values, _, hold, rfl, rfl, hanswer, hb.admits_iff.1 hadmits,
          hb₂.trans (hb₂.storage ▸ hb₃)⟩

theorem get_cases {answer : Except ServiceError (Option Record)}
    (h : (get id).run d = (answer, d')) : d.Becomes used d.storage d' :=
  (read_cases used (d.storage.serve_getRecord id) h).1

theorem list_cases {f : RecordFilter} {answer : Except ServiceError (List Record)}
    (h : (list f).run d = (answer, d')) : d.Becomes used d.storage d' :=
  (read_cases used (r := (d.storage.serve (.listRecords f)).1)
    (Prod.ext rfl (d.storage.serve_listRecords f)) h).1

/-- A trial stores nothing, and no schema is at fault. -/
theorem dryRun_cases (free : CollisionFree used) (hd : d.Sound used) (hread : d.ReadsUsed used)
    {values : Json.Object} {answer : Except ServiceError ValidationReport}
    (h : (dryRun t e values m).run d = (answer, d')) :
    d.Becomes used d.storage d' ∧ ∀ err, answer = .error err → err.isSchema = false := by
  have hanswers :=
    answers_dryRun t e m values free hd.cache fun _ hs => mem_of_schema? hread hs
  rw [Answers, h] at hanswers
  obtain ⟨rfl, hb⟩ := hanswers
  refine ⟨hb, ?_⟩
  obtain ⟨err, -, htrial⟩ | ⟨c?, report, -, -, htrial, -⟩ :=
    trial_cases hd hread t e values m.today
  · rw [htrial]
    rintro _ ⟨⟩
    rfl
  · rw [htrial]
    rintro _ ⟨⟩

end Records

end CustomFields
