import Mathlib.Algebra.BigOperators.Group.List.Basic
import CustomFields.Proofs.Service.Counting
import CustomFields.Proofs.Service.Tenants
import CustomFields.Proofs.Service.Writes

/-!
# Metrics account for calls

Over a run with metrics, each counter is the number of the calls that it is named for, as they show
in the answers and in what is stored. A config that is created stays, so the counter of creations is
the number of configs; and a validation is timed whenever it is counted, because no schema that is
found in the store fails to compile.

## Main definitions

* `ServiceEvent.judges`: what has become of the values of a call
* `ServiceEvent.Quiet`: a call that only reads, or has failed before it has validated anything
* `ServiceEvent.observations`: what a call has counted, as its answer tells
* `ServiceRun.Accounted`: the configs and the metrics of a run are those of its calls

## Main results

* `ServiceCall.counts`: what a call counts is told by its answer
* `ServiceRun.Accounted.next`: a call is accounted for
* `runCalls_metrics`: the metrics of a run account for all its calls
-/

namespace CustomFields

/-! ## The number of configs -/

namespace Storage

/-- How many configs lie in a storage. -/
def configCount : Storage → ℕ
  | .memory m => m.configs.length
  | .tree s => s.configs.length

variable {S S' : Storage} {c c' : EntityConfig}

theorem configCount_new (k : StorageKind) : (new k).configCount = 0 := by
  cases k <;> rfl

theorem configCount_storeRecord (S : Storage) (r : Record) :
    (S.storeRecord r).configCount = S.configCount := by
  cases S <;> rfl

/-- A config that is stored is one more only where its pair has none. -/
theorem configCount_storeConfig (hS : S.Distinct) (c : EntityConfig) :
    (S.storeConfig c).configCount =
      S.configCount + if S.containsConfig c.tenantId c.entityType then 0 else 1 := by
  cases S with
  | memory m => exact Entries.length_assign _ c m.configs
  | tree s => exact Entries.length_put c.toJson.compact hS.1

/-- A config is created only where its pair has none. -/
theorem containsConfig_of_serve_createConfig (h : S.serve (.createConfig c) = (.ok c', S')) :
    S.containsConfig c.tenantId c.entityType = false := by
  refine Bool.eq_false_iff.2 fun hcontains => ?_
  rw [serve_createConfig_eq, if_pos hcontains] at h
  cases congrArg Prod.fst h

/-- A config is replaced only where its pair has one. -/
theorem containsConfig_of_serve_updateConfig (h : S.serve (.updateConfig c) = (.ok c', S')) :
    S.containsConfig c.tenantId c.entityType = true := by
  by_contra hcontains
  rw [serve_updateConfig_eq, if_neg hcontains] at h
  cases congrArg Prod.fst h

end Storage

/-! ## All calls -/

namespace ServiceCall

/-- The entity type that the values of a call are of, if it is given values to store: the type that
it is given as well, or that of the record that gets the values. -/
def validatedType? (S : Storage) : ServiceCall → Option String
  | .createRecord _ e _ => some e
  | .updateRecord id (some _) => (S.record? id).toOption.join.map (·.entityType)
  | _ => none

/-- A call that is given values to store comes to validate them: its entity type satisfies its
check, or its record can be read, and so can the config to validate them by. -/
def ReachesValidation (S : Storage) : ServiceCall → Prop
  | .createRecord t e _ => checkEntityType e = .ok () ∧ ∃ c?, S.config? t e = .ok c?
  | .updateRecord id (some _) =>
    ∃ r c?, S.record? id = .ok (some r) ∧ S.config? r.tenantId r.entityType = .ok c?
  | _ => False

theorem validatedType?_eq_none {S : Storage} {id : Uuid} {values? : Option Json.Object}
    (h : values? = none ∨ ∀ r, S.record? id ≠ .ok (some r)) :
    validatedType? S (.updateRecord id values?) = none := by
  cases values? with
  | none => rfl
  | some values =>
    rcases hr : S.record? id with err | _ | r
    · simp only [validatedType?, hr, Except.toOption, Option.join_none, Option.map_none]
    · simp only [validatedType?, hr, Except.toOption, Option.join_some, Option.map_none]
    · exact absurd hr (h.resolve_left (Option.some_ne_none values) r)

theorem validates_of_validatedType? {S : Storage} {x : ServiceCall} {e : String}
    (h : x.validatedType? S = some e) : x.Validates := by
  cases x <;> trivial

end ServiceCall

namespace ServiceEvent

/-- How a call has written a config. -/
def configWrite? : ServiceEvent → Option String
  | ⟨.createConfig _ _ _ _, _, _, .ok _⟩ => some "create"
  | ⟨.updateConfig _ _ _ _, _, _, .ok _⟩ => some "update"
  | _ => none

/-- The entity type of the values that a call has been given to store. -/
def validatedType? (ev : ServiceEvent) : Option String :=
  ev.call.validatedType? ev.before.storage

/-- A call that only reads, or that has failed before it has come to validate values. -/
def Quiet (ev : ServiceEvent) : Prop :=
  ev.call.reads = true ∨
    (∃ err, ev.answer = .error err) ∧ ¬ ev.call.ReachesValidation ev.before.storage

/-- What a call counts: that it has written a config, or what has become of values. -/
def observations (ev : ServiceEvent) : List Observation :=
  ev.configWrite?.toList.map .configWrite ++
    ev.validatedType?.elim [] fun e => observed e ev.moment.elapsed ev.answer

/-- What a call has counted of what it has done. -/
structure Accounts (ev : ServiceEvent) (seen : List Observation) : Prop where
  observations : ev.call.Fresh ev.moment ev.before.storage → seen = ev.observations
  issues : ev.validatedType? = none → refusedIssues ev.answer = []
  quiet : ev.Quiet → seen = []

/-- A call that is given nothing to store counts nothing. -/
theorem accounts_nil {ev : ServiceEvent} (hwrite : ev.configWrite? = none)
    (htype : ev.validatedType? = none) (hissues : refusedIssues ev.answer = []) :
    ev.Accounts [] where
  observations _ := by rw [observations, hwrite, htype]; rfl
  issues _ := hissues
  quiet _ := rfl

end ServiceEvent

/-- A call that is given nothing to store and counts nothing. -/
theorem ServiceCall.counts_silent {d : Deployment} {x : ServiceCall} {m : Moment}
    (hwrite : ∀ r, ServiceEvent.configWrite? ⟨x, m, d, r⟩ = none)
    (htype : x.validatedType? d.storage = none)
    (h : (x.call m).Counts d.storage fun r seen => seen = [] ∧ refusedIssues r = []) :
    (x.call m).Counts d.storage fun r seen => ServiceEvent.Accounts ⟨x, m, d, r⟩ seen := by
  refine h.imp ?_
  rintro r seen ⟨rfl, hissues⟩
  exact ServiceEvent.accounts_nil (hwrite r) htype hissues

/-- **What a call counts is told by its answer**, if it has a fresh id for a new record. -/
theorem ServiceCall.counts {d : Deployment} (hd : d.storage.Orderly) (x : ServiceCall)
    (m : Moment) :
    (x.call m).Counts d.storage fun r seen => ServiceEvent.Accounts ⟨x, m, d, r⟩ seen := by
  -- one case for each kind of call
  cases x with
  | createConfig t e name s =>
    refine (Configs.counts_create d.storage t e m name s).imp ?_
    rintro r seen ⟨rfl, hissues⟩
    cases r with
    | error err => exact ServiceEvent.accounts_nil rfl rfl hissues
    | ok c => exact ⟨fun _ => rfl, fun _ => rfl, by rintro (⟨⟨⟩⟩ | ⟨⟨_, ⟨⟩⟩, -⟩)⟩
  | getConfig t e => exact counts_silent (fun _ => rfl) rfl (Call.counts_store_quiet _)
  | updateConfig t e name s =>
    refine (Configs.counts_update d.storage t e m name s).imp ?_
    rintro r seen ⟨rfl, hissues⟩
    cases r with
    | error err => exact ServiceEvent.accounts_nil rfl rfl hissues
    | ok c => exact ⟨fun _ => rfl, fun _ => rfl, by rintro (⟨⟨⟩⟩ | ⟨⟨_, ⟨⟩⟩, -⟩)⟩
  | listConfigs t => exact counts_silent (fun _ => rfl) rfl (Call.counts_store_quiet _)
  | createRecord t e values =>
    refine (Records.counts_create d.storage t e m values).imp ?_
    rintro r seen ⟨hseen, hreach⟩
    refine ⟨hseen, by rintro ⟨⟩, ?_⟩
    -- what has been counted has been validated
    rintro (⟨⟨⟩⟩ | ⟨-, hnot⟩)
    by_contra hne
    exact hnot (hreach hne)
  | getRecord id => exact counts_silent (fun _ => rfl) rfl (Call.counts_store_quiet _)
  | updateRecord id values? =>
    refine (Records.counts_update d.storage id m hd values?).imp ?_
    rintro r seen (⟨hnone, rfl, hissues⟩ | ⟨values, old, rfl, hold, rfl, hreach⟩)
    · exact ServiceEvent.accounts_nil rfl (validatedType?_eq_none hnone) hissues
    · have htype : validatedType? d.storage (.updateRecord id (some values)) =
          some old.entityType := by
        simp only [validatedType?, hold, Except.toOption, Option.join_some, Option.map_some]
      refine ⟨fun _ => ?_, fun hnone => ?_, ?_⟩
      · rw [ServiceEvent.observations, ServiceEvent.validatedType?, htype]
        rfl
      · cases htype.symm.trans hnone
      · rintro (⟨⟨⟩⟩ | ⟨-, hnot⟩)
        by_contra hne
        obtain ⟨c?, hc⟩ := hreach hne
        exact hnot ⟨old, c?, hold, hc⟩
  | listRecords f => exact counts_silent (fun _ => rfl) rfl (Call.counts_store_quiet _)
  | dryRun t e values =>
    exact counts_silent (fun _ => rfl) rfl (Records.counts_dryRun d.storage t e m values)

/-- A call that has created a config leaves one more, and all other calls as many as they find. -/
theorem ServiceCall.configCount_of_run {x : ServiceCall} {m : Moment} {d d' : Deployment}
    {answer : Except ServiceError x.Result} (hd : d.storage.Distinct)
    (h : (x.call m).run d = (answer, d')) :
    d'.storage.configCount = d.storage.configCount +
      if ServiceEvent.configWrite? ⟨x, m, d, answer⟩ = some "create" then 1 else 0 := by
  obtain ⟨err, herr, hS⟩ | ⟨a, ha, hdoes⟩ := x.leaves d.storage m d rfl
  · rw [h] at herr hS
    obtain rfl : answer = .error err := herr
    have hnone : ServiceEvent.configWrite? ⟨x, m, d, .error err⟩ = none := by
      cases x <;> rfl
    rw [hS, hnone]
    rfl
  rw [h] at ha hdoes
  obtain rfl : answer = .ok a := ha
  cases x with
  | createConfig t e name s =>
    obtain ⟨rfl, hserve⟩ := hdoes
    rw [Storage.eq_of_serve_ok (d.storage.serve_createConfig _) hserve,
      Storage.configCount_storeConfig hd, Storage.containsConfig_of_serve_createConfig hserve]
    rfl
  | updateConfig t e name s =>
    obtain ⟨old, -, rfl, hserve⟩ := hdoes
    rw [Storage.eq_of_serve_ok (d.storage.serve_updateConfig _) hserve,
      Storage.configCount_storeConfig hd, Storage.containsConfig_of_serve_updateConfig hserve]
    rfl
  | createRecord t e values =>
    obtain ⟨rfl, hserve⟩ := hdoes
    rw [Storage.eq_of_serve_ok (d.storage.serve_insertRecord _) hserve]
    exact Storage.configCount_storeRecord _ _
  | updateRecord id values? =>
    cases values? with
    | none => exact congrArg Storage.configCount hdoes
    | some values =>
      obtain ⟨old, -, rfl, hserve⟩ := hdoes
      rw [Storage.eq_of_serve_ok (d.storage.serve_updateRecord _) hserve]
      exact Storage.configCount_storeRecord _ _
  | _ => exact congrArg Storage.configCount hdoes

/-! ## Runs -/

namespace ServiceRun

/-- What has become of the configs and of the metrics of a run: the configs that it has created are
there, and the metrics that it has started with have the observations of its calls. -/
structure Accounted (start : Option Metrics) (R : ServiceRun) : Prop where
  orderly : R.state.storage.Orderly
  configs : R.state.storage.configCount = R.history.countP (·.configWrite? = some "create")
  metrics : R.state.metrics =
    start.map ((R.history.flatMap (·.observations)).foldl Metrics.observe ·)
  issues : ∀ ev ∈ R.history, ev.validatedType? = none → refusedIssues ev.answer = []

variable {start : Option Metrics} {R : ServiceRun}

theorem accounted_start {d : Deployment} {kind : StorageKind} (hstorage : d.storage = .new kind) :
    Accounted d.metrics ⟨[], d⟩ where
  orderly := hstorage ▸ Storage.orderly_new kind
  configs := hstorage ▸ Storage.configCount_new kind
  metrics := Option.map_id'.symm
  issues _ h := by cases h

/-- **A call is accounted for**, if it has a fresh id for a new record. -/
theorem Accounted.next (h : R.Accounted start) {x : ServiceCall × Moment}
    (fresh : x.1.Fresh x.2 R.state.storage) : (R.next x).Accounted start := by
  rcases hrun : (x.1.call x.2).run R.state with ⟨answer, d'⟩
  have hnext : R.next x = ⟨R.history ++ [⟨x.1, x.2, R.state, answer⟩], d'⟩ := by
    rw [ServiceRun.next, hrun]
  obtain ⟨seen, hseen, haccounts⟩ := x.1.counts h.orderly x.2 R.state rfl
  rw [hrun] at hseen haccounts
  rw [hnext]
  -- the counters go on from where the run before has left them
  refine ⟨(ServiceCall.orderly_persists h.orderly hrun).1, ?_, ?_, ?_⟩
  · rw [List.countP_append, ← h.configs, List.countP_singleton]
    simpa using ServiceCall.configCount_of_run h.orderly.distinct hrun
  · have hmetrics : d'.metrics = R.state.metrics.map (seen.foldl Metrics.observe ·) := hseen
    rw [hmetrics, h.metrics, Option.map_map, haccounts.observations fresh, List.flatMap_append,
      List.flatMap_singleton]
    exact congrArg (Option.map · start) (funext fun M => (List.foldl_append ..).symm)
  · intro ev hev
    rcases List.mem_append.1 hev with hmem | hmem
    · exact h.issues ev hmem
    · obtain rfl := List.mem_singleton.1 hmem
      exact haccounts.issues

end ServiceRun

/-- The metrics after a run from empty stores. -/
theorem Deployment.runCalls_accounted {d : Deployment} {kind : StorageKind}
    (hstorage : d.storage = .new kind) (calls : List (ServiceCall × Moment))
    (fresh : ∀ ev ∈ (d.runCalls calls).history, ev.call.Fresh ev.moment ev.before.storage) :
    (d.runCalls calls).Accounted d.metrics := by
  -- on the calls from the last one back, each of which is accounted for
  induction calls using List.reverseRecOn with
  | nil => exact ServiceRun.accounted_start hstorage
  | append_singleton calls x ih =>
    rw [runCalls_append_singleton] at fresh ⊢
    refine (ih fun ev hev => fresh ev (List.mem_append_left _ hev)).next ?_
    exact fresh _ (List.mem_append_right _ (List.mem_singleton_self _))

/-! ## Totals -/

theorem IssueKind.name_injective : Function.Injective name := by
  intro k k'
  cases k <;> cases k' <;> simp [name]

section Observed

variable {α : Type} (e e' : String) (elapsed : Binary64) (r : Except ServiceError α)

theorem countP_observed_configWrites (labels : List String) :
    (observed e elapsed r).countP (·.series = (.configWrites, labels)) = 0 := by
  rcases r with (_ | _ | _ | _) | _ <;>
    simp [observed, ServiceError.observed, Observation.series]

/-- Values that have passed, or that have not, are counted by their entity type. -/
theorem countP_observed_validations (valid : Bool) :
    (observed e' elapsed r).countP (·.series = (Observation.validation e valid).series) =
      if e' = e ∧ verdict? r = some valid then 1 else 0 := by
  rcases r with (_ | _ | _ | _) | _ <;> cases valid <;>
    simp [observed, ServiceError.observed, Observation.series, verdict?, List.countP_cons]

/-- How long a validation takes is measured whenever the values have passed or have not. -/
theorem countP_observed_durations (h : ∀ err, r ≠ .error (.schema err)) :
    (observed e' elapsed r).countP (·.series = (.durations, [e])) =
      (if e' = e ∧ verdict? r = some true then 1 else 0) +
        if e' = e ∧ verdict? r = some false then 1 else 0 := by
  rcases r with (err | _ | _ | _) | _
  · exact absurd rfl (h err)
  all_goals simp [observed, ServiceError.observed, Observation.series, verdict?, List.countP_cons]

/-- The issues of values that have not passed are counted by their kinds. -/
theorem countP_observed_issues (k : IssueKind) :
    (observed e elapsed r).countP (·.series = (.issues, [k.name])) =
      (refusedIssues r).countP (·.kind = k) := by
  rcases r with (_ | l | _ | _) | _
  case error.validation =>
    simp only [observed, ServiceError.observed, refusedIssues, ServiceError.issues,
      List.countP_cons, List.countP_map]
    refine List.countP_congr fun i _ => ?_
    simp [Observation.series, IssueKind.name_injective.eq_iff]
  all_goals simp [observed, ServiceError.observed, Observation.series, refusedIssues,
    ServiceError.issues]

end Observed

namespace ServiceEvent

/-- A call has been given values of an entity type to store, and has stored them because they have
passed, or has refused them because they have not. -/
def judges (e : String) (valid : Bool) (ev : ServiceEvent) : Bool :=
  ev.validatedType? = some e && verdict? ev.answer = some valid

variable (ev : ServiceEvent)

theorem countP_observations_configWrites (operation : String) :
    ev.observations.countP (·.series = (.configWrites, [operation])) =
      if ev.configWrite? = some operation then 1 else 0 := by
  have hvalues : (ev.validatedType?.elim [] fun e =>
      observed e ev.moment.elapsed ev.answer).countP
        (·.series = (.configWrites, [operation])) = 0 := by
    cases ev.validatedType? with
    | none => rfl
    | some e => exact countP_observed_configWrites e _ _ _
  rw [observations, List.countP_append, hvalues]
  cases ev.configWrite? <;> simp [Observation.series]

/-- All that is counted but the writes of configs is counted of values. -/
theorem countP_observations_values {key : MetricFamily × List String}
    (hkey : key.1 ≠ .configWrites) :
    ev.observations.countP (·.series = key) =
      ev.validatedType?.elim 0 fun e =>
        (observed e ev.moment.elapsed ev.answer).countP (·.series = key) := by
  have hwrites : (ev.configWrite?.toList.map .configWrite).countP
      (fun o : Observation => o.series = key) = 0 := by
    refine List.countP_eq_zero.2 fun o ho => ?_
    obtain ⟨operation, -, rfl⟩ := List.mem_map.1 ho
    rw [decide_eq_true_iff]
    rintro rfl
    exact hkey rfl
  rw [observations, List.countP_append, hwrites, Nat.zero_add]
  cases ev.validatedType? <;> rfl

theorem countP_observations_validations (e : String) (valid : Bool) :
    ev.observations.countP (·.series = (Observation.validation e valid).series) =
      if ev.judges e valid then 1 else 0 := by
  rw [countP_observations_values _ (by rintro ⟨⟩), judges]
  cases ev.validatedType? with
  | none => rfl
  | some e' => simp [countP_observed_validations]

theorem countP_observations_durations (e : String)
    (h : ev.call.Validates → ∀ err, ev.answer ≠ .error (.schema err)) :
    ev.observations.countP (·.series = (.durations, [e])) =
      (if ev.judges e true then 1 else 0) + if ev.judges e false then 1 else 0 := by
  rw [countP_observations_values _ (by rintro ⟨⟩), judges, judges]
  cases htype : ev.validatedType? with
  | none => rfl
  | some e' =>
    have hschema := h (ServiceCall.validates_of_validatedType? htype)
    simp [countP_observed_durations _ _ _ _ hschema]

theorem countP_observations_issues (k : IssueKind)
    (h : ev.validatedType? = none → refusedIssues ev.answer = []) :
    ev.observations.countP (·.series = (.issues, [k.name])) =
      (refusedIssues ev.answer).countP (·.kind = k) := by
  rw [countP_observations_values _ (by rintro ⟨⟩)]
  cases htype : ev.validatedType? with
  | none =>
    rw [h htype]
    rfl
  | some e => exact countP_observed_issues e _ _ k

end ServiceEvent

theorem sum_map_ite_eq_countP {α : Type} (q : α → Bool) (xs : List α) :
    (xs.map fun x => if q x then 1 else 0).sum = xs.countP q := by
  induction xs with
  | nil => rfl
  | cons x xs ih => rw [List.map_cons, List.sum_cons, ih, List.countP_cons, Nat.add_comm]

/-- The total of a series after a run that has started with no metrics yet. -/
theorem ServiceRun.Accounted.exists_metrics {R : ServiceRun} {place : Placement}
    (h : R.Accounted (some (.emptyAt place)))
    (apart : KeptApart place (R.history.flatMap (·.observations))) :
    ∃ M, R.state.metrics = some M ∧ ∀ key, M.total key =
      (R.history.map fun ev => ev.observations.countP (·.series = key)).sum := by
  refine ⟨_, h.metrics, fun key => ?_⟩
  rw [Metrics.total_foldl_observe apart, List.countP_flatMap]
  rfl

/-- **Metrics account for every call.** After each run with metrics from empty stores, in which each
new record has a fresh id and the label values that are observed have places of their own, as many
creations of configs are counted as there are configs, and as many updates as have succeeded. For
each entity type, as many values are counted as valid as calls have stored them, and as many as
invalid as calls have refused them; and if the digest takes no two of the schemas for each other, as
many durations as both. Of each kind, as many issues are counted as there are in all refusals. A call
that only reads or tries values out, that is given no values for a record, or that fails before it
has validated any changes no metric. -/
theorem runCalls_metrics (engine : Engine) (kind : StorageKind) (capacity : ℕ)
    (place : Placement) (calls : List (ServiceCall × Moment)) {R : ServiceRun}
    (hR : R = ((Deployment.new engine kind capacity true).metersAt place).runCalls calls)
    (fresh : ∀ ev ∈ R.history, ev.call.Fresh ev.moment ev.before.storage)
    (apart : KeptApart place (R.history.flatMap (·.observations))) :
    ∃ M, R.state.metrics = some M ∧
      M.total (.configWrites, ["create"]) = R.state.storage.configCount ∧
      M.total (.configWrites, ["update"]) =
        R.history.countP (·.configWrite? = some "update") ∧
      (∀ e, M.total (.validations, [e, "valid"]) = R.history.countP (·.judges e true)) ∧
      (∀ e, M.total (.validations, [e, "invalid"]) = R.history.countP (·.judges e false)) ∧
      (∀ used, CollisionFree used → (∀ ev ∈ R.history, ∀ s, ev.Uses s → s ∈ used) →
        ∀ e, M.total (.durations, [e]) =
          M.total (.validations, [e, "valid"]) + M.total (.validations, [e, "invalid"])) ∧
      (∀ k : IssueKind, M.total (.issues, [k.name]) =
        (R.history.flatMap fun ev => refusedIssues ev.answer).countP (·.kind = k)) ∧
      ∀ x m answer d', (ServiceCall.call x m).run R.state = (answer, d') →
        ServiceEvent.Quiet ⟨x, m, R.state, answer⟩ → d'.metrics = some M := by
  subst hR
  have hstorage : ((Deployment.new engine kind capacity true).metersAt place).storage = .new kind :=
    rfl
  have hcache : ((Deployment.new engine kind capacity true).metersAt place).cache = .new capacity :=
    rfl
  have haccounted := Deployment.runCalls_accounted hstorage calls fresh
  have hkept {used : List Schema} (free : CollisionFree used) :=
    Deployment.runCalls_kept free hstorage hcache calls
  generalize ((Deployment.new engine kind capacity true).metersAt place).runCalls calls = R at *
  obtain ⟨M, hM, htotal⟩ := haccounted.exists_metrics apart
  -- a series that counts one for each call of some sort
  have hcalls (key : MetricFamily × List String) (q : ServiceEvent → Bool)
      (hq : ∀ ev, ev.observations.countP (·.series = key) = if q ev then 1 else 0) :
      M.total key = R.history.countP q := by
    rw [htotal, funext hq, sum_map_ite_eq_countP]
  have hvalid (e : String) := hcalls _ _ (·.countP_observations_validations e true)
  have hinvalid (e : String) := hcalls _ _ (·.countP_observations_validations e false)
  refine ⟨M, hM, ?_, ?_, hvalid, hinvalid, fun used free hused e => ?_, fun k => ?_, ?_⟩
  · rw [haccounted.configs]
    exact hcalls _ _ fun ev => by simpa using ev.countP_observations_configWrites "create"
  · exact hcalls _ _ fun ev => by simpa using ev.countP_observations_configWrites "update"
  · -- a validation that is timed and not counted would have found a schema at fault
    have hschema := (hkept free hused).noSchemaError
    have hevent : ∀ ev ∈ R.history, ev.observations.countP (·.series = (.durations, [e])) =
        (if ev.judges e true then 1 else 0) + if ev.judges e false then 1 else 0 := by
      intro ev hev
      refine ev.countP_observations_durations e fun hv err herr => ?_
      cases hschema ev hev hv _ herr
    rw [htotal, List.map_congr_left hevent, List.sum_map_add, sum_map_ite_eq_countP,
      sum_map_ite_eq_countP, ← hvalid, ← hinvalid]
    rfl
  · rw [htotal, List.countP_flatMap]
    refine congrArg List.sum (List.map_congr_left fun ev hev => ?_)
    exact ev.countP_observations_issues k (haccounted.issues ev hev)
  · intro x m answer d' hrun hquiet
    -- the id that this call is given need not be fresh
    obtain ⟨seen, hseen, haccounts⟩ := x.counts haccounted.orderly m R.state rfl
    rw [hrun] at hseen haccounts
    obtain rfl := haccounts.quiet hquiet
    rw [hM] at hseen
    exact hseen

/-- A config is created once and updated, and a record is created and read; some values are refused,
and some are only tried out. -/
def countedSession : List (ServiceCall × Moment) :=
  [(.createConfig (.ofNat 1) "site" none SchemaCache.codeSchema, leapDay 2),
    (.createConfig (.ofNat 1) "site" none SchemaCache.codeSchema, leapDay 3),
    (.updateConfig (.ofNat 1) "site" none SchemaCache.codeSchema, leapDay 4),
    (.createRecord (.ofNat 1) "site" [("code", .string "A1")], leapDay 5),
    (.createRecord (.ofNat 1) "site" [("code", .bool true)], leapDay 6),
    (.updateRecord (.ofNat 5) (some [("code", .bool true)]), leapDay 7),
    (.updateRecord (.ofNat 5) none, leapDay 8),
    (.dryRun (.ofNat 1) "site" [("code", .bool true)], leapDay 9)]

/-- The calls with metrics, one after the other. -/
def countedRun : ServiceRun :=
  ((Deployment.new (.new .empty) .memory 1 true).metersAt .digest).runCalls countedSession

theorem runCalls_metrics_countedSession :
    (∀ ev ∈ countedRun.history, ev.call.Fresh ev.moment ev.before.storage) ∧
      KeptApart .digest (countedRun.history.flatMap (·.observations)) ∧
      ∃ M, countedRun.state.metrics = some M ∧
        M.total (.configWrites, ["create"]) = 1 ∧ M.total (.configWrites, ["update"]) = 1 ∧
        M.total (.validations, ["site", "valid"]) = 1 ∧
        M.total (.validations, ["site", "invalid"]) = 2 ∧ M.total (.durations, ["site"]) = 3 ∧
        M.total (.issues, ["type_error"]) = 2 ∧
        (((ServiceCall.getRecord (.ofNat 5)).call (leapDay 10)).run countedRun.state).2.metrics =
          some M := by
  -- what there is to compute of the run is computed at once
  have hcomputed : countedRun.history.all (fun ev =>
        (ev.before.storage.record? ev.moment.freshId).toOption.map (Option.map (·.id)) ==
          some none) = true ∧
      countedRun.history.all (·.usesOnly SchemaCache.codeSchema) = true ∧
      countedRun.state.storage.configCount = 1 ∧
      countedRun.history.countP (·.configWrite? = some "update") = 1 ∧
      countedRun.history.countP (·.judges "site" true) = 1 ∧
      countedRun.history.countP (·.judges "site" false) = 2 ∧
      (countedRun.history.flatMap fun ev => refusedIssues ev.answer).countP
        (·.kind = .typeError) = 2 ∧
      KeptApart .digest (countedRun.history.flatMap (·.observations)) := by
    decide +kernel
  obtain ⟨hids, honly, hconfigs, hupdates, hpassed, hrefused, hkinds, apart⟩ := hcomputed
  have fresh : ∀ ev ∈ countedRun.history, ev.call.Fresh ev.moment ev.before.storage := by
    intro ev hev
    obtain ⟨r?, hid, hmap⟩ :=
      Storage.exists_ok_of_map (beq_iff_eq.1 (List.all_eq_true.1 hids ev hev))
    obtain rfl := Option.map_eq_none_iff.1 hmap
    exact ServiceCall.fresh_of_record? hid ev.call
  have free : CollisionFree [SchemaCache.codeSchema] := by simp [CollisionFree]
  have hused : ∀ ev ∈ countedRun.history, ∀ s, ev.Uses s → s ∈ [SchemaCache.codeSchema] :=
    fun ev hev s hs =>
      List.mem_singleton.2 (ServiceEvent.eq_of_usesOnly (List.all_eq_true.1 honly ev hev) hs)
  obtain ⟨M, hM, hcreate, hupdate, hvalid, hinvalid, hdurations, hissues, hquiet⟩ :=
    runCalls_metrics (R := countedRun) (.new .empty) .memory 1 .digest countedSession rfl fresh apart
  have hvalid := (hvalid "site").trans hpassed
  have hinvalid := (hinvalid "site").trans hrefused
  refine ⟨fresh, apart, M, hM, hcreate.trans hconfigs, hupdate.trans hupdates, hvalid, hinvalid, ?_,
    (hissues .typeError).trans hkinds, hquiet _ _ _ _ Prod.mk.eta.symm (Or.inl rfl)⟩
  rw [hdurations _ free hused, hvalid, hinvalid]

end CustomFields
