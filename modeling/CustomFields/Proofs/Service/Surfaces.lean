import CustomFields.Proofs.CommandLine.Validation
import CustomFields.Proofs.Service.Runs
import CustomFields.Proofs.Store.Identity

/-!
# Ways to have values validated

Values can be tried out, stored in a new record or in one that is there, or judged on the command
line by the schema of their pair. Each of these reaches the rules by functions of its own, and each
has its own way to treat a pair without a config. On the same day they come to the same: the report
of the trial has no issue where the values are stored, and else its issues are those that the other
ways end with. So a trial tells what a write would come to, in every state that a run of calls can
reach.

## Main results

* `Records.create_answer`, `Records.update_answer`: what a write answers, told by a trial
* `validations_agree`: the ways to have values validated agree
-/

namespace CustomFields

open CommandLine (Invocation Directory readSchema readPayload)

/-! ## The engine of a deployment -/

/-- A call leaves the engine of a deployment as it is. -/
theorem Call.engine_run {α : Type} (c : Call α) (d : Deployment) :
    (c.run d).2.engine = d.engine := by
  have hserve (x : ServiceAccess) (d' : Deployment) (hd' : d'.engine = d.engine) :
      (d'.serve x).2.engine = d.engine := by
    cases x <;> exact hd'
  exact Program.run_invariant (fun d' : Deployment => d'.engine = d.engine) hserve _ rfl

theorem Deployment.engine_runCalls (d : Deployment) (calls : List (ServiceCall × Moment)) :
    (d.runCalls calls).state.engine = d.engine := by
  induction calls using List.reverseRecOn with
  | nil => rfl
  | append_singleton calls x ih =>
    rw [runCalls_append_singleton]
    exact ((x.1.call x.2).engine_run _).trans ih

/-! ## Writes -/

/-- An access to the store answers as the storage does. -/
theorem Call.answer_store {x : StoreAccess} {a : x.Result} {d : Deployment} {S S' : Storage}
    (h : S.serve x = (.ok a, S')) (hd : d.storage = S) : ((store x).run d).1 = .ok a := by
  rw [run_store, hd, h]
  rfl

namespace Records

open Call

variable {used : List Schema} {d : Deployment} {t : Uuid} {e : String} {m : Moment}
  {values : Json.Object}

/-- A record is stored with values that have been validated, unless a trial finds issues, where
storing it does not fail. -/
theorem answer_of_store (free : CollisionFree used) (hd : d.Sound used) (hread : d.ReadsUsed used)
    {write : Json.Object → Call Record} {r : Json.Object → Record}
    (hwrite : ∀ validated d₁, d₁.storage = d.storage →
      ((write validated).run d₁).1 = .ok (r validated)) :
    ((validate t e values m >>= write).run d).1 =
      (d.trial t e values m.today).bind (·.verdict (r values)) := by
  have hvalidate :=
    answers_validate t e m values free hd.cache fun _ hs => mem_of_schema? hread hs
  rw [hvalidate.fst_run_bind fun validated d₁ hb => hwrite validated d₁ hb.storage]
  cases d.trial t e values m.today with
  | error err => rfl
  | ok report => exact report.map_verdict r values

/-- **A record with a fresh id is created, unless a trial finds issues.** -/
theorem create_answer (free : CollisionFree used) (hd : d.Sound used) (hread : d.ReadsUsed used)
    (he : checkEntityType e = .ok ()) (hfresh : d.storage.record? m.freshId = .ok none) :
    ((create t e values m).run d).1 =
      (d.trial t e values m.today).bind (·.verdict (.new m.freshId t e values m.now)) := by
  have hcheck : (liftM (checkEntityType e) : Call Unit).run d = (.ok (), d) := by
    rw [he]
    rfl
  rw [create, run_bind_ok hcheck]
  refine answer_of_store free hd hread (r := fun validated => .new m.freshId t e validated m.now)
    fun validated d₁ hstorage => ?_
  exact answer_store (Storage.serve_insertRecord_of_record? hfresh) hstorage

/-- **A record gets other values, unless a trial for its pair finds issues.** -/
theorem update_answer (free : CollisionFree used) (hd : d.Sound used) (hread : d.ReadsUsed used)
    {id : Uuid} {r : Record} (hr : d.storage.record? id = .ok (some r)) :
    ((update id (some values) m).run d).1 =
      (d.trial r.tenantId r.entityType values m.today).bind
        (·.verdict (r.replaceData values m.now)) := by
  have hget : (Call.store (.getRecord id)).run d = (.ok (some r), d) := by
    rw [run_store, d.storage.serve_getRecord, hr]
    rfl
  -- the record lies under the id that it has
  obtain ⟨r₀, hhas, hid⟩ := hd.records.exists_hasRecord hr
  obtain rfl : r.id = id := (hhas.reads hr).id_eq.trans hid
  rw [update, run_bind_ok hget]
  refine answer_of_store free hd hread (r := fun validated => r.replaceData validated m.now)
    fun validated d₁ hstorage => ?_
  exact answer_store (Storage.serve_updateRecord_of_record? hr) hstorage

end Records

/-! ## All ways -/

/-- **The ways to have values validated agree.** After every run from empty stores, if the digest
takes no two of its schemas for each other, let values be tried out for a tenant and an entity type
that satisfies its check. There is a report, and it finds the values valid where it has no issue.
Only where the config of the pair cannot be read there is none, but that fault of the store. This is
never so in memory, and in a tree where the text of the config nests too deep. On the same day, a
record with a fresh id is created, and a record of the pair gets the values, where the report has no
issue; else they fail with the issues of the report, or with the fault. And where the pair has a
config, the command that validates, with the rules and the container key of the services, reports on
its schema and the values what the trial has reported, and ends with 0 where there is no issue, and
else with 1. -/
theorem validations_agree {used : List Schema} (free : CollisionFree used) (engine : Engine)
    (kind : StorageKind) (capacity : ℕ) (withMetrics : Bool)
    (calls : List (ServiceCall × Moment)) {R : ServiceRun}
    (hR : R = (Deployment.new engine kind capacity withMetrics).runCalls calls)
    (hused : ∀ ev ∈ R.history, ∀ s, ev.Uses s → s ∈ used) (hread : R.state.ReadsUsed used)
    (t : Uuid) {e : String} (he : checkEntityType e = .ok ()) (values : Json.Object) (m : Moment) :
    ∃ trial : Except ServiceError ValidationReport,
      ((ServiceCall.call (.dryRun t e values) m).run R.state).1 = trial ∧
      (∀ report, trial = .ok report → (report.valid = true ↔ report.issues = [])) ∧
      (∀ err, trial = .error err →
        ∃ fault, R.state.storage.config? t e = .error fault ∧ err = .store fault) ∧
      (∀ m' : Moment, m'.today = m.today → R.state.storage.record? m'.freshId = .ok none →
        ((ServiceCall.call (.createRecord t e values) m').run R.state).1 =
          trial.bind (·.verdict (Record.new m'.freshId t e values m'.now))) ∧
      (∀ (m' : Moment) id r, m'.today = m.today → R.state.storage.record? id = .ok (some r) →
        r.tenantId = t → r.entityType = e →
        ((ServiceCall.call (.updateRecord id (some values)) m').run R.state).1 =
          trial.bind (·.verdict (r.replaceData values m'.now))) ∧
      ∀ c, R.state.storage.config? t e = .ok (some c) →
        ∀ containerKey : Option String,
        engine = ⟨.builtins, containerKey.getD defaultContainerKey⟩ →
        ∀ (files : Directory) (i : Invocation) schemaPath payloadPath format,
        i.command = .validate schemaPath payloadPath containerKey format →
        (readSchema schemaPath).run files = .ok c.schema →
        (readPayload payloadPath).run files = .ok values →
        ∃ report, trial = .ok report ∧ ∀ env duration colored,
          (i.command.task env m.today duration).run files =
            .ok (.report (.validation ⟨report, some duration⟩) format) ∧
          (i.run env m.today duration colored files).exit.number =
            if report.issues = [] then 0 else 1 := by
  have hkept := Deployment.runCalls_kept free rfl rfl calls (hR ▸ hused)
  rw [← hR] at hkept
  have hd := hkept.sound
  have hengine : R.state.engine = engine := by
    rw [hR]
    exact Deployment.engine_runCalls _ calls
  have htrials := Records.trial_cases hd hread t e values m.today
  refine ⟨R.state.trial t e values m.today, ?_, fun report hreport => ?_, fun err herr => ?_,
    fun m' htoday hfresh => ?_, fun m' id r htoday hr ht he' => ?_,
    fun c hc containerKey hkey files i schemaPath payloadPath format hi hschema hpayload => ?_⟩
  · exact (Records.answers_dryRun t e m values free hd.cache
      fun _ hs => Records.mem_of_schema? hread hs).1
  · obtain ⟨fault, -, htrial⟩ | ⟨c?, report', -, -, htrial, hvalid, -⟩ := htrials
    · cases hreport.symm.trans htrial
    · obtain rfl := Except.ok.inj (hreport.symm.trans htrial)
      rw [hvalid, List.isEmpty_iff]
  · obtain ⟨fault, hfault, htrial⟩ | ⟨c?, report', -, -, htrial, -⟩ := htrials
    · exact ⟨fault, hfault, Except.error.inj (herr.symm.trans htrial)⟩
    · cases herr.symm.trans htrial
  · rw [← htoday]
    exact Records.create_answer free hd hread he hfresh
  · subst ht he'
    rw [← htoday]
    exact Records.update_answer free hd hread hr
  · obtain ⟨fault, hfault, -⟩ | ⟨c?, report, hc?, hreport, htrial, hvalid, -⟩ := htrials
    · cases hc.symm.trans hfault
    -- the engine of the command is that of the services
    obtain rfl := Except.ok.inj (hc.symm.trans hc?)
    rw [hengine, hkey] at hreport
    refine ⟨report, htrial, fun env duration colored => ?_⟩
    have hrun : (i.command.task env m.today duration).run files =
        .ok (.report (.validation ⟨report, some duration⟩) format) := by
      rw [hi]
      exact CommandLine.Command.run_validate hschema hpayload containerKey format env m.today
        duration hreport
    refine ⟨hrun, (CommandLine.Invocation.number_exit_run hrun colored).trans ?_⟩
    simp only [hvalid, List.isEmpty_iff]

/-- A session with the rules that are built in, which leaves a config and a record of one pair. -/
def builtinRun : ServiceRun :=
  (Deployment.new (.new .builtins) .memory 1 false).runCalls recordSession

/-- The schema of that pair in one file, and in another one values that do not satisfy it. -/
def siteFiles : Directory where
  files :=
    [("schema.json", SchemaCache.codeSchema.toJson.compact.toUTF8.toList),
      ("payload.json", (Json.Value.object [("code", .bool true)]).compact.toUTF8.toList)]

/-- The invocation that validates one file by the other. -/
def siteInvocation : Invocation where
  verbosity := 0
  quiet := false
  command := .validate "schema.json" "payload.json" none .json

/-- What the session leaves: a config and a record, and an id that is free. -/
theorem exists_builtinRun :
    ∃ c r, builtinRun.state.storage.config? (.ofNat 1) "site" = .ok (some c) ∧
      c.schema = SchemaCache.codeSchema ∧
      builtinRun.state.storage.record? (.ofNat 3) = .ok (some r) ∧
      (r.tenantId = .ofNat 1 ∧ r.entityType = "site") ∧
      builtinRun.state.storage.record? (.ofNat 8) = .ok none := by
  have hconfig : (builtinRun.state.storage.config? (.ofNat 1) "site").toOption.map
      (Option.map (·.schema.canonicalText)) = some (some SchemaCache.codeSchema.canonicalText) := by
    decide +kernel
  have hrecord : (builtinRun.state.storage.record? (.ofNat 3)).toOption.map
      (Option.map fun r => (r.tenantId, r.entityType)) = some (some (.ofNat 1, "site")) := by
    decide +kernel
  have hfree : (builtinRun.state.storage.record? (.ofNat 8)).toOption.map
      (Option.map (·.id)) = some none := by
    decide +kernel
  obtain ⟨c?, hc, hmap⟩ := Storage.exists_ok_of_map hconfig
  obtain ⟨c, rfl, htext⟩ := Option.map_eq_some_iff.1 hmap
  obtain ⟨r?, hr, hmap'⟩ := Storage.exists_ok_of_map hrecord
  obtain ⟨r, rfl, hpair⟩ := Option.map_eq_some_iff.1 hmap'
  obtain ⟨none?, hfresh, hnone⟩ := Storage.exists_ok_of_map hfree
  obtain rfl := Option.map_eq_none_iff.1 hnone
  exact ⟨c, r, hc, Schema.canonicalText_injective htext, hr, Prod.mk.inj hpair, hfresh⟩

theorem readSchema_siteFiles :
    (readSchema "schema.json").run siteFiles = .ok SchemaCache.codeSchema :=
  eq_ok_of_map_eq_ok Schema.canonicalText_injective (by decide +kernel)

theorem readPayload_siteFiles :
    (readPayload "payload.json").run siteFiles = .ok [("code", .bool true)] :=
  eq_ok_of_map_eq_ok (f := fun members => (Json.Value.object members).compact)
    (Json.Value.compact_injective.comp fun _ _ h => Json.Value.object.inj h) (by decide +kernel)

/-- Values that do not satisfy the schema of a pair: each way to have them validated finds the same
issues in them. -/
theorem validations_agree_siteFiles :
    (∀ ev ∈ builtinRun.history, ∀ s, ev.Uses s → s ∈ [SchemaCache.codeSchema]) ∧
      builtinRun.state.ReadsUsed [SchemaCache.codeSchema] ∧ checkEntityType "site" = .ok () ∧
      ∃ report,
        ((ServiceCall.call (.dryRun (.ofNat 1) "site" [("code", .bool true)])
          (leapDay 7)).run builtinRun.state).1 = .ok report ∧ report.issues ≠ [] ∧
        ((ServiceCall.call (.createRecord (.ofNat 1) "site" [("code", .bool true)])
          (leapDay 8)).run builtinRun.state).1 = .error (.validation ⟨report.issues⟩) ∧
        ((ServiceCall.call (.updateRecord (.ofNat 3) (some [("code", .bool true)]))
          (leapDay 9)).run builtinRun.state).1 = .error (.validation ⟨report.issues⟩) ∧
        (siteInvocation.run [] (leapDay 7).today 0 false siteFiles).exit.number = 1 := by
  have free : CollisionFree [SchemaCache.codeSchema] := by simp [CollisionFree]
  -- one more call would find the schemas that can be read in the end
  have hall : ∀ ev ∈ (builtinRun.next (.listConfigs (.ofNat 1), leapDay 6)).history,
      ∀ s, ev.Uses s → s ∈ [SchemaCache.codeSchema] := by
    have honly : (builtinRun.next (.listConfigs (.ofNat 1), leapDay 6)).history.all
        (·.usesOnly SchemaCache.codeSchema) = true := by decide +kernel
    exact fun ev hev s hs =>
      List.mem_singleton.2 (ServiceEvent.eq_of_usesOnly (List.all_eq_true.1 honly ev hev) hs)
  have hused : ∀ ev ∈ builtinRun.history, ∀ s, ev.Uses s → s ∈ [SchemaCache.codeSchema] :=
    fun ev hev => hall ev (List.mem_append_left _ hev)
  have hread : builtinRun.state.ReadsUsed [SchemaCache.codeSchema] := fun t e c hc =>
    hall _ (List.mem_append_right _ (List.mem_singleton_self _)) c.schema
      (Or.inr ⟨t, e, c, hc, rfl⟩)
  have he : checkEntityType "site" = .ok () := by rfl
  obtain ⟨trial, htrial, -, -, hcreate, hupdate, hvalidate⟩ :=
    validations_agree (R := builtinRun) free (.new .builtins) .memory 1 false recordSession rfl
      hused hread (.ofNat 1) he [("code", .bool true)] (leapDay 7)
  obtain ⟨c, r, hc, hschema, hr, ⟨htenant, htype⟩, hfresh⟩ := exists_builtinRun
  obtain ⟨report, rfl, hreport⟩ := hvalidate c hc none rfl siteFiles siteInvocation _ _ _ rfl
    (by rw [hschema]; exact readSchema_siteFiles) readPayload_siteFiles
  have hissues : report.issues ≠ [] := by
    have hfound : (((ServiceCall.call (.dryRun (.ofNat 1) "site" [("code", .bool true)])
        (leapDay 7)).run builtinRun.state).1.toOption.any fun report : ValidationReport =>
          !report.issues.isEmpty) = true := by decide +kernel
    rw [htrial] at hfound
    have hfound : (!report.issues.isEmpty) = true := hfound
    intro hnone
    rw [hnone] at hfound
    cases hfound
  refine ⟨hused, hread, he, report, htrial, hissues, ?_, ?_, ?_⟩
  · exact (hcreate (leapDay 8) rfl hfresh).trans (if_neg hissues)
  · exact (hupdate (leapDay 9) (.ofNat 3) r rfl hr htenant htype).trans (if_neg hissues)
  · exact (hreport [] 0 false).2.trans (if_neg hissues)

end CustomFields
