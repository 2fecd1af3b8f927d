import CustomFields.Proofs.Service.Accesses
import CustomFields.Proofs.Validation.Compiled
import CustomFields.Service.Records

/-!
# What a trial tells

Values are judged on two ways. A trial reports on them, and has a report of its own for a pair
without a config; a validation hands them to an engine that lets them through where there is no
schema, and counts what it has found. Both come to the same, which the storage and the engine tell
alone: the report by the schema of the pair, compiled for it alone. A trial answers with that
report, and a validation with the values where it has no issue, and else with its issues.

## Main definitions

* `Engine.trial`, `Deployment.trial`: the report on values by a schema, and by that of a pair
* `ValidationReport.verdict`: an answer, unless a report has issues
* `Call.Answers`: a call that stores nothing, and its answer

## Main results

* `Records.answers_dryRun`: what a trial answers
* `Records.answers_validate`: what a validation answers
-/

namespace CustomFields

/-! ## Reports -/

/-- An answer, unless there are issues. -/
def ValidationReport.verdict {α : Type} (r : ValidationReport) (a : α) : Except ServiceError α :=
  if r.issues = [] then .ok a else .error (.validation ⟨r.issues⟩)

theorem ValidationReport.map_verdict {α β : Type} (r : ValidationReport) (f : α → β) (a : α) :
    (r.verdict a).map f = r.verdict (f a) := by
  unfold verdict
  split <;> rfl

/-- An engine that answers by a report lets a value through, or fails because of issues. -/
theorem ValidationReport.verdict_cases {α : Type} {r : ValidationReport}
    {result : Except EngineError α} {a : α} (h : result.mapError .ofEngine = r.verdict a) :
    (∃ l, result = .error (.validation l)) ∨ result = .ok a ∧ r.issues = [] := by
  unfold verdict at h
  split at h
  · rename_i hissues
    cases result with
    | ok b =>
      obtain rfl := Except.ok.inj h
      exact Or.inr ⟨rfl, hissues⟩
    | error err => cases h
  · cases result with
    | ok b => cases h
    | error err =>
      cases err with
      | schema err => cases h
      | validation l => exact Or.inl ⟨l, rfl⟩

/-- The report on values by a schema that is compiled for it alone. Without a schema there is
nothing to report. -/
def Engine.trial (e : Engine) (s? : Option Schema) (values : Json.Object) (today : Calendar.Date) :
    Except SchemaError ValidationReport :=
  match s? with
  | none => .ok { valid := true, issues := [], fieldsChecked := 0, rulesApplied := 0 }
  | some s => (CompiledSchema.compile s).map fun k => e.report k values today

namespace Deployment

/-- The schema of a pair, if it has a config. -/
def schema? (d : Deployment) (t : Uuid) (e : String) : Except ServiceError (Option Schema) :=
  ((d.storage.config? t e).mapError .store).map fun c? => c?.map (·.schema)

/-- The report on values by the schema of a pair. -/
def trial (d : Deployment) (t : Uuid) (e : String) (values : Json.Object)
    (today : Calendar.Date) : Except ServiceError ValidationReport :=
  (d.schema? t e).bind fun s? => (d.engine.trial s? values today).mapError .schema

end Deployment

namespace Engine

variable {used : List Schema} {cache : SchemaCache} (e : Engine) (values : Json.Object)
  (today : Calendar.Date)

/-- There is a report by a schema that satisfies its check. It says that values are valid where it
has no issue, and then the compiled schema finds none in them. -/
theorem exists_trial {s? : Option Schema} (hs : ∀ s ∈ s?, s.check = .ok ()) :
    ∃ report, e.trial s? values today = .ok report ∧ report.valid = report.issues.isEmpty ∧
      (report.issues = [] → ∀ s ∈ s?, ∃ k, CompiledSchema.compile s = .ok k ∧
        (e.collectIssues k values today).issues = []) := by
  cases s? with
  | none => exact ⟨_, rfl, rfl, by rintro - s ⟨⟩⟩
  | some s =>
    obtain ⟨k, hk⟩ := CompiledSchema.exists_compile_iff.2 (hs s rfl)
    refine ⟨e.report k values today, by rw [trial, hk]; rfl, rfl, ?_⟩
    rintro hnone s' ⟨⟩
    exact ⟨k, hk, hnone⟩

/-- A trial with a sound cache reports what one without any does. -/
theorem dryRun_eq_trial (free : CollisionFree used) (hc : cache.Sound used) {s : Schema}
    (hs : s ∈ used) :
    (e.dryRun cache s values today).2.Sound used ∧
      (e.dryRun cache s values today).1 = e.trial (some s) values today := by
  obtain ⟨hsound, hresult⟩ := e.use_eq_resultAlone free hc (u := .dryRun s values today)
    (by rintro _ ⟨⟩; exact hs)
  exact ⟨hsound, CacheUse.Result.tried.inj (Option.some.inj hresult)⟩

/-- A compiled schema lets values through where its report on them has no issue. -/
theorem mapError_validateCompiled (k : CompiledSchema) :
    (e.validateCompiled k values today).mapError .validation =
      (e.report k values today).verdict values := by
  have hissues : (e.report k values today).issues = (e.collectIssues k values today).issues := rfl
  rw [ValidationReport.verdict, hissues, validateCompiled]
  split
  · rename_i hnone
    rw [hnone, if_pos rfl]
    rfl
  · rename_i hsome
    rw [if_neg hsome]
    rfl

/-- A validation with a sound cache lets values through where a trial finds no issue. -/
theorem validateOptional_eq_trial (free : CollisionFree used) (hc : cache.Sound used)
    {s? : Option Schema} (hs : ∀ s ∈ s?, s ∈ used) :
    (e.validateOptional cache s? values today).2.Sound used ∧
      (e.validateOptional cache s? values today).1.mapError .ofEngine =
        ((e.trial s? values today).mapError .schema).bind (·.verdict values) := by
  obtain ⟨hsound, hresult⟩ :=
    e.use_eq_resultAlone free hc (u := .validate s? values today) hs
  refine ⟨hsound, ?_⟩
  cases s? with
  | none => rfl
  | some s =>
    have hresult : (e.validateOptional cache (some s) values today).1 = _ :=
      CacheUse.Result.validated.inj (Option.some.inj hresult)
    rw [hresult, trial]
    cases CompiledSchema.compile s with
    | error err => rfl
    | ok k =>
      refine Eq.trans ?_ (e.mapError_validateCompiled values today k)
      show ((e.validateCompiled k values today).mapError EngineError.validation).mapError _ = _
      cases e.validateCompiled k values today <;> rfl

end Engine

/-! ## Calls that store nothing -/

namespace Call

variable {α β : Type} {used : List Schema} {d : Deployment}

/-- A call answers `r` and stores nothing. -/
def Answers (used : List Schema) (d : Deployment) (c : Call α) (r : Except ServiceError α) : Prop :=
  (c.run d).1 = r ∧ d.Becomes used d.storage (c.run d).2

theorem answers_pure (a : α) : Answers used d (pure a) (.ok a) :=
  ⟨rfl, Deployment.becomes_self used d⟩

theorem answers_throw (e : ServiceError) : Answers used d (throw e : Call α) (.error e) :=
  ⟨rfl, Deployment.becomes_self used d⟩

/-- A call that goes on with another one, which finds the same storage and the same engine. -/
theorem Answers.bind {c : Call α} {r : Except ServiceError α} (h : Answers used d c r)
    {f : α → Call β} {g : α → Except ServiceError β}
    (hf : ∀ a d₁, r = .ok a → d.Becomes used d.storage d₁ → Answers used d₁ (f a) (g a)) :
    Answers used d (c >>= f) (r.bind g) := by
  obtain ⟨rfl, hb⟩ := h
  rcases hc : c.run d with ⟨err | a, d₁⟩
  · rw [hc] at hb
    rw [Answers, run_bind, hc]
    exact ⟨rfl, hb⟩
  · rw [hc] at hb
    obtain ⟨hanswer, hb'⟩ := hf a d₁ (by rw [hc]) hb
    rw [Answers, run_bind_ok hc]
    exact ⟨hanswer, hb.keep hb'⟩

/-- A call that goes on with another one, which may store something. -/
theorem Answers.fst_run_bind {c : Call α} {r : Except ServiceError α} (h : Answers used d c r)
    {f : α → Call β} {g : α → Except ServiceError β}
    (hf : ∀ a d₁, d.Becomes used d.storage d₁ → ((f a).run d₁).1 = g a) :
    ((c >>= f).run d).1 = r.bind g := by
  obtain ⟨rfl, hb⟩ := h
  rw [run_bind]
  rcases hc : c.run d with ⟨err | a, d₁⟩
  · rfl
  · rw [hc] at hb
    exact hf a d₁ hb

theorem answers_observe (o : Observation) : Answers used d (observe o) (.ok ()) :=
  ⟨rfl, rfl, rfl, id⟩

theorem answers_forM_observe {ι : Type} (xs : List ι) (f : ι → Observation) :
    Answers used d (xs.forM fun x => observe (f x)) (.ok ()) := by
  induction xs generalizing d with
  | nil => exact answers_pure ()
  | cons x xs ih => exact (answers_observe (f x)).bind fun _ _ _ _ => ih

/-- A trial by a schema that has been used reports as one without a cache. -/
theorem answers_tryOut (free : CollisionFree used) (hd : d.cache.Sound used) {s : Schema}
    (hs : s ∈ used) (values : Json.Object) (today : Calendar.Date) :
    Answers used d (access (.dryRun s values today))
      (.ok (d.engine.trial (some s) values today)) := by
  obtain ⟨hsound, hreport⟩ := d.engine.dryRun_eq_trial values today free hd hs
  exact ⟨congrArg Except.ok hreport, rfl, rfl, fun _ => hsound⟩

/-- A validation by a schema that has been used lets values through where a trial finds no
issue. -/
theorem answers_useSchema (free : CollisionFree used) (hd : d.cache.Sound used)
    {s? : Option Schema} (hs : ∀ s ∈ s?, s ∈ used) (values : Json.Object) (today : Calendar.Date) :
    ∃ result, Answers used d (access (.validate s? values today)) (.ok result) ∧
      Except.mapError .ofEngine result =
        ((d.engine.trial s? values today).mapError .schema).bind (·.verdict values) := by
  obtain ⟨hsound, hresult⟩ := d.engine.validateOptional_eq_trial values today free hd hs
  exact ⟨_, ⟨rfl, rfl, rfl, fun _ => hsound⟩, hresult⟩

end Call

namespace Records

open Call

variable {used : List Schema} {d : Deployment} (t : Uuid) (e : String) (m : Moment)
  (values : Json.Object)

/-- The schema of a pair is read as the storage has it. -/
theorem answers_resolveSchema : Answers used d (resolveSchema t e) (d.schema? t e) := by
  rw [Answers, resolveSchema, run_bind, run_store, d.storage.serve_getConfig, Deployment.schema?]
  cases d.storage.config? t e with
  | error err => exact ⟨rfl, rfl, rfl, id⟩
  | ok c? => exact ⟨rfl, rfl, rfl, id⟩

/-- **A trial answers with the report by the schema of the pair.** -/
theorem answers_dryRun (free : CollisionFree used) (hd : d.cache.Sound used)
    (hs : ∀ s, d.schema? t e = .ok (some s) → s ∈ used) :
    Answers used d (dryRun t e values m) (d.trial t e values m.today) := by
  refine (answers_resolveSchema t e).bind fun s? d₁ hs? hb => ?_
  cases s? with
  | none => exact answers_pure _
  | some s =>
    have htry := answers_tryOut (d := d₁) free (hb.cache hd) (hs s hs?) values m.today
    rw [hb.engine] at htry
    refine htry.bind (g := Except.mapError .schema) fun result d₂ _ _ => ?_
    cases result with
    | ok report => exact answers_pure report
    | error err => exact answers_throw (.schema err)

/-- **A validation answers with the values, unless a trial finds issues.** -/
theorem answers_validate (free : CollisionFree used) (hd : d.cache.Sound used)
    (hs : ∀ s, d.schema? t e = .ok (some s) → s ∈ used) :
    Answers used d (validate t e values m)
      ((d.trial t e values m.today).bind (·.verdict values)) := by
  have hsteps : (d.trial t e values m.today).bind (·.verdict values) =
      (d.schema? t e).bind fun s? =>
        ((d.engine.trial s? values m.today).mapError .schema).bind (·.verdict values) := by
    rw [Deployment.trial]
    cases d.schema? t e <;> rfl
  rw [hsteps]
  refine (answers_resolveSchema t e).bind fun s? d₁ hs? hb => ?_
  have hused : ∀ s ∈ s?, s ∈ used := by
    rintro s rfl
    exact hs s hs?
  obtain ⟨result, huse, hresult⟩ :=
    answers_useSchema (d := d₁) free (hb.cache hd) hused values m.today
  rw [hb.engine] at hresult
  rw [← hresult]
  -- what was found is counted, whatever it is, and that cannot fail
  refine huse.bind (g := Except.mapError .ofEngine) fun result' d₂ _ _ => ?_
  refine (answers_observe _).bind (g := fun _ => Except.mapError .ofEngine result')
    fun _ d₃ _ _ => ?_
  cases result' with
  | ok validated =>
    exact (answers_observe _).bind (g := fun _ => .ok validated) fun _ _ _ _ => answers_pure _
  | error err =>
    cases err with
    | schema err => exact answers_throw (.schema err)
    | validation l =>
      refine (answers_observe _).bind (g := fun _ => .error (.validation l)) fun _ _ _ _ => ?_
      exact (answers_forM_observe _ _).bind (g := fun _ => .error (.validation l))
        fun _ _ _ _ => answers_throw _

end Records

end CustomFields
