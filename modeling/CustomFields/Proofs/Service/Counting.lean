import CustomFields.Proofs.Metrics.Totals
import CustomFields.Proofs.Service.Effects
import CustomFields.Proofs.Store.Identity

/-!
# What calls count

A call counts on its way: a config once it is stored, but values once they have been validated,
which is before they are stored. What it has counted is told by its answer all the same, unless
values that have passed cannot be stored, and only a new record comes to that, whose id may be in
use already. A record that gets other values has been read before.

## Main definitions

* `Call.Counts`: what a call counts, and what its answer says of it
* `observed`: what is counted of values, by the answer of the call that was given them
* `verdict?`, `refusedIssues`: what an answer says of the values

## Main results

* `Call.Counts.bind`: calls that go on with each other
* `Configs.counts_create`, `Configs.counts_update`: what is counted of configs
* `Records.counts_create`, `Records.counts_update`: what is counted of values
-/

namespace CustomFields

/-- The issues of a refusal. -/
def ServiceError.issues : ServiceError → List Issue
  | .validation l => l.issues
  | _ => []

/-- The issues of an answer that refuses something. -/
def refusedIssues {α : Type} : Except ServiceError α → List Issue
  | .ok _ => []
  | .error err => err.issues

/-- Whether values that a call was given have passed, if they have been judged at all. -/
def verdict? {α : Type} : Except ServiceError α → Option Bool
  | .ok _ => some true
  | .error (.validation _) => some false
  | .error _ => none

namespace Call

variable {α β : Type} {S : Storage}

/-- A call that finds a storage counts some observations, if metrics are on, and `Post` holds of its
answer and of them. -/
def Counts (S : Storage) (c : Call α)
    (Post : Except ServiceError α → List Observation → Prop) : Prop :=
  ∀ d : Deployment, d.storage = S → ∃ seen,
    (c.run d).2.metrics = d.metrics.map (seen.foldl Metrics.observe ·) ∧ Post (c.run d).1 seen

variable {Post : Except ServiceError α → List Observation → Prop} {c : Call α}

theorem Counts.imp {Post' : Except ServiceError α → List Observation → Prop}
    (h : Counts S c Post) (himp : ∀ r seen, Post r seen → Post' r seen) : Counts S c Post' := by
  intro d hd
  obtain ⟨seen, hseen, hpost⟩ := h d hd
  exact ⟨seen, hseen, himp _ _ hpost⟩

theorem counts_pure {a : α} (h : Post (.ok a) []) : Counts S (pure a) Post :=
  fun _ _ => ⟨[], Option.map_id'.symm, h⟩

theorem counts_throw {e : ServiceError} (h : Post (.error e) []) : Counts S (throw e) Post :=
  fun _ _ => ⟨[], Option.map_id'.symm, h⟩

theorem counts_lift {r : Except ServiceError α} (h : Post r []) : Counts S (liftM r) Post := by
  cases r with
  | ok a => exact counts_pure h
  | error e => exact counts_throw h

/-- A call that leaves the storage as it is and goes on with another one. -/
theorem Counts.bind {f : α → Call β} {Post : Except ServiceError β → List Observation → Prop}
    {Q : α → Prop} (hl : Leaves S c fun a S' => S' = S ∧ Q a)
    (h : Counts S c fun r seen => match r with
      | .error e => Post (.error e) seen
      | .ok a => Counts S (f a) fun r' seen' => Post r' (seen ++ seen')) :
    Counts S (c >>= f) Post := by
  intro d hd
  obtain ⟨seen, hseen, hpost⟩ := h d hd
  rw [run_bind]
  rcases hc : c.run d with ⟨r, d₁⟩
  rw [hc] at hseen hpost
  cases r with
  | error e => exact ⟨seen, hseen, hpost⟩
  | ok a =>
    obtain ⟨err, herr, -⟩ | ⟨a', -, hS, -⟩ := hl d hd
    · rw [hc] at herr
      cases herr
    · rw [hc] at hS
      obtain ⟨seen', hseen', hpost'⟩ := hpost d₁ hS
      -- what the second call counts comes after what the first one has counted
      refine ⟨seen ++ seen', ?_, hpost'⟩
      rw [hseen', show d₁.metrics = _ from hseen, Option.map_map]
      exact congrArg (Option.map · d.metrics) (funext fun M => (List.foldl_append ..).symm)

theorem counts_access {x : ServiceAccess}
    {Post : Except ServiceError (serviceInterface.Answer x) → List Observation → Prop}
    (hx : ∀ d : Deployment, (d.serve x).2.metrics = d.metrics) (h : ∀ a, Post (.ok a) []) :
    Counts S (access x) Post :=
  fun d _ => ⟨[], (hx d).trans Option.map_id'.symm, h _⟩

theorem counts_store {x : StoreAccess}
    {Post : Except ServiceError x.Result → List Observation → Prop}
    (h : Post (Except.mapError ServiceError.store (S.serve x).1) []) :
    Counts S (store x) Post := by
  rintro d rfl
  rw [run_store]
  exact ⟨[], Option.map_id'.symm, h⟩

/-- An access to the store refuses no values. -/
theorem counts_store_quiet (x : StoreAccess) :
    Counts S (store x) fun r seen => seen = [] ∧ refusedIssues r = [] := by
  refine counts_store ⟨rfl, ?_⟩
  cases (S.serve x).1 <;> rfl

theorem counts_compile {s : Schema}
    {Post : Except ServiceError Compilation → List Observation → Prop}
    (h : ∀ r : Except SchemaError Compilation, Post (r.mapError .schema) []) :
    Counts S (compile s) Post := by
  intro d _
  rw [run_compile]
  exact ⟨[], Option.map_id'.symm, h _⟩

theorem counts_observe {o : Observation}
    {Post : Except ServiceError Unit → List Observation → Prop} (h : Post (.ok ()) [o]) :
    Counts S (observe o) Post :=
  fun _ _ => ⟨[o], rfl, h⟩

/-- An access that is counted once it has stored something. -/
theorem counts_store_observe {x : StoreAccess} {o : Observation}
    {Post : Except ServiceError x.Result → List Observation → Prop}
    (herr : ∀ err, Post (.error (.store err)) []) (hok : ∀ a, Post (.ok a) [o]) :
    Counts S (do let a ← store x; observe o; return a) Post := by
  rintro d rfl
  rw [run_bind, run_store]
  rcases (d.storage.serve x).1 with err | a
  · exact ⟨[], Option.map_id'.symm, herr err⟩
  · exact ⟨[o], rfl, hok a⟩

theorem counts_forM_observe {ι : Type} {xs : List ι} {f : ι → Observation}
    {Post : Except ServiceError Unit → List Observation → Prop} (h : Post (.ok ()) (xs.map f)) :
    Counts S (xs.forM fun x => observe (f x)) Post := by
  induction xs generalizing Post with
  | nil => exact counts_pure h
  | cons x xs ih => exact (counts_observe (ih h)).bind (leaves_observe (f x))

end Call

/-- What is counted where values of an entity type do not come through. -/
def ServiceError.observed (entityType : String) (elapsed : Binary64) :
    ServiceError → List Observation
  | .validation l =>
    .duration entityType elapsed :: .validation entityType false ::
      l.issues.map fun i => .issue i.kind.name
  | .schema _ => [.duration entityType elapsed]
  | .store _ | .invalidInput _ => []

/-- What is counted where values of an entity type are to be stored. -/
def observed {α : Type} (entityType : String) (elapsed : Binary64) :
    Except ServiceError α → List Observation
  | .ok _ => [.duration entityType elapsed, .validation entityType true]
  | .error err => err.observed entityType elapsed

section Services

open Call

variable (S : Storage) (t : Uuid) (e : String) (id : Uuid) (m : Moment)

namespace Configs

theorem counts_get :
    Counts S (get t e) fun r seen => seen = [] ∧ r = (S.config? t e).mapError .store :=
  counts_store ⟨rfl, rfl⟩

/-- A config that is created is counted. -/
theorem counts_create (name : Option String) (s : Schema) :
    Counts S (create t e name s m) fun r seen =>
      seen = (if r.isOk then [.configWrite "create"] else []) ∧ refusedIssues r = [] := by
  refine .bind (leaves_lift fun _ _ => ⟨rfl, trivial⟩) (counts_lift ?_)
  cases hcheck : checkEntityType e with
  | error err =>
    obtain ⟨message, rfl⟩ := exists_invalidInput_of_checkEntityType hcheck
    exact ⟨rfl, rfl⟩
  | ok =>
    refine .bind (leaves_compile s) (counts_compile fun k => ?_)
    cases k with
    | error err => exact ⟨rfl, rfl⟩
    | ok k => exact counts_store_observe (fun err => ⟨rfl, rfl⟩) fun c => ⟨rfl, rfl⟩

/-- A config that is updated is counted. -/
theorem counts_update (name : Option String) (s : Schema) :
    Counts S (update t e name s m) fun r seen =>
      seen = (if r.isOk then [.configWrite "update"] else []) ∧ refusedIssues r = [] := by
  refine .bind (leaves_compile s) (counts_compile fun k => ?_)
  cases k with
  | error err => exact ⟨rfl, rfl⟩
  | ok k =>
    refine .bind (leaves_get S t e) ((counts_get S t e).imp ?_)
    rintro r seen ⟨rfl, rfl⟩
    cases hc : S.config? t e with
    | error err => exact ⟨rfl, rfl⟩
    | ok old? =>
      cases old? with
      | none => exact counts_throw ⟨rfl, rfl⟩
      | some old => exact counts_store_observe (fun err => ⟨rfl, rfl⟩) fun c => ⟨rfl, rfl⟩

end Configs

namespace Records

theorem counts_resolveSchema :
    Counts S (resolveSchema t e) fun r seen => seen = [] ∧
      r = ((S.config? t e).map (Option.map (·.schema))).mapError .store := by
  refine .bind (Configs.leaves_get S t e) ((Configs.counts_get S t e).imp ?_)
  rintro r seen ⟨rfl, rfl⟩
  cases hc : S.config? t e with
  | error err => exact ⟨rfl, rfl⟩
  | ok c? => exact counts_pure ⟨rfl, rfl⟩

theorem counts_get :
    Counts S (get id) fun r seen => seen = [] ∧ r = (S.record? id).mapError .store :=
  counts_store ⟨rfl, rfl⟩

/-- A validation is counted unless there is nothing to validate by. -/
theorem counts_validate (values : Json.Object) :
    Counts S (validate t e values m) fun r seen =>
      seen = observed e m.elapsed r ∧ (seen ≠ [] → ∃ c?, S.config? t e = .ok c?) := by
  refine .bind (leaves_resolveSchema S t e) ((counts_resolveSchema S t e).imp ?_)
  rintro r seen ⟨rfl, rfl⟩
  cases hc : S.config? t e with
  | error err => exact ⟨rfl, fun h => absurd rfl h⟩
  | ok c? =>
    refine .bind (leaves_useSchema S _ values m.today)
      (counts_access (fun d => rfl) fun result => ?_)
    refine .bind (leaves_observe _) (counts_observe ?_)
    cases result with
    | ok validated =>
      refine .bind (leaves_observe _) (counts_observe ?_)
      exact counts_pure ⟨rfl, fun _ => ⟨c?, rfl⟩⟩
    | error err =>
      cases err with
      | schema err => exact counts_throw ⟨rfl, fun _ => ⟨c?, rfl⟩⟩
      | validation l =>
        refine .bind (leaves_observe _) (counts_observe ?_)
        refine .bind (leaves_forM_observe _ _) (counts_forM_observe ?_)
        refine counts_throw ⟨?_, fun _ => ⟨c?, rfl⟩⟩
        rw [List.append_nil]
        rfl

/-- Where a fresh id is given, what is counted is told by the answer. -/
theorem counts_create (values : Json.Object) :
    Counts S (create t e values m) fun r seen =>
      (S.record? m.freshId = .ok none → seen = observed e m.elapsed r) ∧
        (seen ≠ [] → checkEntityType e = .ok () ∧ ∃ c?, S.config? t e = .ok c?) := by
  refine .bind (leaves_lift fun _ _ => ⟨rfl, trivial⟩) (counts_lift ?_)
  cases hcheck : checkEntityType e with
  | error err =>
    obtain ⟨message, rfl⟩ := exists_invalidInput_of_checkEntityType hcheck
    exact ⟨fun _ => rfl, fun h => absurd rfl h⟩
  | ok =>
    refine .bind (leaves_validate S t e m values) ((counts_validate S t e m values).imp ?_)
    rintro r seen ⟨rfl, hconfig⟩
    cases r with
    | error err => exact ⟨fun _ => rfl, fun h => ⟨rfl, hconfig h⟩⟩
    | ok validated =>
      have hc := hconfig (by rintro ⟨⟩)
      refine counts_store ⟨fun hid => ?_, fun _ => ⟨rfl, hc⟩⟩
      have hserve := Storage.serve_insertRecord_of_record?
        (r := .new m.freshId t e validated m.now) hid
      rw [hserve]
      rfl

/-- Where a record gets other values, what is counted is told by the answer; else nothing is. -/
theorem counts_update (hS : S.Orderly) (values? : Option Json.Object) :
    Counts S (update id values? m) fun r seen =>
      ((values? = none ∨ ∀ old, S.record? id ≠ .ok (some old)) ∧
          seen = [] ∧ refusedIssues r = []) ∨
        ∃ values old, values? = some values ∧ S.record? id = .ok (some old) ∧
          seen = observed old.entityType m.elapsed r ∧
          (seen ≠ [] → ∃ c?, S.config? old.tenantId old.entityType = .ok c?) := by
  refine .bind (leaves_get S id) ((counts_get S id).imp ?_)
  rintro r seen ⟨rfl, rfl⟩
  cases hold : S.record? id with
  | error err => exact Or.inl ⟨Or.inr (by rintro old ⟨⟩), rfl, rfl⟩
  | ok old? =>
    cases old? with
    | none => exact counts_throw (Or.inl ⟨Or.inr (by rintro old ⟨⟩), rfl, rfl⟩)
    | some old =>
      cases values? with
      | none => exact counts_pure (Or.inl ⟨Or.inl rfl, rfl, rfl⟩)
      | some values =>
        obtain rfl := hS.id_of_record? hold
        refine .bind (leaves_validate S old.tenantId old.entityType m values)
          ((counts_validate S old.tenantId old.entityType m values).imp ?_)
        rintro r seen ⟨rfl, hconfig⟩
        cases r with
        | error err => exact Or.inr ⟨values, old, rfl, rfl, rfl, hconfig⟩
        | ok validated =>
          have hserve := Storage.serve_updateRecord_of_record?
            (r := old.replaceData validated m.now) hold
          have hc := hconfig (by rintro ⟨⟩)
          refine counts_store (Or.inr ⟨values, old, rfl, rfl, ?_, fun _ => hc⟩)
          rw [hserve]
          rfl

theorem counts_dryRun (values : Json.Object) :
    Counts S (dryRun t e values m) fun r seen => seen = [] ∧ refusedIssues r = [] := by
  refine .bind (leaves_resolveSchema S t e) ((counts_resolveSchema S t e).imp ?_)
  rintro r seen ⟨rfl, rfl⟩
  cases hc : S.config? t e with
  | error err => exact ⟨rfl, rfl⟩
  | ok c? =>
    cases c? with
    | none => exact counts_pure ⟨rfl, rfl⟩
    | some c =>
      refine .bind (leaves_tryOut S c.schema values m.today)
        (counts_access (fun d => rfl) fun result => ?_)
      cases result with
      | ok report => exact counts_pure ⟨rfl, rfl⟩
      | error err => exact counts_throw ⟨rfl, rfl⟩

end Records

end Services

end CustomFields
