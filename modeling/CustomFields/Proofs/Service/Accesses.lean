import CustomFields.Proofs.Store.Storage
import CustomFields.Proofs.Validation.CacheCalls
import CustomFields.Service.Basic

/-!
# The accesses of a call

A call is a program that may fail, over accesses to the state that calls share. What it does is told
by what each of its steps does: a step that fails ends it, and one that answers goes on with the
next. An access leaves more than it says in the shared state, a compilation in the cache or a count
in the metrics; of that, only that the cache stays sound is kept in view.

## Main definitions

* `Deployment.Becomes`: the storage changes to another one, and nothing else that shows

## Main results

* `Call.bind_cases`: how a call that goes on with another one ends
* `Call.store_cases`, `Call.compile_cases`, `Call.observe_cases`: what the accesses do
-/

namespace CustomFields

/-! ## Results with other errors -/

theorem mapError_eq_ok_iff {ε ε' α : Type} {g : ε → ε'} {r : Except ε α} {a : α} :
    r.mapError g = .ok a ↔ r = .ok a := by
  cases r with
  | error err => exact iff_of_false (by rintro ⟨⟩) (by rintro ⟨⟩)
  | ok b => exact ⟨fun h => congrArg _ (Except.ok.inj h), fun h => congrArg _ (Except.ok.inj h)⟩

theorem mapError_eq_error_iff {ε ε' α : Type} {g : ε → ε'} {r : Except ε α} {err : ε'} :
    r.mapError g = .error err ↔ ∃ err₀, r = .error err₀ ∧ err = g err₀ := by
  cases r with
  | error err₀ =>
    constructor
    · rintro ⟨⟩
      exact ⟨err₀, rfl, rfl⟩
    · rintro ⟨_, ⟨⟩, rfl⟩
      rfl
  | ok b => exact iff_of_false (by rintro ⟨⟩) (by rintro ⟨_, ⟨⟩, -⟩)

/-! ## Running calls -/

namespace Call

variable {α β : Type} {d d' : Deployment}

theorem run_bind (c : Call α) (f : α → Call β) (d : Deployment) :
    (c >>= f).run d = match c.run d with
      | (.ok a, d') => (f a).run d'
      | (.error e, d') => (.error e, d') := by
  show Program.run Deployment.serve (ExceptT.run c >>= ExceptT.bindCont f) d = _
  rw [Program.run_bind]
  simp only [Call.run]
  rcases Program.run Deployment.serve (ExceptT.run c) d with ⟨_ | a, d'⟩
  · rfl
  · rfl

theorem run_bind_ok {c : Call α} {f : α → Call β} {a : α} (h : c.run d = (.ok a, d')) :
    (c >>= f).run d = (f a).run d' := by
  rw [run_bind, h]

theorem run_access (x : ServiceAccess) (d : Deployment) :
    (access x).run d = (.ok (d.serve x).1, (d.serve x).2) := rfl

theorem run_store (x : StoreAccess) (d : Deployment) :
    (store x).run d =
      ((d.storage.serve x).1.mapError .store, { d with storage := (d.storage.serve x).2 }) := by
  rw [store, run_bind, run_access]
  simp only [Deployment.serve]
  cases (d.storage.serve x).1 <;> rfl

theorem run_compile (s : Schema) (d : Deployment) :
    (compile s).run d =
      ((d.cache.getOrCompile s).1.mapError .schema,
        { d with cache := (d.cache.getOrCompile s).2 }) := by
  rw [compile, run_bind, run_access]
  simp only [Deployment.serve]
  cases (d.cache.getOrCompile s).1 <;> rfl

/-- A call that goes on with another one has run that one, or has failed before it. -/
theorem bind_cases {c : Call α} {f : α → Call β} {answer : Except ServiceError β}
    (h : (c >>= f).run d = (answer, d')) :
    (∃ e, c.run d = (.error e, d') ∧ answer = .error e) ∨
      ∃ a d₁, c.run d = (.ok a, d₁) ∧ (f a).run d₁ = (answer, d') := by
  rw [run_bind] at h
  rcases hc : c.run d with ⟨e | a, d₁⟩
  · rw [hc] at h
    obtain ⟨rfl, rfl⟩ := Prod.mk.inj h
    exact Or.inl ⟨e, rfl, rfl⟩
  · rw [hc] at h
    exact Or.inr ⟨a, d₁, rfl, h⟩

theorem pure_cases {a : α} {answer : Except ServiceError α}
    (h : (pure a : Call α).run d = (answer, d')) : answer = .ok a ∧ d' = d :=
  ⟨(congrArg Prod.fst h).symm, (congrArg Prod.snd h).symm⟩

theorem throw_cases {e : ServiceError} {answer : Except ServiceError α}
    (h : (throw e : Call α).run d = (answer, d')) : answer = .error e ∧ d' = d :=
  ⟨(congrArg Prod.fst h).symm, (congrArg Prod.snd h).symm⟩

theorem lift_cases {r : Except ServiceError α} {answer : Except ServiceError α}
    (h : (liftM r : Call α).run d = (answer, d')) : answer = r ∧ d' = d := by
  cases r with
  | ok a => exact pure_cases h
  | error e => exact throw_cases h

theorem access_cases {x : ServiceAccess} {answer : Except ServiceError (serviceInterface.Answer x)}
    (h : (access x).run d = (answer, d')) : answer = .ok (d.serve x).1 ∧ d' = (d.serve x).2 :=
  ⟨(congrArg Prod.fst h).symm, (congrArg Prod.snd h).symm⟩

end Call

namespace Deployment

/-- The storage of a deployment changes to `S`; the engine stays as it is, and a sound cache stays
sound. -/
structure Becomes (used : List Schema) (d : Deployment) (S : Storage) (d' : Deployment) : Prop where
  engine : d'.engine = d.engine
  storage : d'.storage = S
  cache : d.cache.Sound used → d'.cache.Sound used

variable {used : List Schema} {d d₁ d₂ d' : Deployment} {S S' : Storage}

theorem becomes_self (used : List Schema) (d : Deployment) : d.Becomes used d.storage d :=
  ⟨rfl, rfl, id⟩

theorem Becomes.trans (h : d.Becomes used S d₁) (h' : d₁.Becomes used S' d₂) :
    d.Becomes used S' d₂ :=
  ⟨h'.engine.trans h.engine, h'.storage, fun hc => h'.cache (h.cache hc)⟩

/-- What comes after it leaves the storage as it is. -/
theorem Becomes.keep (h : d.Becomes used S d₁) (h' : d₁.Becomes used d₁.storage d₂) :
    d.Becomes used S d₂ :=
  h.storage ▸ h.trans h'

end Deployment

namespace Call

variable (used : List Schema) {d d' : Deployment}

/-- An access to the store. -/
theorem store_cases {x : StoreAccess} {answer : Except ServiceError x.Result}
    (h : (store x).run d = (answer, d')) :
    answer = (d.storage.serve x).1.mapError .store ∧ d.Becomes used (d.storage.serve x).2 d' := by
  obtain ⟨e, h₁, rfl⟩ | ⟨a, d₁, h₁, h₂⟩ := bind_cases h
  · cases (access_cases h₁).1
  · obtain ⟨ha, rfl⟩ := access_cases h₁
    have ha : a = (d.storage.serve x).1 := Except.ok.inj ha
    -- the answer of the store is the answer of the call, or its failure
    rw [← ha]
    have hb : d.Becomes used (d.storage.serve x).2 (d.serve (.store x)).2 := ⟨rfl, rfl, id⟩
    cases a with
    | ok r =>
      obtain ⟨rfl, rfl⟩ := pure_cases h₂
      exact ⟨rfl, hb⟩
    | error e =>
      obtain ⟨rfl, rfl⟩ := throw_cases h₂
      exact ⟨rfl, hb⟩

/-- An access that only reads. -/
theorem read_cases {x : StoreAccess} {r : Except StoreError x.Result}
    (hx : d.storage.serve x = (r, d.storage)) {answer : Except ServiceError x.Result}
    (h : (store x).run d = (answer, d')) :
    d.Becomes used d.storage d' ∧
      ((∃ e, answer = .error (.store e)) ∨ ∃ a, r = .ok a ∧ answer = .ok a) := by
  obtain ⟨hanswer, hb⟩ := store_cases used h
  rw [hx] at hanswer hb
  refine ⟨hb, ?_⟩
  cases r with
  | error e => exact Or.inl ⟨e, hanswer⟩
  | ok a => exact Or.inr ⟨a, rfl, hanswer⟩

/-- An access that stores a thing or fails. -/
theorem write_cases {x : StoreAccess} {e : StoreError} {r : x.Result} {S : Storage}
    (hx : d.storage.serve x = (.error e, d.storage) ∨ d.storage.serve x = (.ok r, S))
    {answer : Except ServiceError x.Result} (h : (store x).run d = (answer, d')) :
    (answer = .error (.store e) ∧ d.Becomes used d.storage d') ∨
      answer = .ok r ∧ d.Becomes used S d' := by
  have hcases := store_cases used h
  rcases hx with hx | hx
  · rw [hx] at hcases
    exact Or.inl hcases
  · rw [hx] at hcases
    exact Or.inr hcases

variable {used} in
/-- A schema that has been used is compiled as if there was no cache. -/
theorem compile_cases (free : CollisionFree used) {s : Schema} (hs : s ∈ used)
    (hd : d.cache.Sound used) {answer : Except ServiceError Compilation}
    (h : (compile s).run d = (answer, d')) :
    d.Becomes used d.storage d' ∧
      ∀ k, answer = .ok k → CompiledSchema.compile s = .ok k.schema := by
  obtain ⟨hsound, hanswer⟩ := hd.getOrCompile free hs
  obtain ⟨e, h₁, rfl⟩ | ⟨a, d₁, h₁, h₂⟩ := bind_cases h
  · cases (access_cases h₁).1
  · obtain ⟨ha, rfl⟩ := access_cases h₁
    have ha : a = (d.cache.getOrCompile s).1 := Except.ok.inj ha
    have hb : d.Becomes used d.storage (d.serve (.compile s)).2 := ⟨rfl, rfl, fun _ => hsound⟩
    rw [← ha] at hanswer
    cases a with
    | ok k =>
      obtain ⟨rfl, rfl⟩ := pure_cases h₂
      refine ⟨hb, ?_⟩
      rintro k' ⟨⟩
      exact hanswer.symm
    | error e =>
      obtain ⟨rfl, rfl⟩ := throw_cases h₂
      exact ⟨hb, by rintro k ⟨⟩⟩

/-- An observation is counted, and nothing else happens. -/
theorem observe_cases {o : Observation} {answer : Except ServiceError Unit}
    (h : (observe o).run d = (answer, d')) : answer = .ok () ∧ d.Becomes used d.storage d' := by
  obtain ⟨rfl, rfl⟩ := access_cases h
  exact ⟨rfl, rfl, rfl, id⟩

/-- An access that stores a thing and is counted when it has. -/
theorem write_observe_cases {x : StoreAccess} {e : StoreError} {r : x.Result} {S : Storage}
    {o : Observation}
    (hx : d.storage.serve x = (.error e, d.storage) ∨ d.storage.serve x = (.ok r, S))
    {answer : Except ServiceError x.Result}
    (h : (do let stored ← store x; observe o; return stored : Call x.Result).run d = (answer, d')) :
    (answer = .error (.store e) ∧ d.Becomes used d.storage d') ∨
      answer = .ok r ∧ d.Becomes used S d' := by
  obtain ⟨err, h₁, rfl⟩ | ⟨stored, d₁, h₁, h₂⟩ := bind_cases h
  · obtain ⟨herr, hb⟩ | ⟨⟨⟩, -⟩ := write_cases used hx h₁
    rw [Except.error.inj herr]
    exact Or.inl ⟨rfl, hb⟩
  -- it is counted only where it has been stored, and counting cannot fail
  obtain ⟨⟨⟩, -⟩ | ⟨hstored, hb⟩ := write_cases used hx h₁
  obtain rfl := Except.ok.inj hstored
  obtain ⟨err, h₃, rfl⟩ | ⟨⟨⟩, d₂, h₃, h₄⟩ := bind_cases h₂
  · cases (observe_cases used h₃).1
  obtain ⟨-, hb'⟩ := observe_cases used h₃
  obtain ⟨rfl, rfl⟩ := pure_cases h₄
  exact Or.inr ⟨rfl, hb.keep hb'⟩

end Call

end CustomFields
