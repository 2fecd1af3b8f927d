import CustomFields.Proofs.Data.Completion
import CustomFields.Proofs.Store.Backends

/-!
# Calls to a persistent store that run at the same time

A call to a persistent store makes one access to a tree, or two where it updates: it looks whether
its key is there, and stores later on. Nothing holds the key in between. But no access ever takes a
key away, so a key that was found is still there when the value is stored, and the update might as
well have been made as a whole at that moment. All other calls are made as a whole anyway. So what
calls leave among each other is what they leave one after the other, in the order of their last
accesses.

## Main definitions

* `PersistentStore.call`: the accesses of a call
* `PersistentStore.has`: a tree has a key
* `StoreAccess.ByKey`: a call that reaches the trees by single keys
* `StoreAccess.Follows`: what a call answers where its key is there, and where it is not
* `PersistentStore.Stage`: how far a call has come

## Main results

* `PersistentStore.effectAtEnd`: a call takes effect where it makes its last access
* `PersistentStore.calls_linearizable`: what calls leave among each other
-/

namespace CustomFields

/-- A call that reaches the trees by single keys; listings scan them. -/
def StoreAccess.ByKey : StoreAccess → Prop
  | .listConfigs _ => False
  | .listRecords _ => False
  | _ => True

/-- A call that replaces what is stored. -/
def StoreAccess.Updates : StoreAccess → Prop
  | .updateConfig _ => True
  | .updateRecord _ => True
  | _ => False

namespace PersistentStore

/-- Whether a tree has a key. -/
def has (s : PersistentStore) : TreeName → Bytes → Bool
  | .configs, key => Entries.contains key s.configs
  | .records, key => Entries.contains key s.records

/-- The accesses of a call, and its answer. -/
def call (x : StoreAccess) : Program interface (Σ x : StoreAccess, Except StoreError x.Result) := do
  let answer ← program x
  return ⟨x, answer⟩

end PersistentStore

/-! ## Keys stay -/

theorem ByteTree.contains_insert_self (t : ByteTree) (key : Bytes) (value : String) :
    Entries.contains key (t.insert key value) = true := by
  rw [Entries.contains, ByteTree.insert, Entries.get?_put_self, Option.isSome_some]

theorem ByteTree.contains_insert_of_ne {key key' : Bytes} (h : key' ≠ key) (t : ByteTree)
    (value : String) :
    Entries.contains key' (t.insert key value) = Entries.contains key' t := by
  rw [Entries.contains, ByteTree.insert, Entries.get?_put_of_ne h, Entries.contains]

/-- A value that is stored under a key of the tree adds none. -/
theorem ByteTree.contains_insert {t : ByteTree} {key : Bytes}
    (h : Entries.contains key t = true) (value : String) (key' : Bytes) :
    Entries.contains key' (t.insert key value) = Entries.contains key' t := by
  by_cases hk : key' = key
  · subst hk
    rw [contains_insert_self, h]
  · exact contains_insert_of_ne hk t value

/-- An access to a tree takes no key away. -/
theorem TreeAccess.contains_serve (x : TreeAccess) {t : ByteTree} {key : Bytes}
    (h : Entries.contains key t = true) : Entries.contains key (x.serve t).2 = true := by
  have hinsert (key' : Bytes) (value : String) :
      Entries.contains key (t.insert key' value) = true := by
    by_cases hk : key = key'
    · subst hk
      exact t.contains_insert_self key value
    · rw [ByteTree.contains_insert_of_ne hk, h]
  cases x with
  | get _ => exact h
  | contains _ => exact h
  | scan _ => exact h
  | insert key' value => exact hinsert key' value
  | insertNew key' value =>
    rw [serve]
    split
    · exact h
    · exact hinsert key' value

namespace PersistentStore

variable {s : PersistentStore} {name : TreeName} {key : Bytes}

/-- An access takes no key away. -/
theorem has_serveTree (x : interface.Access) (s : PersistentStore) (h : s.has name key = true) :
    (serveTree x s).2.has name key = true := by
  obtain ⟨name', x⟩ := x
  cases name <;> cases name'
  · exact x.contains_serve h
  · exact h
  · exact h
  · exact x.contains_serve h

theorem has_storeConfig_self (s : PersistentStore) (c : EntityConfig) :
    (s.storeConfig c).has .configs (configBytes c.tenantId c.entityType) = true :=
  ByteTree.contains_insert_self _ _ _

theorem has_storeRecord_self (s : PersistentStore) (r : Record) :
    (s.storeRecord r).has .records r.id.bytes = true :=
  ByteTree.contains_insert_self _ _ _

/-- A config that takes the place of another one adds no key. -/
theorem has_storeConfig {c : EntityConfig}
    (h : s.has .configs (configBytes c.tenantId c.entityType) = true) (name : TreeName)
    (key : Bytes) : (s.storeConfig c).has name key = s.has name key := by
  cases name with
  | configs => exact ByteTree.contains_insert h _ key
  | records => rfl

theorem has_storeRecord {r : Record} (h : s.has .records r.id.bytes = true) (name : TreeName)
    (key : Bytes) : (s.storeRecord r).has name key = s.has name key := by
  cases name with
  | configs => rfl
  | records => exact ByteTree.contains_insert h _ key

/-! ## How far a call has come -/

/-- What is left of an update that has found its key. -/
def storing (name : TreeName) (key : Bytes) (value : String)
    (answer : Σ x : StoreAccess, Except StoreError x.Result) :
    Program interface (Σ x : StoreAccess, Except StoreError x.Result) :=
  .access (name, .insert key value) fun _ => .done answer

/-- How far a call has come. An update that is to store its value has found its key. -/
inductive Stage : StoreAccess → PersistentStore →
    Program interface (Σ x : StoreAccess, Except StoreError x.Result) → Prop
  | start {x : StoreAccess} {s : PersistentStore} (hx : x.ByKey) : Stage x s (call x)
  | foundConfig {c : EntityConfig} {s : PersistentStore}
      (h : s.has .configs (configBytes c.tenantId c.entityType) = true) :
      Stage (.updateConfig c) s (storing .configs (configBytes c.tenantId c.entityType)
        c.toJson.compact ⟨.updateConfig c, .ok c⟩)
  | foundRecord {r : Record} {s : PersistentStore} (h : s.has .records r.id.bytes = true) :
      Stage (.updateRecord r) s (storing .records r.id.bytes r.toJson.compact
        ⟨.updateRecord r, .ok r⟩)
  | done {x : StoreAccess} {s : PersistentStore}
      (answer : Σ x : StoreAccess, Except StoreError x.Result) : Stage x s (.done answer)

theorem run_call (x : StoreAccess) (s : PersistentStore) :
    (call x).run serveTree s = (⟨x, (serve x s).1⟩, (serve x s).2) :=
  Program.run_bind _ _ _

theorem answer?_call (x : StoreAccess) : (call x).answer? = none := by
  cases x <;> rfl

/-- A program that looks for a key goes on with what it has found, and changes nothing. -/
theorem step_contains (name : TreeName) (key : Bytes)
    (next : Bool → Program interface (Σ x : StoreAccess, Except StoreError x.Result))
    (s : PersistentStore) :
    Program.step serveTree (.access (I := interface) (name, .contains key) next) s =
      (next (s.has name key), s) := by
  cases name <;> rfl

theorem step_updateConfig (c : EntityConfig) (s : PersistentStore) :
    (call (.updateConfig c)).step serveTree s =
      (if s.has .configs (configBytes c.tenantId c.entityType) then
          storing .configs (configBytes c.tenantId c.entityType) c.toJson.compact
            ⟨.updateConfig c, .ok c⟩
        else .done ⟨.updateConfig c, .error (.configNotFound c.tenantId c.entityType)⟩, s) := by
  refine (step_contains .configs (configBytes c.tenantId c.entityType) _ s).trans ?_
  cases s.has .configs (configBytes c.tenantId c.entityType) <;> rfl

theorem step_updateRecord (r : Record) (s : PersistentStore) :
    (call (.updateRecord r)).step serveTree s =
      (if s.has .records r.id.bytes then
          storing .records r.id.bytes r.toJson.compact ⟨.updateRecord r, .ok r⟩
        else .done ⟨.updateRecord r, .error (.recordNotFound r.id)⟩, s) := by
  refine (step_contains .records r.id.bytes _ s).trans ?_
  cases s.has .records r.id.bytes <;> rfl

/-- A call by a key that is no update makes one access. -/
theorem exists_access_of_not_updates {x : StoreAccess} (hx : x.ByKey) (hu : ¬ x.Updates) :
    ∃ y next, call x = .access y next ∧ ∀ answer, (next answer).answer?.isSome := by
  cases x with
  | getConfig t e => exact ⟨_, _, rfl, by rintro (_ | _) <;> rfl⟩
  | createConfig c => exact ⟨_, _, rfl, by rintro (_ | _) <;> rfl⟩
  | getRecord id => exact ⟨_, _, rfl, by rintro (_ | _) <;> rfl⟩
  | insertRecord r => exact ⟨_, _, rfl, by rintro (_ | _) <;> rfl⟩
  | updateConfig c => exact absurd trivial hu
  | updateRecord r => exact absurd trivial hu
  | listConfigs t => exact hx.elim
  | listRecords f => exact hx.elim

/-! ## Taking effect at the end -/

/-- No access takes away what a call has found. -/
theorem Stage.mono {x : StoreAccess} {s s' : PersistentStore}
    {p : Program interface (Σ x : StoreAccess, Except StoreError x.Result)}
    (hkeys : ∀ name key, s.has name key = true → s'.has name key = true) (h : Stage x s p) :
    Stage x s' p := by
  cases h with
  | start hx => exact .start hx
  | foundConfig hkey => exact .foundConfig (hkeys _ _ hkey)
  | foundRecord hkey => exact .foundRecord (hkeys _ _ hkey)
  | done answer => exact .done answer

theorem has_step (p : Program interface (Σ x : StoreAccess, Except StoreError x.Result))
    (s : PersistentStore) (name : TreeName) (key : Bytes) (h : s.has name key = true) :
    (p.step serveTree s).2.has name key = true := by
  cases p with
  | done answer => exact h
  | access x next => exact has_serveTree x s h

/-- An update that has found its key stores its value as if it was made as a whole now. -/
theorem run_of_foundConfig {c : EntityConfig} {s : PersistentStore}
    (h : s.has .configs (configBytes c.tenantId c.entityType) = true) :
    (call (.updateConfig c)).run serveTree s = (⟨.updateConfig c, .ok c⟩, s.storeConfig c) := by
  have hserve : serve (.updateConfig c) s = (.ok c, s.storeConfig c) :=
    (s.run_updateConfig c).trans (if_pos h)
  rw [run_call, hserve]

theorem run_of_foundRecord {r : Record} {s : PersistentStore}
    (h : s.has .records r.id.bytes = true) :
    (call (.updateRecord r)).run serveTree s = (⟨.updateRecord r, .ok r⟩, s.storeRecord r) := by
  have hserve : serve (.updateRecord r) s = (.ok r, s.storeRecord r) :=
    (s.run_updateRecord r).trans (if_pos h)
  rw [run_call, hserve]

/-- **A call takes effect where it makes its last access.** An update that looks for its key in vain
makes no other one. -/
theorem effectAtEnd : EffectAtEnd serveTree call Stage where
  stage {x s p} h := by
    cases h with
    | done answer => exact .done answer
    | foundConfig _ => exact .done _
    | foundRecord _ => exact .done _
    | start hx =>
      by_cases hu : x.Updates
      · cases x with
        | updateConfig c =>
          rw [step_updateConfig]
          split
          · exact .foundConfig ‹_›
          · exact .done _
        | updateRecord r =>
          rw [step_updateRecord]
          split
          · exact .foundRecord ‹_›
          · exact .done _
        | _ => exact hu.elim
      · obtain ⟨y, next, hcall, hnext⟩ := exists_access_of_not_updates hx hu
        obtain ⟨answer, hanswer⟩ := Option.isSome_iff_exists.1 (hnext (serveTree y s).1)
        have hstep : ((call x).step serveTree s).1 = .done answer := by
          rw [hcall]
          exact Program.answer?_eq_some_iff.1 hanswer
        rw [hstep]
        exact .done answer
  keep {x s p} _ y q hq := hq.mono (has_step p s)
  before {x s p} h hnone := by
    cases h with
    | done answer => rfl
    | foundConfig _ => cases hnone
    | foundRecord _ => cases hnone
    | start hx =>
      by_cases hu : x.Updates
      · cases x with
        | updateConfig c => rw [step_updateConfig]
        | updateRecord r => rw [step_updateRecord]
        | _ => exact hu.elim
      · obtain ⟨y, next, hcall, hnext⟩ := exists_access_of_not_updates hx hu
        rw [hcall] at hnone
        have hnone : (next (serveTree y s).1).answer? = none := hnone
        cases hnone ▸ hnext (serveTree y s).1
  effect {x s p a} h hnone hsome := by
    cases h with
    | done answer => cases hnone
    | start hx => exact Program.run_of_step hsome
    | foundConfig hkey =>
      obtain rfl := Option.some.inj hsome
      exact run_of_foundConfig hkey
    | foundRecord hkey =>
      obtain rfl := Option.some.inj hsome
      exact run_of_foundRecord hkey

/-- An access of an update adds no key. -/
theorem Stage.has_step_of_updates {x : StoreAccess} {s : PersistentStore}
    {p : Program interface (Σ x : StoreAccess, Except StoreError x.Result)} (h : Stage x s p)
    (hx : x.Updates) (name : TreeName) (key : Bytes) :
    (p.step serveTree s).2.has name key = s.has name key := by
  cases h with
  | done answer => rfl
  | foundConfig hkey => exact has_storeConfig hkey name key
  | foundRecord hkey => exact has_storeRecord hkey name key
  | start _ =>
    cases x with
    | updateConfig c => rw [step_updateConfig]
    | updateRecord r => rw [step_updateRecord]
    | _ => exact hx.elim

/-- The entry of a schedule that stands for an update adds no key. -/
theorem has_entry_of_updates {calls : List StoreAccess}
    {ps : List (Program interface (Σ x : StoreAccess, Except StoreError x.Result))}
    {s : PersistentStore} (hps : AtStages Stage calls ps s) {i : ℕ} {x : StoreAccess}
    (hi : calls[i]? = some x) (hx : x.Updates) (name : TreeName) (key : Bytes) :
    (runSchedule serveTree [i] ps s).2.has name key = s.has name key := by
  rcases hp : ps[i]? with _ | p
  · simp only [runSchedule, hp]
  · obtain ⟨y, hy, hstage⟩ := hps i p hp
    obtain rfl : x = y := Option.some.inj (hi.symm.trans hy)
    simp only [runSchedule, hp]
    exact hstage.has_step_of_updates hx name key

end PersistentStore

/-! ## What calls leave among each other -/

/-- What a call that writes answers: a thing is created where its key is free, and fails where it is
taken; it is updated where its key is there, and fails where it is not. -/
def StoreAccess.Follows (s : PersistentStore) :
    (x : StoreAccess) → Except StoreError x.Result → Prop
  | .createConfig c, answer =>
    answer = if s.has .configs (PersistentStore.configBytes c.tenantId c.entityType) then
      .error (.configExists c.tenantId c.entityType) else .ok c
  | .updateConfig c, answer =>
    answer = if s.has .configs (PersistentStore.configBytes c.tenantId c.entityType) then
      .ok c else .error (.configNotFound c.tenantId c.entityType)
  | .insertRecord r, answer =>
    answer = if s.has .records r.id.bytes then .error (.recordExists r.id) else .ok r
  | .updateRecord r, answer =>
    answer = if s.has .records r.id.bytes then .ok r else .error (.recordNotFound r.id)
  | _, _ => True

namespace PersistentStore

theorem follows_serve (x : StoreAccess) (s : PersistentStore) : x.Follows s (serve x s).1 := by
  cases x with
  | createConfig c =>
    exact (congrArg Prod.fst (s.run_createConfig c)).trans (apply_ite Prod.fst _ _ _)
  | updateConfig c =>
    exact (congrArg Prod.fst (s.run_updateConfig c)).trans (apply_ite Prod.fst _ _ _)
  | insertRecord r =>
    exact (congrArg Prod.fst (s.run_insertRecord r)).trans (apply_ite Prod.fst _ _ _)
  | updateRecord r =>
    exact (congrArg Prod.fst (s.run_updateRecord r)).trans (apply_ite Prod.fst _ _ _)
  | _ => trivial

/-- The key under which a call creates a thing. -/
def creates? : StoreAccess → Option (TreeName × Bytes)
  | .createConfig c => some (.configs, configBytes c.tenantId c.entityType)
  | .insertRecord r => some (.records, r.id.bytes)
  | _ => none

/-- Behind a call that creates a thing its key is there, and the call fails where it was before. -/
theorem serve_of_creates {x : StoreAccess} {name : TreeName} {key : Bytes}
    (hx : creates? x = some (name, key)) (s : PersistentStore) :
    (serve x s).2.has name key = true ∧
      (s.has name key = true → ∃ err, (serve x s).1 = .error err) := by
  cases x with
  | createConfig c =>
    cases hx
    by_cases h : s.has .configs (configBytes c.tenantId c.entityType) = true
    · have hserve : serve (.createConfig c) s = (.error _, s) :=
        (s.run_createConfig c).trans (if_pos h)
      rw [hserve]
      exact ⟨h, fun _ => ⟨_, rfl⟩⟩
    · have hserve : serve (.createConfig c) s = (.ok c, s.storeConfig c) :=
        (s.run_createConfig c).trans (if_neg h)
      rw [hserve]
      exact ⟨s.has_storeConfig_self c, fun h' => absurd h' h⟩
  | insertRecord r =>
    cases hx
    by_cases h : s.has .records r.id.bytes = true
    · have hserve : serve (.insertRecord r) s = (.error _, s) :=
        (s.run_insertRecord r).trans (if_pos h)
      rw [hserve]
      exact ⟨h, fun _ => ⟨_, rfl⟩⟩
    · have hserve : serve (.insertRecord r) s = (.ok r, s.storeRecord r) :=
        (s.run_insertRecord r).trans (if_neg h)
      rw [hserve]
      exact ⟨s.has_storeRecord_self r, fun h' => absurd h' h⟩
  | _ => cases hx

/-- A call is done within two accesses. -/
theorem endsWithin_call {x : StoreAccess} (hx : x.ByKey) : (call x).EndsWithin 2 := by
  by_cases hu : x.Updates
  · cases x with
    | updateConfig c =>
      rintro (_ | _)
      · trivial
      · exact fun _ => trivial
    | updateRecord r =>
      rintro (_ | _)
      · trivial
      · exact fun _ => trivial
    | _ => exact hu.elim
  · obtain ⟨y, next, hcall, hnext⟩ := exists_access_of_not_updates hx hu
    rw [hcall]
    intro answer
    obtain ⟨a, ha⟩ := Option.isSome_iff_exists.1 (hnext answer)
    rw [Program.answer?_eq_some_iff.1 ha]
    trivial

/-- A call in a place has created the config of a pair. -/
def CreatesConfig
    (programs : List (Program interface (Σ x : StoreAccess, Except StoreError x.Result)))
    (t : Uuid) (e : String) (i : ℕ) : Prop :=
  ∃ c stored, programs[i]? = some (.done ⟨.createConfig c, .ok stored⟩) ∧
    c.tenantId = t ∧ c.entityType = e

/-- A call in a place has inserted the record with an id. -/
def InsertsRecord
    (programs : List (Program interface (Σ x : StoreAccess, Except StoreError x.Result)))
    (id : Uuid) (i : ℕ) : Prop :=
  ∃ r stored, programs[i]? = some (.done ⟨.insertRecord r, .ok stored⟩) ∧ r.id = id

section Linearizes

variable {calls : List StoreAccess} {s₀ : PersistentStore} {schedule order : List ℕ}
  {programs : List (Program interface (Σ x : StoreAccess, Except StoreError x.Result))}
  {s : PersistentStore}

/-- The answer of a call is the one that it has alone behind those that come before it. -/
theorem answer_of_linearizes (h : Linearizes serveTree (calls.map call) s₀ schedule order)
    (hrun : runSchedule serveTree schedule (calls.map call) s₀ = (programs, s))
    {earlier later : List ℕ} {i : ℕ} (horder : order = earlier ++ i :: later) :
    ∃ x, calls[i]? = some x ∧ programs[i]? = some (.done ⟨x, (serve x
      (stateInTurn serveTree (earlier.filterMap fun j => (calls.map call)[j]?) s₀)).1⟩) := by
  obtain ⟨p, hp, hanswer⟩ := h.answer earlier i later horder
  rw [List.getElem?_map] at hp
  obtain ⟨x, hx, rfl⟩ := Option.map_eq_some_iff.1 hp
  rw [hrun, run_call] at hanswer
  exact ⟨x, hx, hanswer⟩

/-- A call that creates a thing fails behind another one that creates it. -/
theorem exists_error_of_creates (h : Linearizes serveTree (calls.map call) s₀ schedule order)
    (hrun : runSchedule serveTree schedule (calls.map call) s₀ = (programs, s))
    {i j : ℕ} (hij : [i, j].Sublist order) {x y : StoreAccess} {name : TreeName} {key : Bytes}
    (hx : creates? x = some (name, key)) (hi : calls[i]? = some x)
    (hy : creates? y = some (name, key)) (hj : calls[j]? = some y) :
    ∃ err, programs[j]? = some (.done ⟨y, .error err⟩) := by
  -- the one that comes first, those between the two, and the second
  obtain ⟨first, second, rfl, hfirst, hsecond⟩ := List.cons_sublist_iff.1 hij
  obtain ⟨before, between, rfl⟩ := List.append_of_mem hfirst
  obtain ⟨between', later, rfl⟩ := List.append_of_mem (List.singleton_sublist.1 hsecond)
  have hsplit : (before ++ i :: between) ++ (between' ++ j :: later) =
      (before ++ i :: between ++ between') ++ j :: later := (List.append_assoc _ _ _).symm
  obtain ⟨y', hy', hanswer⟩ := answer_of_linearizes h hrun hsplit
  obtain rfl : y' = y := Option.some.inj (hy'.symm.trans hj)
  have hcall : (calls.map call)[i]? = some (call x) := by
    rw [List.getElem?_map, hi, Option.map_some]
  -- the key is there behind the first one, and stays there
  rw [List.append_assoc, List.filterMap_append, List.cons_append,
    List.filterMap_cons_some hcall, stateInTurn_append] at hanswer
  set behind := stateInTurn serveTree (before.filterMap fun j => (calls.map call)[j]?) s₀
  have hkey : ((call x).run serveTree behind).2.has name key = true := by
    rw [run_call]
    exact (serve_of_creates hx behind).1
  have hstays : (fun s : PersistentStore => s.has name key = true) (stateInTurn serveTree
      ((between ++ between').filterMap fun j => (calls.map call)[j]?)
      ((call x).run serveTree behind).2) :=
    stateInTurn_invariant has_serveTree _ hkey
  obtain ⟨err, herr⟩ := (serve_of_creates hy _).2 hstays
  refine ⟨err, hanswer.trans ?_⟩
  rw [← herr]
  rfl

/-- Of the calls that create a thing one succeeds at most. -/
theorem eq_of_creates (h : Linearizes serveTree (calls.map call) s₀ schedule order)
    (hrun : runSchedule serveTree schedule (calls.map call) s₀ = (programs, s))
    {i j : ℕ} {x y : StoreAccess} {key : TreeName × Bytes}
    (hx : creates? x = some key) (hy : creates? y = some key)
    {a : x.Result} {b : y.Result} (hi : programs[i]? = some (.done ⟨x, .ok a⟩))
    (hj : programs[j]? = some (.done ⟨y, .ok b⟩)) : i = j := by
  have hmem {k : ℕ} {z : StoreAccess} {r : Except StoreError z.Result}
      (hk : programs[k]? = some (.done ⟨z, r⟩)) : k ∈ order ∧ calls[k]? = some z := by
    have hk' : k ∈ order := (h.mem_iff k).2 ⟨_, (congrArg (·.1[k]?) hrun).trans hk⟩
    obtain ⟨earlier, later, horder⟩ := List.append_of_mem hk'
    obtain ⟨z', hz', hanswer⟩ := answer_of_linearizes h hrun horder
    obtain ⟨rfl, -⟩ := Sigma.mk.inj (Program.done.inj (Option.some.inj (hk.symm.trans hanswer)))
    exact ⟨hk', hz'⟩
  obtain ⟨hiorder, hicall⟩ := hmem hi
  obtain ⟨hjorder, hjcall⟩ := hmem hj
  by_contra hne
  -- the one that comes second has failed
  rcases pair_sublist_or hiorder hjorder hne with hij | hji
  · obtain ⟨err, herr⟩ := exists_error_of_creates h hrun hij hx hicall hy hjcall
    cases Option.some.inj (hj.symm.trans herr)
  · obtain ⟨err, herr⟩ := exists_error_of_creates h hrun hji hy hjcall hx hicall
    cases Option.some.inj (hi.symm.trans herr)

end Linearizes

/-- **What calls leave among each other** is what they leave one after the other, in the order in
which they are done, whatever the schedule and the store that they start from. Each call is done
when it has been scheduled twice. In this order a thing is created exactly where its key is free,
and updated exactly where its key is there; so one call at most creates the config of a pair or
inserts the record with an id, and an update never adds a key. -/
theorem calls_linearizable (calls : List StoreAccess) (hcalls : ∀ x ∈ calls, x.ByKey)
    (s₀ : PersistentStore) (schedule : List ℕ) {order : List ℕ}
    {programs : List (Program interface (Σ x : StoreAccess, Except StoreError x.Result))}
    {s : PersistentStore}
    (hrun : runSchedule serveTree schedule (calls.map call) s₀ = (programs, s))
    (horder : completions serveTree schedule (calls.map call) s₀ = order) :
    Linearizes serveTree (calls.map call) s₀ schedule order ∧
      (∀ i < calls.length, 2 ≤ schedule.count i → i ∈ order) ∧
      (∀ earlier i later, order = earlier ++ i :: later → ∃ x answer,
        calls[i]? = some x ∧ programs[i]? = some (.done ⟨x, answer⟩) ∧
          x.Follows (stateInTurn serveTree (earlier.filterMap fun j => (calls.map call)[j]?) s₀)
            answer) ∧
      (∀ t e i j, CreatesConfig programs t e i → CreatesConfig programs t e j → i = j) ∧
      (∀ id i j, InsertsRecord programs id i → InsertsRecord programs id j → i = j) ∧
      ∀ first i second x, schedule = first ++ i :: second → calls[i]? = some x → x.Updates →
        ∀ name key,
          (runSchedule serveTree (first ++ [i]) (calls.map call) s₀).2.has name key =
            (runSchedule serveTree first (calls.map call) s₀).2.has name key := by
  have hstart : ∀ x ∈ calls, Stage x s₀ (call x) ∧ (call x).answer? = none :=
    fun x hx => ⟨.start (hcalls x hx), answer?_call x⟩
  have h := effectAtEnd.linearizes hstart schedule
  rw [horder] at h
  refine ⟨h, fun i hi hcount => ?_, fun earlier i later hsplit => ?_, ?_, ?_, ?_⟩
  · have hcall : (calls.map call)[i]? = some (call calls[i]) := by
      rw [List.getElem?_map, List.getElem?_eq_getElem hi, Option.map_some]
    exact (h.mem_iff i).2
      (runSchedule_done hcount hcall (endsWithin_call (hcalls _ (List.getElem_mem hi))) s₀)
  · obtain ⟨x, hx, hanswer⟩ := answer_of_linearizes h hrun hsplit
    exact ⟨x, _, hx, hanswer, follows_serve x _⟩
  · rintro t e i j ⟨c, a, hi, rfl, rfl⟩ ⟨c', b, hj, ht, he⟩
    have hc' : creates? (.createConfig c') =
        some (.configs, configBytes c.tenantId c.entityType) := by
      rw [creates?, ht, he]
    exact eq_of_creates h hrun rfl hc' hi hj
  · rintro id i j ⟨r, a, hi, rfl⟩ ⟨r', b, hj, hid⟩
    have hr' : creates? (.insertRecord r') = some (.records, r.id.bytes) := by
      rw [creates?, hid]
    exact eq_of_creates h hrun rfl hr' hi hj
  · rintro first i second x rfl hx hu name key
    have hstages := effectAtEnd.atStages_runSchedule
      (atStages_start fun y hy => (hstart y hy).1) first
    rw [runSchedule_append]
    exact has_entry_of_updates hstages hx hu name key

/-- Two calls create the config of one pair, and two update it. -/
def racingCalls : List StoreAccess :=
  [.createConfig slashConfig, .createConfig slashConfig, .updateConfig slashConfig,
    .insertRecord blankRecord, .updateConfig slashConfig]

/-- One update looks for the config too early, and the other one is overtaken before it stores. -/
def racingSchedule : List ℕ :=
  [4, 0, 2, 1, 3, 2]

theorem calls_linearizable_racingCalls :
    (∀ x ∈ racingCalls, x.ByKey) ∧
      completions serveTree racingSchedule (racingCalls.map call) .empty = [4, 0, 1, 3, 2] ∧
      Linearizes serveTree (racingCalls.map call) .empty racingSchedule [4, 0, 1, 3, 2] := by
  have hcalls : ∀ x ∈ racingCalls, x.ByKey := by
    simp [racingCalls, StoreAccess.ByKey]
  have horder : completions serveTree racingSchedule (racingCalls.map call) .empty =
      [4, 0, 1, 3, 2] := by
    decide +kernel
  exact ⟨hcalls, horder,
    (calls_linearizable racingCalls hcalls .empty racingSchedule Prod.mk.eta.symm horder).1⟩

end PersistentStore

end CustomFields
