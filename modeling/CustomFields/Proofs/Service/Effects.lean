import CustomFields.Proofs.Service.Runs

/-!
# What calls leave in the storage

A call may have done much before it fails: it has compiled a schema, read a config or a record, and
counted what it has found. None of this is kept in the storage, and the only access that changes it
is the last one that can fail, which leaves it as it is where it does. So what a call leaves is told
by its answer alone, in every state and whatever the cache holds: the storage that it found if it
has failed, and else what that last access has made of it.

## Main definitions

* `Call.Leaves`: what a call leaves of a storage that it finds
* `ServiceCall.Does`: what a call has done that has not failed
* `ServiceEvent.Idle`: a call that has failed or only reads

## Main results

* `Call.Leaves.bind`: calls that go on with each other
* `ServiceCall.leaves`: a call fails and leaves the storage as it is, or has done its work
* `Deployment.storage_of_runCalls`: what every call keeps that does its work is kept by a run
* `storage_of_idle_calls`: calls that fail or only read change nothing that is stored
-/

namespace CustomFields

/-! ## Accesses that fail -/

/-- An access that fails leaves a storage as it is. -/
theorem Storage.eq_of_serve_error {S S' : Storage} {x : StoreAccess} {err : StoreError}
    (h : S.serve x = (.error err, S')) : S' = S := by
  have hread (hx : (S.serve x).2 = S) : S' = S := (congrArg Prod.snd h).symm.trans hx
  have hwrite {err' : StoreError} {a : x.Result} {S₁ : Storage}
      (hx : S.serve x = (.error err', S) ∨ S.serve x = (.ok a, S₁)) : S' = S := by
    rcases hx with hx | hx
    · exact hread (congrArg Prod.snd hx)
    · cases congrArg Prod.fst (h.symm.trans hx)
  -- an access reads, or it stores a thing unless it refuses to
  cases x with
  | getConfig t e => exact hread (congrArg Prod.snd (S.serve_getConfig t e))
  | createConfig c => exact hwrite (S.serve_createConfig c)
  | updateConfig c => exact hwrite (S.serve_updateConfig c)
  | listConfigs t => exact hread (S.serve_listConfigs t)
  | getRecord id => exact hread (congrArg Prod.snd (S.serve_getRecord id))
  | insertRecord r => exact hwrite (S.serve_insertRecord r)
  | updateRecord r => exact hwrite (S.serve_updateRecord r)
  | listRecords f => exact hread (S.serve_listRecords f)

/-- An access that has not failed has stored what it was given, if it changes anything. -/
theorem Storage.eq_of_serve_ok {S S' S₁ : Storage} {x : StoreAccess} {err : StoreError}
    {a a' : x.Result}
    (hx : S.serve x = (.error err, S) ∨ S.serve x = (.ok a, S₁)) (h : S.serve x = (.ok a', S')) :
    S' = S₁ := by
  rcases hx with hx | hx
  · cases congrArg Prod.fst (hx.symm.trans h)
  · exact (congrArg Prod.snd (hx.symm.trans h)).symm

/-- A compiled schema lets a payload through as it is. -/
theorem Engine.eq_of_validateCompiled {e : Engine} {k : CompiledSchema}
    {values validated : Json.Object} {today : Calendar.Date}
    (h : e.validateCompiled k values today = .ok validated) : validated = values := by
  unfold validateCompiled at h
  split at h
  · exact (Except.ok.inj h).symm
  · cases h

/-- A payload that is let through is returned as it is, with any cache. -/
theorem Engine.eq_of_validateOptional (e : Engine) {cache : SchemaCache} {s? : Option Schema}
    {values validated : Json.Object} {today : Calendar.Date}
    (h : (e.validateOptional cache s? values today).1 = .ok validated) : validated = values := by
  cases s? with
  | none => exact (Except.ok.inj h).symm
  | some s =>
    rw [validateOptional, validate] at h
    split at h
    · cases h
    · rename_i k cache' _
      split at h
      · rename_i v hv
        obtain rfl := Except.ok.inj h
        exact eq_of_validateCompiled hv
      · cases h

/-! ## What a call leaves -/

namespace Call

variable {α β : Type} {S : Storage}

/-- A call that finds a storage fails and leaves it as it is, or `Post` holds of its answer and of
the storage that it leaves. -/
def Leaves (S : Storage) (c : Call α) (Post : α → Storage → Prop) : Prop :=
  ∀ d : Deployment, d.storage = S →
    (∃ err, (c.run d).1 = .error err ∧ (c.run d).2.storage = S) ∨
      ∃ a, (c.run d).1 = .ok a ∧ Post a (c.run d).2.storage

variable {Post Post' : α → Storage → Prop} {c : Call α}

theorem Leaves.imp (h : Leaves S c Post) (himp : ∀ a S', Post a S' → Post' a S') :
    Leaves S c Post' :=
  fun d hd => (h d hd).imp_right fun ⟨a, ha, hpost⟩ => ⟨a, ha, himp _ _ hpost⟩

theorem leaves_pure {a : α} (h : Post a S) : Leaves S (pure a) Post :=
  fun d hd => Or.inr ⟨a, rfl, show Post a d.storage from hd ▸ h⟩

theorem leaves_throw {e : ServiceError} : Leaves S (throw e) Post :=
  fun _ hd => Or.inl ⟨e, rfl, hd⟩

theorem leaves_lift {r : Except ServiceError α} (h : ∀ a, r = .ok a → Post a S) :
    Leaves S (liftM r) Post := by
  cases r with
  | ok a => exact leaves_pure (h a rfl)
  | error e => exact leaves_throw

/-- A call that leaves the storage as it is and goes on with another one. -/
theorem Leaves.bind {Q : α → Prop} {f : α → Call β} {Post' : β → Storage → Prop}
    (h : Leaves S c fun a S' => S' = S ∧ Q a) (hf : ∀ a, Q a → Leaves S (f a) Post') :
    Leaves S (c >>= f) Post' := by
  intro d hd
  rw [run_bind]
  rcases hc : c.run d with ⟨r, d₁⟩
  obtain ⟨err, herr, hS⟩ | ⟨a, ha, hS, hq⟩ := h d hd
  · rw [hc] at herr hS
    obtain rfl : r = .error err := herr
    exact Or.inl ⟨err, rfl, hS⟩
  · rw [hc] at ha hS
    obtain rfl : r = .ok a := ha
    exact hf a hq d₁ hS

theorem leaves_access {x : ServiceAccess} {Q : serviceInterface.Answer x → Prop}
    (h : ∀ d : Deployment, d.storage = S → (d.serve x).2.storage = S ∧ Q (d.serve x).1) :
    Leaves S (access x) fun a S' => S' = S ∧ Q a :=
  fun d hd => Or.inr ⟨_, rfl, h d hd⟩

/-- An access to the store that fails changes nothing. -/
theorem leaves_store (x : StoreAccess) :
    Leaves S (store x) fun a S' => S.serve x = (.ok a, S') := by
  rintro d rfl
  rw [run_store]
  rcases hserve : d.storage.serve x with ⟨err | a, S'⟩
  · exact Or.inl ⟨.store err, rfl, Storage.eq_of_serve_error hserve⟩
  · exact Or.inr ⟨a, rfl, rfl⟩

/-- An access that stores a thing answers it. -/
theorem leaves_write {x : StoreAccess} {err : StoreError} {a : x.Result} {S₁ : Storage}
    (hx : S.serve x = (.error err, S) ∨ S.serve x = (.ok a, S₁)) :
    Leaves S (store x) fun a' S' => a' = a ∧ S.serve x = (.ok a, S') := by
  refine (leaves_store x).imp fun a' S' hserve => ?_
  rcases hx with hx | hx
  · cases congrArg Prod.fst (hx.symm.trans hserve)
  · obtain ⟨ha, rfl⟩ := Prod.mk.inj (hx.symm.trans hserve)
    exact ⟨(Except.ok.inj ha).symm, hx⟩

theorem leaves_compile (s : Schema) : Leaves S (compile s) fun _ S' => S' = S ∧ True := by
  intro d hd
  rw [run_compile]
  rcases (d.cache.getOrCompile s).1 with err | k
  · exact Or.inl ⟨.schema err, rfl, hd⟩
  · exact Or.inr ⟨k, rfl, hd, trivial⟩

theorem leaves_observe (o : Observation) : Leaves S (observe o) fun _ S' => S' = S ∧ True :=
  leaves_access fun _ hd => ⟨hd, trivial⟩

theorem leaves_forM_observe {ι : Type} (xs : List ι) (f : ι → Observation) :
    Leaves S (xs.forM fun x => observe (f x)) fun _ S' => S' = S ∧ True := by
  induction xs with
  | nil => exact leaves_pure ⟨rfl, trivial⟩
  | cons x xs ih => exact (leaves_observe (f x)).bind fun _ _ => ih

/-- What has been stored stays so when it is counted, and counting cannot fail. -/
theorem Leaves.observed (h : Leaves S c Post) (o : Observation) :
    Leaves S (do let a ← c; observe o; return a) Post := by
  intro d hd
  rw [run_bind]
  rcases hc : c.run d with ⟨r, d₁⟩
  obtain ⟨err, herr, hS⟩ | ⟨a, ha, hpost⟩ := h d hd
  · rw [hc] at herr hS
    obtain rfl : r = .error err := herr
    exact Or.inl ⟨err, rfl, hS⟩
  · rw [hc] at ha hpost
    obtain rfl : r = .ok a := ha
    exact Or.inr ⟨a, rfl, hpost⟩

end Call

/-! ## The calls of the services -/

section Services

open Call

variable (S : Storage) (t : Uuid) (e : String) (id : Uuid) (m : Moment)

namespace Configs

theorem leaves_get : Leaves S (get t e) fun c? S' => S' = S ∧ S.config? t e = .ok c? := by
  refine (leaves_store (.getConfig t e)).imp fun c? S' hserve => ?_
  rw [S.serve_getConfig] at hserve
  obtain ⟨hc, rfl⟩ := Prod.mk.inj hserve
  exact ⟨rfl, hc⟩

theorem leaves_create (name : Option String) (s : Schema) :
    Leaves S (create t e name s m) fun c S' =>
      c = .new m.freshId t e name s m.now ∧ S.serve (.createConfig c) = (.ok c, S') := by
  refine (leaves_lift fun _ _ => ⟨rfl, trivial⟩).bind fun _ _ => ?_
  refine (leaves_compile s).bind fun _ _ => ?_
  refine ((leaves_write (S.serve_createConfig _)).imp ?_).observed _
  rintro _ S' ⟨rfl, hserve⟩
  exact ⟨rfl, hserve⟩

theorem leaves_update (name : Option String) (s : Schema) :
    Leaves S (update t e name s m) fun c S' => ∃ old, S.config? t e = .ok (some old) ∧
      c = { old.replaceSchema s m.now with name := name.or old.name } ∧
      S.serve (.updateConfig c) = (.ok c, S') := by
  refine (leaves_compile s).bind fun _ _ => ?_
  -- the config that is stored is the one that is read, with the parts that are given
  refine (leaves_get S t e).bind fun old? hold => ?_
  cases old? with
  | none => exact leaves_throw
  | some old =>
    refine ((leaves_write (S.serve_updateConfig _)).imp ?_).observed _
    rintro _ S' ⟨rfl, hserve⟩
    exact ⟨old, hold, rfl, hserve⟩

theorem leaves_list : Leaves S (list t) fun _ S' => S' = S :=
  (leaves_store (.listConfigs t)).imp fun _ _ hserve =>
    (congrArg Prod.snd hserve).symm.trans (S.serve_listConfigs t)

end Configs

namespace Records

theorem leaves_resolveSchema : Leaves S (resolveSchema t e) fun _ S' => S' = S ∧ True :=
  (Configs.leaves_get S t e).bind fun _ _ => leaves_pure ⟨rfl, trivial⟩

theorem leaves_get : Leaves S (get id) fun r? S' => S' = S ∧ S.record? id = .ok r? := by
  refine (leaves_store (.getRecord id)).imp fun r? S' hserve => ?_
  rw [S.serve_getRecord] at hserve
  obtain ⟨hr, rfl⟩ := Prod.mk.inj hserve
  exact ⟨rfl, hr⟩

/-- Values that are let through are those that were given, whatever the cache holds. -/
theorem leaves_useSchema (s? : Option Schema) (values : Json.Object) (today : Calendar.Date) :
    Leaves S (access (.validate s? values today)) fun r S' => S' = S ∧
      ∀ validated, r = Except.ok validated → validated = values :=
  leaves_access fun d hd => ⟨hd, fun _ h => d.engine.eq_of_validateOptional h⟩

theorem leaves_tryOut (s : Schema) (values : Json.Object) (today : Calendar.Date) :
    Leaves S (access (.dryRun s values today)) fun _ S' => S' = S ∧ True :=
  leaves_access fun _ hd => ⟨hd, trivial⟩

theorem leaves_validate (values : Json.Object) :
    Leaves S (validate t e values m) fun validated S' => S' = S ∧ validated = values := by
  refine (leaves_resolveSchema S t e).bind fun s? _ => ?_
  refine (leaves_useSchema S s? values m.today).bind fun result hresult => ?_
  refine (leaves_observe _).bind fun _ _ => ?_
  cases result with
  | ok validated =>
    refine (leaves_observe _).bind fun _ _ => ?_
    exact leaves_pure ⟨rfl, hresult validated rfl⟩
  | error err =>
    cases err with
    | schema err => exact leaves_throw
    | validation l =>
      refine (leaves_observe _).bind fun _ _ => ?_
      exact (leaves_forM_observe _ _).bind fun _ _ => leaves_throw

theorem leaves_create (values : Json.Object) :
    Leaves S (create t e values m) fun r S' =>
      r = .new m.freshId t e values m.now ∧ S.serve (.insertRecord r) = (.ok r, S') := by
  refine (leaves_lift fun _ _ => ⟨rfl, trivial⟩).bind fun _ _ => ?_
  refine (leaves_validate S t e m values).bind ?_
  rintro _ rfl
  refine (leaves_write (S.serve_insertRecord _)).imp ?_
  rintro _ S' ⟨rfl, hserve⟩
  exact ⟨rfl, hserve⟩

theorem leaves_update (values? : Option Json.Object) :
    Leaves S (update id values? m) fun r S' => ∃ old, S.record? id = .ok (some old) ∧
      match values? with
      | none => r = old ∧ S' = S
      | some values => r = old.replaceData values m.now ∧
        S.serve (.updateRecord r) = (.ok r, S') := by
  refine (leaves_get S id).bind fun old? hold => ?_
  cases old? with
  | none => exact leaves_throw
  | some old =>
    cases values? with
    | none => exact leaves_pure ⟨old, hold, rfl, rfl⟩
    | some values =>
      refine (leaves_validate S old.tenantId old.entityType m values).bind ?_
      rintro _ rfl
      refine (leaves_write (S.serve_updateRecord _)).imp ?_
      rintro _ S' ⟨rfl, hserve⟩
      exact ⟨old, hold, rfl, hserve⟩

theorem leaves_list (f : RecordFilter) : Leaves S (list f) fun _ S' => S' = S :=
  (leaves_store (.listRecords f)).imp fun _ _ hserve =>
    (congrArg Prod.snd hserve).symm.trans (S.serve_listRecords f)

theorem leaves_dryRun (values : Json.Object) :
    Leaves S (dryRun t e values m) fun _ S' => S' = S := by
  refine (leaves_resolveSchema S t e).bind fun s? _ => ?_
  cases s? with
  | none => exact leaves_pure rfl
  | some s =>
    refine (leaves_tryOut S s values m.today).bind fun result _ => ?_
    cases result with
    | ok report => exact leaves_pure rfl
    | error err => exact leaves_throw

end Records

end Services

/-! ## All calls -/

namespace ServiceCall

/-- Whether a call only reads: it is given nothing to store. -/
def reads : ServiceCall → Bool
  | .getConfig _ _ => true
  | .listConfigs _ => true
  | .getRecord _ => true
  | .updateRecord _ none => true
  | .listRecords _ => true
  | .dryRun _ _ _ => true
  | _ => false

/-- What a call has done that has found a storage `S`, has not failed, and has left `S'`. -/
def Does (S : Storage) (m : Moment) (S' : Storage) : (x : ServiceCall) → x.Result → Prop
  | .createConfig t e name s, c =>
    c = EntityConfig.new m.freshId t e name s m.now ∧ S.serve (.createConfig c) = (.ok c, S')
  | .updateConfig t e name s, c =>
    ∃ old, S.config? t e = .ok (some old) ∧
      c = { old.replaceSchema s m.now with name := name.or old.name } ∧
      S.serve (.updateConfig c) = (.ok c, S')
  | .createRecord t e values, r =>
    r = Record.new m.freshId t e values m.now ∧ S.serve (.insertRecord r) = (.ok r, S')
  | .updateRecord id (some values), r =>
    ∃ old, S.record? id = .ok (some old) ∧ r = old.replaceData values m.now ∧
      S.serve (.updateRecord r) = (.ok r, S')
  | _, _ => S' = S

/-- **A call fails and leaves the storage as it is, or has done its work.** -/
theorem leaves (S : Storage) (x : ServiceCall) (m : Moment) :
    (x.call m).Leaves S fun a S' => x.Does S m S' a := by
  cases x with
  | createConfig t e name s => exact Configs.leaves_create S t e m name s
  | getConfig t e => exact (Configs.leaves_get S t e).imp fun _ _ h => h.1
  | updateConfig t e name s => exact Configs.leaves_update S t e m name s
  | listConfigs t => exact Configs.leaves_list S t
  | createRecord t e values => exact Records.leaves_create S t e m values
  | getRecord id => exact (Records.leaves_get S id).imp fun _ _ h => h.1
  | updateRecord id values? =>
    cases values? with
    | none => exact (Records.leaves_update S id m none).imp fun _ _ ⟨_, _, _, hS⟩ => hS
    | some values => exact Records.leaves_update S id m (some values)
  | listRecords f => exact Records.leaves_list S f
  | dryRun t e values => exact Records.leaves_dryRun S t e m values

/-- What a call has done is that it has stored one thing, or nothing. -/
theorem Does.stores {S S' : Storage} {m : Moment} {x : ServiceCall} {a : x.Result}
    (h : x.Does S m S' a) :
    S' = S ∨ (∃ c, S' = S.storeConfig c) ∨ ∃ r, S' = S.storeRecord r := by
  cases x with
  | createConfig t e name s =>
    obtain ⟨rfl, hserve⟩ := h
    exact Or.inr (Or.inl ⟨_, Storage.eq_of_serve_ok (S.serve_createConfig _) hserve⟩)
  | updateConfig t e name s =>
    obtain ⟨old, -, rfl, hserve⟩ := h
    exact Or.inr (Or.inl ⟨_, Storage.eq_of_serve_ok (S.serve_updateConfig _) hserve⟩)
  | createRecord t e values =>
    obtain ⟨rfl, hserve⟩ := h
    exact Or.inr (Or.inr ⟨_, Storage.eq_of_serve_ok (S.serve_insertRecord _) hserve⟩)
  | updateRecord id values? =>
    cases values? with
    | none => exact Or.inl h
    | some values =>
      obtain ⟨old, -, rfl, hserve⟩ := h
      exact Or.inr (Or.inr ⟨_, Storage.eq_of_serve_ok (S.serve_updateRecord _) hserve⟩)
  | _ => exact Or.inl h

theorem Does.kind_eq {S S' : Storage} {m : Moment} {x : ServiceCall} {a : x.Result}
    (h : x.Does S m S' a) : S'.kind = S.kind := by
  obtain rfl | ⟨c, rfl⟩ | ⟨r, rfl⟩ := h.stores
  · rfl
  · exact S.kind_storeConfig c
  · exact S.kind_storeRecord r

/-- A call that only reads has done nothing. -/
theorem Does.eq_of_reads {S S' : Storage} {m : Moment} {x : ServiceCall} {a : x.Result}
    (h : x.Does S m S' a) (hx : x.reads = true) : S' = S := by
  cases x with
  | createConfig t e name s => cases hx
  | updateConfig t e name s => cases hx
  | createRecord t e values => cases hx
  | updateRecord id values? =>
    cases values? with
    | none => exact h
    | some values => cases hx
  | _ => exact h

end ServiceCall

/-- **What every call keeps that does its work is kept by a run**, and is so where each call is
made. -/
theorem Deployment.storage_of_runCalls {I : Storage → Prop} {d : Deployment}
    {calls : List (ServiceCall × Moment)} (hstart : I d.storage)
    (hstep : ∀ x ∈ calls, ∀ S S' (a : x.1.Result), I S → x.1.Does S x.2 S' a → I S') :
    I (d.runCalls calls).state.storage ∧
      ∀ ev ∈ (d.runCalls calls).history, I ev.before.storage := by
  induction calls using List.reverseRecOn with
  | nil => exact ⟨hstart, fun _ h => absurd h List.not_mem_nil⟩
  | append_singleton calls x ih =>
    obtain ⟨hstate, hbefore⟩ := ih fun y hy => hstep y (List.mem_append_left _ hy)
    rw [runCalls_append_singleton]
    constructor
    · show I ((x.1.call x.2).run (d.runCalls calls).state).2.storage
      obtain ⟨err, -, hS⟩ | ⟨a, -, hdoes⟩ := x.1.leaves _ x.2 _ rfl
      · rw [hS]
        exact hstate
      · exact hstep x (List.mem_append_right _ List.mem_cons_self) _ _ a hstate hdoes
    · intro ev hev
      rcases List.mem_append.1 hev with hmem | hmem
      · exact hbefore ev hmem
      · obtain rfl := List.mem_singleton.1 hmem
        exact hstate

/-- A call that has failed, or that only reads. -/
def ServiceEvent.Idle (ev : ServiceEvent) : Prop :=
  (∃ err, ev.answer = .error err) ∨ ev.call.reads = true

theorem ServiceEvent.idle_iff {ev : ServiceEvent} :
    ev.Idle ↔ (!ev.answer.isOk || ev.call.reads) = true := by
  rw [Bool.or_eq_true, Idle]
  cases ev.answer <;> simp [Except.isOk, Except.toBool]

/-- A call that fails or only reads leaves the storage that it finds. -/
theorem ServiceCall.storage_eq_of_idle {x : ServiceCall} {m : Moment} {d d' : Deployment}
    {answer : Except ServiceError x.Result} (h : (x.call m).run d = (answer, d'))
    (hidle : ServiceEvent.Idle ⟨x, m, d, answer⟩) : d'.storage = d.storage := by
  obtain ⟨err, -, hS⟩ | ⟨a, ha, hdoes⟩ := x.leaves d.storage m d rfl
  · rw [h] at hS
    exact hS
  · rw [h] at ha hdoes
    obtain rfl : answer = .ok a := ha
    obtain ⟨err, ⟨⟩⟩ | hreads := hidle
    exact hdoes.eq_of_reads hreads

/-- **Calls that fail or only read change nothing that is stored**, whatever they are given and
whatever state they find. A call that fails has stored nothing before, whatever it has failed for,
and so do any number of such calls that follow each other. -/
theorem storage_of_idle_calls (d : Deployment) :
    (∀ x m answer d', (ServiceCall.call x m).run d = (answer, d') →
      ServiceEvent.Idle ⟨x, m, d, answer⟩ → d'.storage = d.storage) ∧
      ∀ calls R, d.runCalls calls = R → (∀ ev ∈ R.history, ev.Idle) →
        R.state.storage = d.storage := by
  refine ⟨fun x m answer d' h hidle => ServiceCall.storage_eq_of_idle h hidle, ?_⟩
  rintro calls _ rfl
  induction calls using List.reverseRecOn with
  | nil => exact fun _ => rfl
  | append_singleton calls x ih =>
    rw [Deployment.runCalls_append_singleton]
    intro hidle
    have hlast := hidle _ (List.mem_append_right _ (List.mem_singleton_self _))
    exact (ServiceCall.storage_eq_of_idle rfl hlast).trans
      (ih fun ev hev => hidle ev (List.mem_append_left _ hev))

/-- Calls that find a config and a record, and fail or only read: what they are to store is there
already, or is not there, or is unfit. -/
def idleSession : List (ServiceCall × Moment) :=
  [(.createConfig (.ofNat 1) "site" none SchemaCache.codeSchema, leapDay 6),
    (.createConfig (.ofNat 1) "a/b" none SchemaCache.codeSchema, leapDay 6),
    (.updateConfig (.ofNat 1) "site" none SchemaCache.blankSchema, leapDay 6),
    (.updateConfig (.ofNat 2) "site" none SchemaCache.codeSchema, leapDay 6),
    (.createRecord (.ofNat 1) "site" [("code", .bool true)], leapDay 6),
    (.createRecord (.ofNat 1) "site" [("code", .string "A1")], leapDay 3),
    (.updateRecord (.ofNat 3) (some [("code", .bool true)]), leapDay 6),
    (.updateRecord (.ofNat 3) none, leapDay 6),
    (.dryRun (.ofNat 1) "site" [("code", .bool true)], leapDay 6),
    (.listRecords .all, leapDay 6)]

theorem storage_of_idle_calls_idleSession :
    (recordRun.state.runCalls idleSession).history.map (fun ev => (ev.answer.isOk, ev.call.reads)) =
        List.replicate 7 (false, false) ++ List.replicate 3 (true, true) ∧
      (∀ ev ∈ (recordRun.state.runCalls idleSession).history, ev.Idle) ∧
      (recordRun.state.runCalls idleSession).state.storage = recordRun.state.storage := by
  have hanswers : (recordRun.state.runCalls idleSession).history.map
      (fun ev => (ev.answer.isOk, ev.call.reads)) =
        List.replicate 7 (false, false) ++ List.replicate 3 (true, true) := by
    decide +kernel
  have hidle : ∀ ev ∈ (recordRun.state.runCalls idleSession).history, ev.Idle := by
    intro ev hev
    have hmem := List.mem_map_of_mem (f := fun ev => (ev.answer.isOk, ev.call.reads)) hev
    rw [hanswers] at hmem
    refine ServiceEvent.idle_iff.2 ?_
    simp only [List.mem_append, List.mem_replicate, Prod.mk.injEq] at hmem
    rcases hmem with ⟨-, hfailed, -⟩ | ⟨-, -, hreads⟩
    · simp [hfailed]
    · simp [hreads]
  exact ⟨hanswers, hidle, (storage_of_idle_calls recordRun.state).2 idleSession _ rfl hidle⟩

end CustomFields
