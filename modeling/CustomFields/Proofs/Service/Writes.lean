import CustomFields.Proofs.Service.Effects
import CustomFields.Proofs.Store.Identity

/-!
# What calls that succeed change

A store checks no more of a thing than its key, and takes it as a whole. That a config keeps its
pair when it gets another schema, and a record its id and the moment of its creation when it gets
other values, rests on the calls: what they store is what they have read, with the parts replaced
that they are given. So a call changes what lies under one key, and of that only these parts; and
over any run, of any length, whatever has been stored once stays there as the thing that it is.

## Main definitions

* `ServiceCall.Changes`: what a call that has not failed changes of a storage
* `Storage.Persists`: what lies in a storage lies in another one, with the same identity

## Main results

* `ServiceCall.Does.changes`: what a call has done changes one entry at most
* `changes_of_calls`: what calls change, and what no run of them ever does
-/

namespace CustomFields

/-! ## What one call changes -/

/-- What a call that has not failed has changed of a storage `S`, where it has left `S'`: a config
or a record is there that has not been, or some parts of one have been replaced. -/
def ServiceCall.Changes (S : Storage) (m : Moment) (S' : Storage) : ServiceCall → Prop
  | .createConfig t e name s =>
    (∀ c, ¬ S.HasConfig t e c) ∧
      S.SetsConfig t e (EntityConfig.new m.freshId t e name s m.now) S'
  | .updateConfig t e name s =>
    (∃ c, S.HasConfig t e c) ∧ ∀ c, S.HasConfig t e c →
      S.SetsConfig t e { c with schema := s, updatedAt := m.now, name := name.or c.name } S'
  | .createRecord t e values =>
    (∀ r, ¬ S.HasRecord m.freshId r) ∧
      S.SetsRecord m.freshId (Record.new m.freshId t e values m.now) S'
  | .updateRecord id (some values) =>
    (∃ r, S.HasRecord id r) ∧ ∀ r, S.HasRecord id r →
      S.SetsRecord id { r with customData := values, updatedAt := m.now } S'
  | _ => S' = S

section Step

variable {S S' : Storage} {x : ServiceCall} {m : Moment} {a : x.Result}

/-- **What a call has done changes one entry at most**, and of a thing that was there before only
what the call was given. -/
theorem ServiceCall.Does.changes (hS : S.Orderly) (h : x.Does S m S' a) : x.Changes S m S' := by
  cases x with
  | createConfig t e name s =>
    obtain ⟨rfl, hserve⟩ := h
    obtain rfl := Storage.eq_of_serve_ok (S.serve_createConfig _) hserve
    exact ⟨Storage.not_hasConfig_of_serve_createConfig hserve,
      S.setsConfig_storeConfig
        (StorageKind.alikeConfigs_refl _ (EntityConfig.new m.freshId t e name s m.now))⟩
  | updateConfig t e name s =>
    obtain ⟨old, hold, rfl, hserve⟩ := h
    obtain rfl := Storage.eq_of_serve_ok (S.serve_updateConfig _) hserve
    obtain ⟨c₀, hhas₀, -⟩ := hS.configs.exists_hasConfig hold
    obtain ⟨rfl, rfl⟩ := hS.key_of_config? hold
    -- what is stored is what was read, so it is kept as if the stored config had been changed
    exact ⟨⟨c₀, hhas₀⟩, fun c hhas =>
      S.setsConfig_storeConfig ((hhas.reads hold).replace s m.now name)⟩
  | createRecord t e values =>
    obtain ⟨rfl, hserve⟩ := h
    obtain rfl := Storage.eq_of_serve_ok (S.serve_insertRecord _) hserve
    exact ⟨Storage.not_hasRecord_of_serve_insertRecord hserve,
      S.setsRecord_storeRecord
        (StorageKind.alikeRecords_refl _ (Record.new m.freshId t e values m.now))⟩
  | updateRecord id values? =>
    cases values? with
    | none => exact h
    | some values =>
      obtain ⟨old, hold, rfl, hserve⟩ := h
      obtain rfl := Storage.eq_of_serve_ok (S.serve_updateRecord _) hserve
      obtain ⟨r₀, hhas₀, -⟩ := hS.records.exists_hasRecord hold
      obtain rfl := hS.id_of_record? hold
      exact ⟨⟨r₀, hhas₀⟩, fun r hhas =>
        S.setsRecord_storeRecord ((hhas.reads hold).replace values m.now)⟩
  | _ => exact h

/-- A call leaves each thing under its own key. -/
theorem ServiceCall.Does.orderly (hS : S.Orderly) (h : x.Does S m S' a) : S'.Orderly := by
  obtain rfl | ⟨c, rfl⟩ | ⟨r, rfl⟩ := h.stores
  · exact hS
  · exact hS.storeConfig c
  · exact hS.storeRecord r

end Step

/-! ## What no run changes -/

namespace Storage

/-- What lies in a storage lies in another one, as a thing with the same id, of the same tenant and
entity type, that was created at the same moment. -/
structure Persists (S S' : Storage) : Prop where
  config : ∀ t e c, S.HasConfig t e c → ∃ c', S'.HasConfig t e c' ∧ c'.id = c.id ∧
    c'.tenantId = c.tenantId ∧ c'.entityType = c.entityType ∧ c'.createdAt = c.createdAt
  record : ∀ id r, S.HasRecord id r → ∃ r', S'.HasRecord id r' ∧ r'.id = r.id ∧
    r'.tenantId = r.tenantId ∧ r'.entityType = r.entityType ∧ r'.createdAt = r.createdAt

variable {S S' S'' : Storage}

theorem persists_refl (S : Storage) : S.Persists S where
  config _ _ c hc := ⟨c, hc, rfl, rfl, rfl, rfl⟩
  record _ r hr := ⟨r, hr, rfl, rfl, rfl, rfl⟩

theorem Persists.trans (h : S.Persists S') (h' : S'.Persists S'') : S.Persists S'' where
  config t e c hc := by
    obtain ⟨c', hc', hid, ht, he, hcreated⟩ := h.config t e c hc
    obtain ⟨c'', hc'', hid', ht', he', hcreated'⟩ := h'.config t e c' hc'
    exact ⟨c'', hc'', hid'.trans hid, ht'.trans ht, he'.trans he, hcreated'.trans hcreated⟩
  record id r hr := by
    obtain ⟨r', hr', hid, ht, he, hcreated⟩ := h.record id r hr
    obtain ⟨r'', hr'', hid', ht', he', hcreated'⟩ := h'.record id r' hr'
    exact ⟨r'', hr'', hid'.trans hid, ht'.trans ht, he'.trans he, hcreated'.trans hcreated⟩

/-- A config takes the place of one with its identity, or of none. -/
theorem SetsConfig.persists {t : Uuid} {e : String} {c : EntityConfig} (h : S.SetsConfig t e c S')
    (hc : ∀ c₀, S.HasConfig t e c₀ → ∃ c', S'.HasConfig t e c' ∧ c'.id = c₀.id ∧
      c'.tenantId = c₀.tenantId ∧ c'.entityType = c₀.entityType ∧ c'.createdAt = c₀.createdAt) :
    S.Persists S' where
  config t' e' c₀ hc₀ := by
    by_cases hkey : t' = t ∧ e' = e
    · obtain ⟨rfl, rfl⟩ := hkey
      exact hc c₀ hc₀
    · exact ⟨c₀, (h.others t' e' c₀ hkey).2 hc₀, rfl, rfl, rfl, rfl⟩
  record id r hr := ⟨r, (h.records id r).2 hr, rfl, rfl, rfl, rfl⟩

theorem SetsRecord.persists {id : Uuid} {r : Record} (h : S.SetsRecord id r S')
    (hr : ∀ r₀, S.HasRecord id r₀ → ∃ r', S'.HasRecord id r' ∧ r'.id = r₀.id ∧
      r'.tenantId = r₀.tenantId ∧ r'.entityType = r₀.entityType ∧ r'.createdAt = r₀.createdAt) :
    S.Persists S' where
  config t e c hc := ⟨c, (h.configs t e c).2 hc, rfl, rfl, rfl, rfl⟩
  record id' r₀ hr₀ := by
    by_cases hid : id' = id
    · subst hid
      exact hr r₀ hr₀
    · exact ⟨r₀, (h.others id' r₀ hid).2 hr₀, rfl, rfl, rfl, rfl⟩

end Storage

/-- What a call changes it leaves with its identity. -/
theorem ServiceCall.Changes.persists {S S' : Storage} {m : Moment} {x : ServiceCall}
    (h : x.Changes S m S') : S.Persists S' := by
  cases x with
  | createConfig t e name s =>
    obtain ⟨hnone, hsets⟩ := h
    exact hsets.persists fun c hc => absurd hc (hnone c)
  | updateConfig t e name s =>
    obtain ⟨⟨c₀, hc₀⟩, hsets⟩ := h
    exact (hsets c₀ hc₀).persists fun c hc => ⟨_, (hsets c hc).config, rfl, rfl, rfl, rfl⟩
  | createRecord t e values =>
    obtain ⟨hnone, hsets⟩ := h
    exact hsets.persists fun r hr => absurd hr (hnone r)
  | updateRecord id values? =>
    cases values? with
    | none => exact h ▸ S.persists_refl
    | some values =>
      obtain ⟨⟨r₀, hr₀⟩, hsets⟩ := h
      exact (hsets r₀ hr₀).persists fun r hr => ⟨_, (hsets r hr).record, rfl, rfl, rfl, rfl⟩
  | _ => exact h ▸ S.persists_refl

section Run

variable {d d' : Deployment} {x : ServiceCall} {m : Moment} {answer : Except ServiceError x.Result}

/-- What a call leaves, whatever it answers. -/
theorem ServiceCall.orderly_persists (hd : d.storage.Orderly)
    (h : (x.call m).run d = (answer, d')) :
    d'.storage.Orderly ∧ d.storage.Persists d'.storage := by
  obtain ⟨err, -, hS⟩ | ⟨a, -, hdoes⟩ := x.leaves d.storage m d rfl
  · rw [h] at hS
    rw [hS]
    exact ⟨hd, d.storage.persists_refl⟩
  · rw [h] at hdoes
    exact ⟨hdoes.orderly hd, (hdoes.changes hd).persists⟩

/-- A run from a deployment leaves each thing under its own key and with its identity. -/
theorem Deployment.runCalls_orderly_persists (hd : d.storage.Orderly)
    (calls : List (ServiceCall × Moment)) :
    (d.runCalls calls).state.storage.Orderly ∧
      d.storage.Persists (d.runCalls calls).state.storage := by
  refine (storage_of_runCalls (I := fun S => S.Orderly ∧ d.storage.Persists S)
    ⟨hd, d.storage.persists_refl⟩ fun x _ S S' a hS hdoes => ?_).1
  exact ⟨hdoes.orderly hS.1, hS.2.trans (hdoes.changes hS.1).persists⟩

/-- A record that gets other values stays where it is in every listing, if it can be read; else
there are no listings. -/
theorem ServiceCall.listedIds_of_updateRecord {id : Uuid} {values? : Option Json.Object}
    {answer : Except ServiceError Record} (hd : d.storage.Orderly)
    (h : ((ServiceCall.updateRecord id values?).call m).run d = (answer, d')) (f : RecordFilter) :
    d'.storage.listedIds f = d.storage.listedIds f ∨
      (∃ fault, d'.storage.record? id = .error fault) ∧
        ∃ fault, d'.storage.listedIds f = .error fault := by
  obtain ⟨err, -, hS⟩ | ⟨a, -, hdoes⟩ :=
    (ServiceCall.updateRecord id values?).leaves d.storage m d rfl
  · rw [h] at hS
    exact Or.inl (by rw [hS])
  rw [h] at hdoes
  cases values? with
  | none => exact Or.inl (congrArg (Storage.listedIds · f) hdoes)
  | some values =>
    obtain ⟨old, hold, rfl, hserve⟩ := hdoes
    have hstored := Storage.eq_of_serve_ok (d.storage.serve_updateRecord _) hserve
    obtain rfl := hd.id_of_record? hold
    have hhas := (d.storage.setsRecord_storeRecord
      (StorageKind.alikeRecords_refl _ (old.replaceData values m.now))).record
    rw [hstored]
    obtain ⟨r', -, hr'⟩ | ⟨fault, hfault⟩ := hhas.record?_eq
    · rw [Storage.kind_storeRecord] at hr'
      exact Or.inl (Storage.listedIds_storeRecord hd hold hr' f)
    -- one record that cannot be read keeps all of them from being listed
    · refine Or.inr ⟨⟨fault, hfault⟩, ?_⟩
      cases hids : (d.storage.storeRecord (old.replaceData values m.now)).listedIds f with
      | error fault' => exact ⟨fault', rfl⟩
      | ok ids =>
        obtain ⟨r?, hr?⟩ := Storage.exists_record?_of_listedIds hids old.id
        cases hfault.symm.trans hr?

end Run

/-- The calls of a run that come later go on from the state that the earlier ones have left. -/
theorem Deployment.state_runCalls_append (d : Deployment)
    (earlier later : List (ServiceCall × Moment)) :
    (d.runCalls (earlier ++ later)).state =
      ((d.runCalls earlier).state.runCalls later).state := by
  induction later using List.reverseRecOn with
  | nil => rw [List.append_nil]; rfl
  | append_singleton later x ih =>
    rw [← List.append_assoc, runCalls_append_singleton, runCalls_append_singleton]
    simp only [ServiceRun.next, ih]

/-- **What calls change, and what no run of them ever does.** After every run from empty stores, a
call that succeeds changes one entry at most: it creates a thing where none has been, or replaces
the schema and the name of a config, or the values of a record, and the moment of the last change.
All that has been stored on the way is still there, with its id, its tenant, its entity type and the
moment of its creation; each entry lies under its own key; and a record that gets other values
stays where it is on every page of every listing. This has an exception in a tree, but none in
memory: values that nest too deep to be read back can be stored in a tree, and then there is no
listing at all. -/
theorem changes_of_calls (engine : Engine) (kind : StorageKind) (capacity : ℕ)
    (withMetrics : Bool) (calls : List (ServiceCall × Moment)) {R : ServiceRun}
    (hR : R = (Deployment.new engine kind capacity withMetrics).runCalls calls) :
    (∀ x m a d', (ServiceCall.call x m).run R.state = (.ok a, d') →
        x.Changes R.state.storage m d'.storage) ∧
      (∀ earlier, earlier <+: calls →
        ((Deployment.new engine kind capacity withMetrics).runCalls earlier).state.storage.Persists
          R.state.storage) ∧
      (R.state.storage.EachConfig fun _ => True) ∧ (R.state.storage.EachRecord fun _ => True) ∧
      ∀ id values? m answer d',
        (ServiceCall.call (.updateRecord id values?) m).run R.state = (answer, d') →
        ∀ f, d'.storage.listedIds f = R.state.storage.listedIds f ∨
          (∃ fault, d'.storage.record? id = .error fault) ∧
            ∃ fault, d'.storage.listedIds f = .error fault := by
  have hstart : (Deployment.new engine kind capacity withMetrics).storage.Orderly :=
    Storage.orderly_new kind
  have horderly (calls : List (ServiceCall × Moment)) :=
    (Deployment.runCalls_orderly_persists hstart calls).1
  subst hR
  refine ⟨fun x m a d' h => ?_, ?_, (horderly calls).configs, (horderly calls).records,
    fun id values? m answer d' h f =>
      ServiceCall.listedIds_of_updateRecord (horderly calls) h f⟩
  · obtain ⟨err, herr, -⟩ | ⟨a', -, hdoes⟩ := x.leaves _ m _ rfl
    · rw [h] at herr
      cases herr
    · rw [h] at hdoes
      exact hdoes.changes (horderly calls)
  · rintro earlier ⟨later, rfl⟩
    rw [Deployment.state_runCalls_append]
    exact (Deployment.runCalls_orderly_persists (horderly earlier) later).2

/-- In a state with a config and a record, the record gets other values. -/
theorem changes_of_calls_recordSession :
    recordRun = (Deployment.new (.new .empty) .memory 1 false).runCalls recordSession ∧
      ∃ r d', (ServiceCall.call (.updateRecord (.ofNat 3) (some [("code", .string "B2")]))
          (leapDay 6)).run recordRun.state = (.ok r, d') ∧
        (∃ r₀, recordRun.state.storage.HasRecord (.ofNat 3) r₀) ∧
        ∀ f, d'.storage.listedIds f = recordRun.state.storage.listedIds f := by
  have hrun : recordRun = (Deployment.new (.new .empty) .memory 1 false).runCalls recordSession :=
    rfl
  obtain ⟨hchanges, -, -, -, hlisted⟩ := changes_of_calls _ _ _ _ _ hrun
  have hok : ((ServiceCall.call (.updateRecord (.ofNat 3) (some [("code", .string "B2")]))
      (leapDay 6)).run recordRun.state).1.isOk = true := by
    decide +kernel
  have hread : (((ServiceCall.call (.updateRecord (.ofNat 3) (some [("code", .string "B2")]))
      (leapDay 6)).run recordRun.state).2.storage.record? (.ofNat 3)).isOk = true := by
    decide +kernel
  rcases hcall : (ServiceCall.call (.updateRecord (.ofNat 3) (some [("code", .string "B2")]))
      (leapDay 6)).run recordRun.state with ⟨err | r, d'⟩
  · rw [hcall] at hok
    cases hok
  · rw [hcall] at hread
    refine ⟨hrun, r, d', rfl, (hchanges _ _ _ _ hcall).1, fun f => ?_⟩
    obtain heq | ⟨⟨fault, hfault⟩, -⟩ := hlisted _ _ _ _ _ hcall f
    · exact heq
    · rw [hfault] at hread
      cases hread

end CustomFields
