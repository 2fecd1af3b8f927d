import CustomFields.Proofs.Service.Among
import CustomFields.Proofs.Validation.Compiled
import CustomFields.Service.Configs

/-!
# Updates of a config that run among each other

An update of a config reads it, and stores later on what it makes of what it has read. Nothing asks
whether the config has changed in the meantime, and a name that is not given is taken from what was
read. So what lies there in the end is what the update that stored last has made of the config that
it had read, and that config is the initial one or what another update had stored by then.

For two updates this leaves the two results that they have one after the other, and a third one. If
the update that stores last gives no name and has read before the other one stored, the name that
the other one gave is overwritten by the initial name. Nothing else is lost: the schema is always
that of the update that stores last.

## Main definitions

* `ConfigUpdate`: what an update is given, and `ConfigUpdate.apply`, what it makes of a config
* `ConfigUpdate.LastStored`: how the config of a pair has come about
* `ConfigUpdate.Overtakes`: an update reads before another one stores, and stores after it

## Main results

* `ConfigUpdate.ensures_call`: what an update ensures among others
* `ConfigUpdate.config_of_two`: what two updates leave
-/

namespace CustomFields

/-! ## Updates -/

/-- What a call that updates a config is given. -/
structure ConfigUpdate where
  name : Option String
  schema : Schema
  moment : Moment

/-- A schema that satisfies its check is compiled, whatever the cache holds. -/
theorem SchemaCache.exists_getOrCompile {s : Schema} (hs : s.check = .ok ())
    (cache : SchemaCache) : ∃ k, (cache.getOrCompile s).1 = .ok k := by
  obtain ⟨k, hk⟩ := CompiledSchema.exists_compile_iff.2 hs
  cases hl : cache.lookup? s.fingerprint with
  | some held =>
    simp only [getOrCompile, hl]
    exact ⟨held, rfl⟩
  | none =>
    simp only [getOrCompile, hl, compile, hk]
    exact ⟨_, rfl⟩

namespace ConfigUpdate

/-- The call that updates the config of a pair. -/
def call (u : ConfigUpdate) (t : Uuid) (e : String) : Call EntityConfig :=
  Configs.update t e u.name u.schema u.moment

/-- The accesses of the call. -/
def program (u : ConfigUpdate) (t : Uuid) (e : String) :
    Program serviceInterface (Except ServiceError EntityConfig) :=
  ExceptT.run (u.call t e)

/-- What an update stores where it has read a config. -/
def apply (u : ConfigUpdate) (c : EntityConfig) : EntityConfig :=
  { c.replaceSchema u.schema u.moment.now with name := u.name.or c.name }

/-- The configs that updates make of an initial one. -/
inductive Reaches (us : List ConfigUpdate) (c₀ : EntityConfig) : EntityConfig → Prop
  | start : Reaches us c₀ c₀
  | apply {u : ConfigUpdate} {c : EntityConfig} (hu : u ∈ us) (h : Reaches us c₀ c) :
      Reaches us c₀ (u.apply c)

/-- An access reads the config of a pair. -/
def Reads (t : Uuid) (e : String) (ev : ServiceAccessEvent) : Prop :=
  ev.access = .store (.getConfig t e)

/-- Whether an access stores a config in place of another one. -/
def isStoring (ev : ServiceAccessEvent) : Bool :=
  match ev.access with
  | .store (.updateConfig _) => true
  | _ => false

/-- How the config of a pair has come about: it is the initial one, or the update that has stored
last has made it of the config that it had read. -/
inductive LastStored (us : List ConfigUpdate) (t : Uuid) (e : String) (c₀ : EntityConfig)
    (past : List ServiceAccessEvent) : EntityConfig → Prop
  | initial (hnone : ∀ ev ∈ past, isStoring ev = false) : LastStored us t e c₀ past c₀
  | stored {earlier later : List ServiceAccessEvent} {r w : ServiceAccessEvent} {u : ConfigUpdate}
      {c : EntityConfig} (hpast : past = earlier ++ w :: later) (hw : isStoring w = true)
      (hlater : ∀ ev ∈ later, isStoring ev = false) (hu : us[w.place]? = some u)
      (hr : r ∈ earlier) (hplace : r.place = w.place) (hreads : Reads t e r)
      (hread : r.before.storage.config? t e = .ok (some c)) :
      LastStored us t e c₀ past (u.apply c)

/-- What updates of a config keep among each other. -/
def keeping (us : List ConfigUpdate) (t : Uuid) (e : String) (c₀ : EntityConfig)
    (kind : StorageKind) : Contract Deployment.serve where
  Allowed _ := True
  Keeps past d := d.storage.kind = kind ∧
    ∃ c, d.storage.config? t e = .ok (some c) ∧ c.tenantId = t ∧ c.entityType = e ∧
      Reaches us c₀ c ∧ LastStored us t e c₀ past c

section Steps

variable {us : List ConfigUpdate} {t : Uuid} {e : String} {c₀ c : EntityConfig}
  {past : List ServiceAccessEvent} {ev : ServiceAccessEvent} {kind : StorageKind}

theorem LastStored.append (h : LastStored us t e c₀ past c) (hev : isStoring ev = false) :
    LastStored us t e c₀ (past ++ [ev]) c := by
  cases h with
  | initial hnone =>
    refine .initial fun ev' hev' => ?_
    rcases List.mem_append.1 hev' with hmem | hmem
    · exact hnone ev' hmem
    · rw [List.mem_singleton.1 hmem, hev]
  | @stored earlier later r w u c hpast hw hlater hu hr hplace hreads hread =>
    have hpast' : past ++ [ev] = earlier ++ w :: (later ++ [ev]) := by
      rw [hpast, List.append_assoc, List.cons_append]
    refine .stored hpast' hw (fun ev' hev' => ?_) hu hr hplace hreads hread
    · rcases List.mem_append.1 hev' with hmem | hmem
      · exact hlater ev' hmem
      · rw [List.mem_singleton.1 hmem, hev]

/-- An access that leaves the storage as it is keeps what holds. -/
theorem keeps_append {d d' : Deployment} (h : (keeping us t e c₀ kind).Keeps past d)
    (hstorage : d'.storage = d.storage) (hev : isStoring ev = false) :
    (keeping us t e c₀ kind).Keeps (past ++ [ev]) d' := by
  obtain ⟨hkind, c, hc, ht, he, hreach, hlast⟩ := h
  exact ⟨hstorage ▸ hkind, c, hstorage ▸ hc, ht, he, hreach, hlast.append hev⟩

end Steps

/-! ## One update among others -/

section Ensures

variable {us : List ConfigUpdate} {t : Uuid} {e : String} {c₀ : EntityConfig} {kind : StorageKind}
  {i : ℕ} {u : ConfigUpdate}

/-- Whether an access of the program in a place stores a config. -/
def storesFrom (i : ℕ) (ev : ServiceAccessEvent) : Bool :=
  ev.place == i && isStoring ev

theorem countP_storesFrom_eq {past past' : List ServiceAccessEvent} (h : Waits i past past') :
    past'.countP (storesFrom i) = past.countP (storesFrom i) :=
  h.countP_eq fun _ hev => beq_iff_eq.1 (Bool.and_eq_true_iff.1 hev).1

/-- An update has found a config for its pair. -/
def Found (us : List ConfigUpdate) (t : Uuid) (e : String) (c₀ : EntityConfig) (i : ℕ)
    (past : List ServiceAccessEvent) (c : EntityConfig) : Prop :=
  c.tenantId = t ∧ c.entityType = e ∧ Reaches us c₀ c ∧
    ∃ r ∈ past, r.place = i ∧ Reads t e r ∧ r.before.storage.config? t e = .ok (some c)

variable {past : List ServiceAccessEvent}

/-- An access that stores nothing does not count. -/
theorem countP_storesFrom_append {past' past'' : List ServiceAccessEvent}
    {ev : ServiceAccessEvent} (hev : isStoring ev = false) (h : Waits i past past')
    (h' : Waits i (past' ++ [ev]) past'') :
    past''.countP (storesFrom i) = past.countP (storesFrom i) := by
  rw [countP_storesFrom_eq h', List.countP_append, countP_storesFrom_eq h]
  simp [storesFrom, hev]

theorem ensures_compile (hu : u.schema.check = .ok ()) :
    Call.Ensures (keeping us t e c₀ kind) i
      (fun past' r => (∃ k, r = .ok k) ∧ past'.countP (storesFrom i) = past.countP (storesFrom i))
      past (Call.compile u.schema) := by
  refine Call.ensures_compile fun past' d hw hd _ => ⟨keeps_append hd rfl rfl, fun past'' hw' => ?_⟩
  obtain ⟨k, hk⟩ := d.cache.exists_getOrCompile hu
  exact ⟨⟨k, by rw [hk]; rfl⟩, countP_storesFrom_append rfl hw hw'⟩

/-- The pair has a config all the time, so one is found. -/
theorem ensures_get :
    Call.Ensures (keeping us t e c₀ kind) i
      (fun past' r => ∃ c, r = .ok (some c) ∧ Found us t e c₀ i past' c ∧
        past'.countP (storesFrom i) = past.countP (storesFrom i))
      past (Configs.get t e) := by
  refine Call.ensures_store fun past' d hw hd _ => ?_
  rw [d.storage.serve_getConfig]
  refine ⟨keeps_append hd rfl rfl, fun past'' hw' => ?_⟩
  obtain ⟨-, c, hc, ht, he, hreach, -⟩ := hd
  refine ⟨c, by rw [hc]; rfl, ⟨ht, he, hreach, ⟨i, .store (.getConfig t e), d⟩, ?_, rfl, rfl, hc⟩,
    countP_storesFrom_append rfl hw hw'⟩
  exact hw'.isPrefix.subset (by simp)

/-- What is stored lies there, made of what was found before. -/
theorem ensures_store (lossless : ∀ c, Reaches us c₀ c → kind.ReadsConfig c c)
    (hi : us[i]? = some u) {c : EntityConfig} (hfound : Found us t e c₀ i past c) :
    Call.Ensures (keeping us t e c₀ kind) i
      (fun past' r => (∃ c, r = .ok c) ∧
        past'.countP (storesFrom i) = past.countP (storesFrom i) + 1)
      past (Call.store (.updateConfig (u.apply c))) := by
  obtain ⟨ht, he, hreach, r, hr, hplace, hreads, hread⟩ := hfound
  have hreach' : Reaches us c₀ (u.apply c) := .apply (List.mem_of_getElem? hi) hreach
  have ht' : (u.apply c).tenantId = t := ht
  have he' : (u.apply c).entityType = e := he
  refine Call.ensures_store fun past' d hw hd _ => ?_
  obtain ⟨hkind, cd, hcd, -, -, -, -⟩ := hd
  -- the pair has a config, so it is replaced
  rw [← ht', ← he'] at hcd
  rw [Storage.serve_updateConfig_of_config? hcd]
  refine ⟨⟨(d.storage.kind_storeConfig _).trans hkind, u.apply c, ?_, ht, he, hreach', ?_⟩,
    fun past'' hw' => ⟨⟨_, rfl⟩, ?_⟩⟩
  · rw [← ht', ← he']
    exact Storage.config?_storeConfig_self (hkind ▸ lossless _ hreach')
  · exact .stored (w := ⟨i, .store (.updateConfig (u.apply c)), d⟩) rfl rfl (by simp) hi
      (hw.isPrefix.subset hr) hplace hreads hread
  · rw [countP_storesFrom_eq hw', List.countP_append, countP_storesFrom_eq hw]
    simp [storesFrom, isStoring]

theorem ensures_observe (o : Observation) :
    Call.Ensures (keeping us t e c₀ kind) i
      (fun past' r => r = .ok () ∧ past'.countP (storesFrom i) = past.countP (storesFrom i))
      past (Call.observe o) := by
  refine Call.ensures_access fun past' d hw hd _ => ⟨keeps_append hd rfl rfl, fun past'' hw' => ?_⟩
  exact ⟨rfl, countP_storesFrom_append rfl hw hw'⟩

/-- **An update among others keeps track of how the config of its pair has come about.** It does not
fail, and when it is done it has stored once. -/
theorem ensures_call (lossless : ∀ c, Reaches us c₀ c → kind.ReadsConfig c c)
    (hi : us[i]? = some u) (hu : u.schema.check = .ok ()) :
    Call.Ensures (keeping us t e c₀ kind) i
      (fun past r => (∃ c, r = .ok c) ∧ past.countP (storesFrom i) = 1) [] (u.call t e) := by
  refine Call.Ensures.bind (ensures_compile hu) (fun past k _ hk => ?_)
    (by rintro past err ⟨⟨k, ⟨⟩⟩, -⟩)
  refine Call.Ensures.bind ensures_get (fun past' c? _ hget => ?_) (by rintro past err ⟨c, ⟨⟩, -⟩)
  obtain ⟨c, ⟨⟩, hfound, hnone⟩ := hget
  refine Call.Ensures.bind (ensures_store lossless hi hfound) (fun past'' stored _ hstored => ?_)
    (by rintro past err ⟨⟨c, ⟨⟩⟩, -⟩)
  refine Call.Ensures.bind (ensures_observe _) (fun past''' _ _ hobserved => ?_)
    (by rintro past err ⟨⟨⟩, -⟩)
  -- what has been answered and counted stays so while the call is over
  refine Call.ensures_pure fun past'''' hw => ⟨⟨_, rfl⟩, ?_⟩
  rw [countP_storesFrom_eq hw, hobserved.2, hstored.2, hnone, hk.2, List.countP_nil]

end Ensures

/-! ## Two updates -/

/-- An update reads the config before another one stores, and stores after it. -/
def Overtakes (t : Uuid) (e : String) (log : List ServiceAccessEvent) (other i : ℕ) : Prop :=
  ∃ r w w', [r, w, w'].Sublist log ∧ r.place = i ∧ Reads t e r ∧
    w.place = other ∧ isStoring w = true ∧ w'.place = i ∧ isStoring w' = true

section Two

variable {t : Uuid} {e : String} {c₀ c : EntityConfig} {u v : ConfigUpdate}
  {d : Deployment} {log : List ServiceAccessEvent}

theorem endsWithin_program (u : ConfigUpdate) (t : Uuid) (e : String) :
    (u.program t e).EndsWithin 4 := by
  rintro (err | k)
  · trivial
  · rintro (err | _ | c)
    · trivial
    · trivial
    · rintro (err | stored)
      · trivial
      · exact fun _ => trivial

/-- A program that stores once has not stored before. -/
theorem place_ne_of_countP {i : ℕ} (hcount : log.countP (storesFrom i) = 1)
    {earlier later : List ServiceAccessEvent} {w : ServiceAccessEvent}
    (hlog : log = earlier ++ w :: later) (hplace : w.place = i) (hw : isStoring w = true) :
    ∀ w' ∈ earlier, isStoring w' = true → w'.place ≠ i := by
  intro w' hw' hs hp
  have hone : storesFrom i w = true := by simp [storesFrom, hplace, hw]
  have htwo : 0 < earlier.countP (storesFrom i) :=
    List.countP_pos_iff.2 ⟨w', hw', by simp [storesFrom, hp, hs]⟩
  rw [hlog, List.countP_append, List.countP_cons_of_pos hone] at hcount
  omega

/-- What is read has come about by what was made before. -/
theorem LastStored.of_read {us : List ConfigUpdate} {kind : StorageKind}
    (hbefore : ∀ earlier ev later, log = earlier ++ ev :: later →
      (keeping us t e c₀ kind).Keeps earlier ev.before)
    {earlier later : List ServiceAccessEvent} {r : ServiceAccessEvent}
    (hlog : log = earlier ++ later) (hr : r ∈ earlier)
    (hread : r.before.storage.config? t e = .ok (some c)) :
    ∃ before between, earlier = before ++ r :: between ∧ LastStored us t e c₀ before c := by
  obtain ⟨before, between, rfl⟩ := List.append_of_mem hr
  obtain ⟨-, c', hc', -, -, -, hlast⟩ := hbefore before r (between ++ later)
    (by rw [hlog, List.append_assoc, List.cons_append])
  obtain rfl : c' = c := Option.some.inj (Except.ok.inj (hc'.symm.trans hread))
  exact ⟨before, between, rfl, hlast⟩

/-- What two updates leave is what one makes of what the other has made, or what one makes of the
initial config, which it has read before the other stored. -/
theorem exists_order (us : List ConfigUpdate) (hlen : us.length = 2) {kind : StorageKind}
    (hbefore : ∀ earlier ev later, log = earlier ++ ev :: later →
      (keeping us t e c₀ kind).Keeps earlier ev.before)
    (hcount : ∀ i < 2, log.countP (storesFrom i) = 1) (hlast : LastStored us t e c₀ log c) :
    ∃ i j ui uj, i ≠ j ∧ us[i]? = some ui ∧ us[j]? = some uj ∧
      (c = uj.apply (ui.apply c₀) ∨ c = uj.apply c₀ ∧ Overtakes t e log i j) := by
  have hplace {i : ℕ} {u : ConfigUpdate} (hu : us[i]? = some u) : i < 2 :=
    hlen ▸ (List.getElem?_eq_some_iff.1 hu).1
  have hstores (i : ℕ) (hi : i < 2) : ∃ w ∈ log, w.place = i ∧ isStoring w = true := by
    obtain ⟨w, hw, hwi⟩ := List.countP_pos_iff.1 (hcount i hi ▸ Nat.one_pos)
    obtain ⟨hp, hs⟩ := Bool.and_eq_true_iff.1 hwi
    exact ⟨w, hw, beq_iff_eq.1 hp, hs⟩
  cases hlast with
  | initial hnone =>
    obtain ⟨w, hw, -, hs⟩ := hstores 0 Nat.two_pos
    cases (hnone w hw).symm.trans hs
  | @stored earlier later r w uj b hlog hw hlater hj hr hrw hreads hread =>
    have hother := place_ne_of_countP (hcount w.place (hplace hj)) hlog rfl hw
    -- what the one that stores last has read
    obtain ⟨before, between, rfl, hlast'⟩ := LastStored.of_read hbefore hlog hr hread
    cases hlast' with
    | initial hnone =>
      -- the other one has not stored by then, nor does it behind the last, so it does in between
      obtain ⟨i, hi, hij⟩ : ∃ i < 2, i ≠ w.place := by
        have := hplace hj
        exact ⟨1 - w.place, by omega, by omega⟩
      obtain ⟨w', hw', rfl, hs'⟩ := hstores i hi
      have hmem : w' ∈ between := by
        rw [hlog, List.mem_append, List.mem_append, List.mem_cons, List.mem_cons] at hw'
        rcases hw' with (h | rfl | h) | rfl | h
        · cases (hnone w' h).symm.trans hs'
        · exact absurd hrw hij
        · exact h
        · exact absurd rfl hij
        · cases (hlater w' h).symm.trans hs'
      have hi' : w'.place < us.length := hlen ▸ hi
      refine ⟨w'.place, w.place, us[w'.place], uj, hij, List.getElem?_eq_getElem hi', hj,
        Or.inr ⟨rfl, r, w', w, ?_, hrw, hreads, rfl, hs', rfl, hw⟩⟩
      have hfirst : [r, w'].Sublist (before ++ r :: between) :=
        ((List.singleton_sublist.2 hmem).cons_cons r).trans (List.sublist_append_right before _)
      rw [hlog]
      exact hfirst.append (List.singleton_sublist.2 List.mem_cons_self)
    | @stored earlier' later' r' w' ui b' hbefore' hw' hlater' hi hr' hrw' hreads' hread' =>
      -- the other one has, and what it has read is the initial config, as each stores once only
      have hij : w'.place ≠ w.place := hother w' (by simp [hbefore']) hw'
      have hlog' : log = earlier' ++ w' :: (later' ++ r :: (between ++ w :: later)) := by
        simp [hlog, hbefore']
      have hother' := place_ne_of_countP (hcount w'.place (hplace hi)) hlog' rfl hw'
      obtain ⟨before', between', rfl, hlast'⟩ := LastStored.of_read hbefore hlog' hr' hread'
      refine ⟨w'.place, w.place, ui, uj, hij, hi, hj, Or.inl ?_⟩
      cases hlast' with
      | initial hnone => rfl
      | @stored _ _ _ w₃ _ _ hbefore₃ hw₃ _ h₃ _ _ _ _ =>
        -- a third store would have a third place
        have hne : w₃.place ≠ w.place := hother w₃ (by simp [hbefore', hbefore₃]) hw₃
        have hne' : w₃.place ≠ w'.place := hother' w₃ (by simp [hbefore₃]) hw₃
        have := hplace h₃
        have := hplace hi
        have := hplace hj
        omega

/-- An update that runs alone stores what it makes of the config. -/
theorem run_call (hc : d.storage.config? t e = .ok (some c)) (ht : c.tenantId = t)
    (he : c.entityType = e) (hu : u.schema.check = .ok ()) :
    ((u.call t e).run d).2.storage = d.storage.storeConfig (u.apply c) := by
  obtain ⟨k, hk⟩ := d.cache.exists_getOrCompile hu
  -- none of the accesses fails, so each is followed by the next one
  have hcompile : (Call.compile u.schema).run d =
      (.ok k, { d with cache := (d.cache.getOrCompile u.schema).2 }) := by
    rw [Call.run_compile, hk]
    rfl
  generalize hd₁ : { d with cache := (d.cache.getOrCompile u.schema).2 } = d₁ at hcompile
  have hstorage : d₁.storage = d.storage := by rw [← hd₁]
  rw [← hstorage] at hc ⊢
  have hget : (Configs.get t e).run d₁ = (.ok (some c), d₁) := by
    refine (Call.run_store _ d₁).trans ?_
    rw [d₁.storage.serve_getConfig, hc]
    rfl
  have hstore : (Call.store (.updateConfig (u.apply c))).run d₁ =
      (.ok (u.apply c), { d₁ with storage := d₁.storage.storeConfig (u.apply c) }) := by
    have hc' : d₁.storage.config? (u.apply c).tenantId (u.apply c).entityType = .ok (some c) :=
      (congrArg₂ d₁.storage.config? ht he).trans hc
    rw [Call.run_store, Storage.serve_updateConfig_of_config? hc']
    rfl
  rw [call, Configs.update, Call.run_bind_ok hcompile, Call.run_bind_ok hget]
  have hrest := Call.run_bind_ok (f := fun updated => do
    Call.observe (.configWrite "update")
    return updated) hstore
  exact congrArg (fun r => r.2.storage) hrest

/-- A config has the name and the schema that two updates leave one after the other. -/
def LeftBy (d : Deployment) (t : Uuid) (e : String) (first second : ConfigUpdate)
    (c : EntityConfig) : Prop :=
  ∃ c', ((second.call t e).run ((first.call t e).run d).2).2.storage.config? t e = .ok (some c') ∧
    c.name = c'.name ∧ c.schema = c'.schema

theorem leftBy_iff (hc : d.storage.config? t e = .ok (some c₀)) (ht : c₀.tenantId = t)
    (he : c₀.entityType = e) (hu : u.schema.check = .ok ()) (hv : v.schema.check = .ok ())
    (hread : d.storage.kind.ReadsConfig (u.apply c₀) (u.apply c₀))
    (hread' : d.storage.kind.ReadsConfig (v.apply (u.apply c₀)) (v.apply (u.apply c₀))) :
    LeftBy d t e u v c ↔ c.name = v.name.or (u.name.or c₀.name) ∧ c.schema = v.schema := by
  have hself {S : Storage} {c : EntityConfig} (ht : c.tenantId = t) (he : c.entityType = e)
      (hread : S.kind.ReadsConfig c c) : (S.storeConfig c).config? t e = .ok (some c) := by
    subst ht he
    exact Storage.config?_storeConfig_self hread
  have hfirst := run_call hc ht he hu
  have hc' : ((u.call t e).run d).2.storage.config? t e = .ok (some (u.apply c₀)) := by
    rw [hfirst]
    exact hself ht he hread
  have hboth : ((v.call t e).run ((u.call t e).run d).2).2.storage.config? t e =
      .ok (some (v.apply (u.apply c₀))) := by
    rw [run_call hc' ht he hv, hfirst]
    exact hself ht he ((Storage.kind_storeConfig _ _).symm ▸ hread')
  constructor
  · rintro ⟨c', hc', hname, hschema⟩
    obtain rfl := Option.some.inj (Except.ok.inj (hboth.symm.trans hc'))
    exact ⟨hname, hschema⟩
  · rintro ⟨hname, hschema⟩
    exact ⟨_, hboth, hname, hschema⟩

/-- The name that an update gives is lost: the other one gives none, has read the config before it
and stores after it, and leaves the initial name. -/
def LosesName (t : Uuid) (e : String) (c₀ : EntityConfig) (log : List ServiceAccessEvent)
    (i : ℕ) (u : ConfigUpdate) (j : ℕ) (v : ConfigUpdate) (c : EntityConfig) : Prop :=
  Overtakes t e log i j ∧ u.name ≠ none ∧ v.name = none ∧ c.name = c₀.name ∧ c.schema = v.schema

/-- Of what the second update may have read, it matters only whether it had the name of the
first. -/
theorem leftBy_or_losesName (hc : d.storage.config? t e = .ok (some c₀)) (ht : c₀.tenantId = t)
    (he : c₀.entityType = e) (hu : u.schema.check = .ok ()) (hv : v.schema.check = .ok ())
    (hread : d.storage.kind.ReadsConfig (u.apply c₀) (u.apply c₀))
    (hread' : d.storage.kind.ReadsConfig (v.apply (u.apply c₀)) (v.apply (u.apply c₀))) {i j : ℕ}
    (h : c = v.apply (u.apply c₀) ∨ c = v.apply c₀ ∧ Overtakes t e log i j) :
    LeftBy d t e u v c ∨ LosesName t e c₀ log i u j v c := by
  rw [leftBy_iff hc ht he hu hv hread hread']
  obtain rfl | ⟨rfl, hover⟩ := h
  · exact Or.inl ⟨rfl, rfl⟩
  · cases hnv : v.name with
    | some name => exact Or.inl ⟨by simp [apply, hnv], rfl⟩
    | none =>
      cases hnu : u.name with
      | none => exact Or.inl ⟨by simp [apply, hnv], rfl⟩
      | some name => exact Or.inr ⟨hover, by simp [hnu], hnv, by simp [apply, hnv], rfl⟩

/-- A name that an update gives and the other does not is there, unless it is overtaken. -/
theorem name_eq_or_overtakes {us : List ConfigUpdate} {i j k l : ℕ} {ui uj : ConfigUpdate}
    (hi : us[i]? = some ui) (hj : us[j]? = some uj) (hu : us[k]? = some u) (hv : us[l]? = some v)
    (hcases : k = i ∧ l = j ∨ k = j ∧ l = i)
    (h : c = uj.apply (ui.apply c₀) ∨ c = uj.apply c₀ ∧ Overtakes t e log i j) {name : String}
    (hnu : u.name = some name) (hnv : v.name = none) :
    c.name = some name ∨ Overtakes t e log k l := by
  obtain ⟨rfl, rfl⟩ | ⟨rfl, rfl⟩ := hcases
  · cases hu.symm.trans hi
    cases hv.symm.trans hj
    obtain rfl | ⟨rfl, hover⟩ := h
    · left
      simp [apply, hnu, hnv, EntityConfig.replaceSchema]
    · exact Or.inr hover
  · cases hu.symm.trans hj
    left
    obtain rfl | ⟨rfl, -⟩ := h <;> simp [apply, hnu]

section Run

variable {schedule : List ℕ}
  {programs : List (Program serviceInterface (Except ServiceError EntityConfig))} {d' : Deployment}

/-- When two updates are done, both have succeeded and each has stored once. -/
theorem after_two (hc : d.storage.config? t e = .ok (some c₀)) (ht : c₀.tenantId = t)
    (he : c₀.entityType = e) (hu : u.schema.check = .ok ()) (hv : v.schema.check = .ok ())
    (lossless : ∀ c, Reaches [u, v] c₀ c → d.storage.kind.ReadsConfig c c)
    (h₀ : 4 ≤ schedule.count 0) (h₁ : 4 ≤ schedule.count 1)
    (hrun : runSchedule Deployment.serve schedule [u.program t e, v.program t e] d = (programs, d'))
    (hlog : scheduleEvents Deployment.serve schedule [u.program t e, v.program t e] d = log) :
    (∀ i < 2, ∃ a, programs[i]? = some (.done (.ok a))) ∧
      (∀ i < 2, log.countP (storesFrom i) = 1) ∧
      (∀ earlier ev later, log = earlier ++ ev :: later →
        (keeping [u, v] t e c₀ d.storage.kind).Keeps earlier ev.before) ∧
      ∃ c, d'.storage.config? t e = .ok (some c) ∧ LastStored [u, v] t e c₀ log c := by
  have hkeeps : (keeping [u, v] t e c₀ d.storage.kind).Keeps [] d :=
    ⟨rfl, c₀, hc, ht, he, .start, .initial (by simp)⟩
  have hensures : ∀ j, ∀ p ∈ [u.program t e, v.program t e][j]?,
      (keeping [u, v] t e c₀ d.storage.kind).Ensures j
        (fun past r => (∃ c, r = .ok c) ∧ past.countP (storesFrom j) = 1) [] p := by
    rintro (_ | _ | j) p hp
    · cases hp
      exact ensures_call lossless rfl hu
    · cases hp
      exact ensures_call lossless rfl hv
    · cases hp
  have hallowed : ∀ ev ∈ scheduleEvents Deployment.serve schedule [u.program t e, v.program t e] d,
      (keeping [u, v] t e c₀ d.storage.kind).Allowed ev := fun _ _ => trivial
  have hdone : ∀ i < 2, ∃ a, programs[i]? = some (.done a) := by
    intro i hi
    have hprograms : programs = (runSchedule Deployment.serve schedule
        [u.program t e, v.program t e] d).1 := (congrArg Prod.fst hrun).symm
    rw [hprograms]
    interval_cases i
    · exact runSchedule_done h₀ rfl (endsWithin_program u t e) d
    · exact runSchedule_done h₁ rfl (endsWithin_program v t e) d
  obtain ⟨⟨-, c, hc', -, -, -, hlast⟩, hprograms⟩ :=
    Contract.after_schedule schedule hkeeps hensures hallowed
  rw [hrun] at hc' hprograms
  rw [hlog] at hlast hprograms
  -- what each program ensures when it is done
  have hpost : ∀ i < 2, (∃ a, programs[i]? = some (.done (.ok a))) ∧
      log.countP (storesFrom i) = 1 := by
    intro i hi
    obtain ⟨r, hr⟩ := hdone i hi
    obtain ⟨⟨a, rfl⟩, hcount⟩ := hprograms i _ hr _ (Waits.refl i _)
    exact ⟨⟨a, hr⟩, hcount⟩
  refine ⟨fun i hi => (hpost i hi).1, fun i hi => (hpost i hi).2, fun earlier ev later h => ?_, c,
    hc', hlast⟩
  exact Contract.before_event hkeeps hensures hallowed (hlog.trans h)

/-- **What two updates of the config of a pair leave**, in whatever order their accesses are made.
Both succeed. The name and the schema are those that the two leave one after the other, in one order
or the other, unless a name is lost; so a name that one of them gives and the other does not is
there in the end, unless the other one has read the config before it was stored and stores after
it. In memory this is so of all updates, and in a tree of those that leave configs which are read
from their texts as they are. -/
theorem config_of_two (hc : d.storage.config? t e = .ok (some c₀)) (ht : c₀.tenantId = t)
    (he : c₀.entityType = e) (hu : u.schema.check = .ok ()) (hv : v.schema.check = .ok ())
    (lossless : ∀ c, Reaches [u, v] c₀ c → d.storage.kind.ReadsConfig c c)
    (h₀ : 4 ≤ schedule.count 0) (h₁ : 4 ≤ schedule.count 1)
    (hrun : runSchedule Deployment.serve schedule [u.program t e, v.program t e] d = (programs, d'))
    (hlog : scheduleEvents Deployment.serve schedule [u.program t e, v.program t e] d = log) :
    (∀ i < 2, ∃ a, programs[i]? = some (.done (.ok a))) ∧
      ∃ c, d'.storage.config? t e = .ok (some c) ∧
        (LeftBy d t e u v c ∨ LeftBy d t e v u c ∨
          LosesName t e c₀ log 0 u 1 v c ∨ LosesName t e c₀ log 1 v 0 u c) ∧
        (∀ name, u.name = some name → v.name = none → c.name = some name ∨ Overtakes t e log 0 1) ∧
        ∀ name, v.name = some name → u.name = none →
          c.name = some name ∨ Overtakes t e log 1 0 := by
  obtain ⟨hdone, hcount, hbefore, c, hc', hlast⟩ :=
    after_two hc ht he hu hv lossless h₀ h₁ hrun hlog
  refine ⟨hdone, c, hc', ?_⟩
  obtain ⟨i, j, ui, uj, hij, hi, hj, horder⟩ :=
    exists_order [u, v] rfl hbefore hcount hlast
  have hread {x y : ConfigUpdate} (hx : x ∈ [u, v]) (hy : y ∈ [u, v]) :=
    And.intro (lossless _ (.apply hx .start)) (lossless _ (.apply hy (.apply hx .start)))
  have hmemu : u ∈ [u, v] := List.mem_cons_self
  have hmemv : v ∈ [u, v] := List.mem_cons_of_mem u List.mem_cons_self
  have hi' : i < 2 := (List.getElem?_eq_some_iff.1 hi).1
  have hj' : j < 2 := (List.getElem?_eq_some_iff.1 hj).1
  refine ⟨?_, fun name => ?_, fun name => ?_⟩
  · obtain ⟨rfl, rfl⟩ | ⟨rfl, rfl⟩ : i = 0 ∧ j = 1 ∨ i = 1 ∧ j = 0 := by omega
    · cases hi
      cases hj
      rcases leftBy_or_losesName hc ht he hu hv (hread hmemu hmemv).1 (hread hmemu hmemv).2 horder
        with h | h
      · exact Or.inl h
      · exact Or.inr (Or.inr (Or.inl h))
    · cases hi
      cases hj
      rcases leftBy_or_losesName hc ht he hv hu (hread hmemv hmemu).1 (hread hmemv hmemu).2 horder
        with h | h
      · exact Or.inr (Or.inl h)
      · exact Or.inr (Or.inr (Or.inr h))
  · exact name_eq_or_overtakes hi hj rfl rfl (by omega) horder
  · exact name_eq_or_overtakes hi hj rfl rfl (by omega) horder

end Run

end Two

/-! ### A name that is lost -/

/-- The config of a pair, without a name and without fields. -/
def siteConfig : EntityConfig :=
  .new (.ofNat 9) (.ofNat 1) "site" none .empty ⟨0, 0⟩

/-- A deployment in memory that has this config. -/
def siteDeployment : Deployment :=
  { Deployment.new (.new .empty) .memory 2 false with
    storage := (Storage.new .memory).storeConfig siteConfig }

/-- An update that gives a name and a field. -/
def namingUpdate : ConfigUpdate where
  name := some "A"
  schema := ⟨[.new "code" "Code" .string]⟩
  moment := { freshId := .ofNat 2, now := ⟨60, 0⟩, today := ⟨2024, 2, 29⟩ }

/-- An update that gives another field and no name. -/
def fieldUpdate : ConfigUpdate where
  name := none
  schema := ⟨[.new "note" "Note" .string]⟩
  moment := { freshId := .ofNat 3, now := ⟨61, 0⟩, today := ⟨2024, 2, 29⟩ }

/-- The second one reads before the first one stores, and stores after it. -/
def overtakingSchedule : List ℕ := [0, 1, 0, 1, 0, 0, 1, 1]

/-- Two updates of one config. -/
def sitePrograms : List (Program serviceInterface (Except ServiceError EntityConfig)) :=
  [namingUpdate.program (.ofNat 1) "site", fieldUpdate.program (.ofNat 1) "site"]

/-- The two updates, of which one overtakes the other. -/
def overtakingRun :
    List (Program serviceInterface (Except ServiceError EntityConfig)) × Deployment :=
  runSchedule Deployment.serve overtakingSchedule sitePrograms siteDeployment

/-- The accesses of the two updates. -/
def overtakingLog : List ServiceAccessEvent :=
  scheduleEvents Deployment.serve overtakingSchedule sitePrograms siteDeployment

theorem config?_siteDeployment :
    siteDeployment.storage.config? (.ofNat 1) "site" = .ok (some siteConfig) := rfl

theorem check_namingUpdate : namingUpdate.schema.check = .ok () := by decide +kernel

theorem check_fieldUpdate : fieldUpdate.schema.check = .ok () := by decide +kernel

theorem runSchedule_overtaking :
    runSchedule Deployment.serve overtakingSchedule sitePrograms siteDeployment =
      (overtakingRun.1, overtakingRun.2) := Prod.mk.eta.symm

theorem config_of_two_siteDeployment :
    namingUpdate.schema.check = .ok () ∧ fieldUpdate.schema.check = .ok () ∧
      (∀ i < 2, ∃ a, overtakingRun.1[i]? = some (.done (.ok a))) ∧
      ∃ c, overtakingRun.2.storage.config? (.ofNat 1) "site" = .ok (some c) ∧
        (LeftBy siteDeployment (.ofNat 1) "site" namingUpdate fieldUpdate c ∨
          LeftBy siteDeployment (.ofNat 1) "site" fieldUpdate namingUpdate c ∨
          LosesName (.ofNat 1) "site" siteConfig overtakingLog 0 namingUpdate 1 fieldUpdate c ∨
          LosesName (.ofNat 1) "site" siteConfig overtakingLog 1 fieldUpdate 0 namingUpdate c) ∧
        (c.name = some "A" ∨ Overtakes (.ofNat 1) "site" overtakingLog 0 1) := by
  obtain ⟨hdone, c, hc, hleft, hname, -⟩ := config_of_two config?_siteDeployment rfl rfl
    check_namingUpdate check_fieldUpdate (fun _ _ => rfl) (by decide) (by decide)
    runSchedule_overtaking rfl
  exact ⟨check_namingUpdate, check_fieldUpdate, hdone, c, hc, hleft, hname "A" rfl rfl⟩

/-- **A name can be lost.** Both updates succeed, the name that one of them gives is not there in
the end, and neither order of the two leaves what they leave among each other. -/
theorem overtakingRun_loses_name :
    (∀ i < 2, ∃ a, overtakingRun.1[i]? = some (.done (.ok a))) ∧
      ∃ c, overtakingRun.2.storage.config? (.ofNat 1) "site" = .ok (some c) ∧ c.name = none ∧
        ¬ LeftBy siteDeployment (.ofNat 1) "site" namingUpdate fieldUpdate c ∧
        ¬ LeftBy siteDeployment (.ofNat 1) "site" fieldUpdate namingUpdate c := by
  obtain ⟨hdone, -, -, c, hc, -⟩ := after_two config?_siteDeployment rfl rfl
    check_namingUpdate check_fieldUpdate (fun _ _ => rfl) (by decide) (by decide)
    runSchedule_overtaking rfl
  have hname : (overtakingRun.2.storage.config? (.ofNat 1) "site").toOption.map (·.map (·.name)) =
      some (some none) := by decide +kernel
  have hnone : c.name = none := by
    rw [hc] at hname
    simpa [Except.toOption] using hname
  refine ⟨hdone, c, hc, hnone, ?_, ?_⟩
  · rw [leftBy_iff config?_siteDeployment rfl rfl check_namingUpdate check_fieldUpdate rfl rfl,
      hnone]
    rintro ⟨⟨⟩, -⟩
  · rw [leftBy_iff config?_siteDeployment rfl rfl check_fieldUpdate check_namingUpdate rfl rfl,
      hnone]
    rintro ⟨⟨⟩, -⟩

end ConfigUpdate

end CustomFields
