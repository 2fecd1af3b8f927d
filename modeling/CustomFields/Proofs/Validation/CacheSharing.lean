import CustomFields.Proofs.Validation.CacheCalls

/-!
# Which calls share a compilation

Calls that follow each other get the same compilation of a schema for as long as the cache holds it,
and the cache holds it until it starts over, because it is asked to or because another schema does
not fit. So whether two calls have got the same compilation is told by the calls between them.

A compilation is known by its number. Numbers are given once, so a number that is not held any
longer does not come back; this is what carries the proof that calls on the two sides of a new start
have got different compilations of one schema.

## Main definitions

* `SchemaCache.Holds`: a compilation is held for a schema
* `CacheEvent`, `SchemaCache.events`: the calls of a session, each with the cache that it found
* `CacheEvent.StartsOver`: a call that drops what was held
* `SchemaCache.Confined`: a number that has been given, and the fingerprints that it can be held
  under

## Main results

* `SchemaCache.got_getOrCompile`: what a call that gets a schema can do
* `SchemaCache.calls_share_compilations`: what each call does, and which calls share a compilation
-/

namespace CustomFields

/-! ## Sessions -/

namespace SchemaCache

/-- A compilation is held for a schema. -/
def Holds (c : SchemaCache) (s : Schema) (x : Compilation) : Prop :=
  (s.fingerprint, x) ∈ c.entries

/-- The answer to a call, and the cache behind it. -/
def call (c : SchemaCache) : CacheCall → CacheCall.Answer × SchemaCache
  | .get s => (some (c.getOrCompile s).1, (c.getOrCompile s).2)
  | .clear => (none, c.clear)

end SchemaCache

/-- A call, and the cache that it found. -/
structure CacheEvent where
  before : SchemaCache
  call : CacheCall

namespace CacheEvent

/-- What a call has answered. -/
def answer (ev : CacheEvent) : CacheCall.Answer :=
  (ev.before.call ev.call).1

/-- The cache that a call has left. -/
def after (ev : CacheEvent) : SchemaCache :=
  (ev.before.call ev.call).2

/-- A call drops what was held: it empties the cache, or it gets a valid schema that is not held
while the cache is full. -/
inductive StartsOver (ev : CacheEvent) : Prop
  | clear (call : ev.call = .clear)
  | overflow {s : Schema} {k : CompiledSchema} (call : ev.call = .get s)
    (valid : CompiledSchema.compile s = .ok k) (missing : ∀ x, ¬ ev.before.Holds s x)
    (full : ev.before.capacity ≤ ev.before.size)

end CacheEvent

namespace SchemaCache

/-- Calls that follow each other. -/
def events : SchemaCache → List CacheCall → List CacheEvent
  | _, [] => []
  | c, k :: ks => ⟨c, k⟩ :: (c.call k).2.events ks

variable {c : SchemaCache} {ks : List CacheCall} {ev : CacheEvent} {early late : List CacheEvent}

theorem call_mem_of_mem_events (h : ev ∈ c.events ks) : ev.call ∈ ks := by
  induction ks generalizing c with
  | nil => cases h
  | cons k ks ih =>
    rcases List.mem_cons.1 h with rfl | h
    · exact List.mem_cons_self
    · exact List.mem_cons_of_mem _ (ih h)

/-- Behind a call a session goes on from the cache that the call leaves. -/
theorem exists_events_after (h : c.events ks = early ++ ev :: late) :
    ∃ ks', ev.after.events ks' = late := by
  induction ks generalizing c early with
  | nil => cases (List.append_eq_nil_iff.1 h.symm).2
  | cons k ks ih =>
    cases early with
    | nil =>
      obtain ⟨rfl, htail⟩ := List.cons.inj h
      exact ⟨ks, htail⟩
    | cons v early => exact ih (List.cons.inj h).2

/-- **What each call keeps holds of the cache that a later call finds.** -/
theorem before_of_events {I : SchemaCache → Prop} (hc : I c)
    (h : c.events ks = early ++ ev :: late)
    (hkeeps : ∀ v ∈ early, I v.before → I v.after) : I ev.before := by
  induction ks generalizing c early with
  | nil => cases (List.append_eq_nil_iff.1 h.symm).2
  | cons k ks ih =>
    cases early with
    | nil =>
      obtain ⟨rfl, -⟩ := List.cons.inj h
      exact hc
    | cons v early =>
      obtain ⟨rfl, htail⟩ := List.cons.inj h
      exact ih (hkeeps _ List.mem_cons_self hc) htail
        fun u hu => hkeeps u (List.mem_cons_of_mem _ hu)

/-! ## What a call can do -/

/-- What a call that gets a schema can do: answer with what is held, fail, or hold what it has
compiled, beside what is held or in its place. -/
inductive Got (c : SchemaCache) (s : Schema) :
    Except SchemaError Compilation → SchemaCache → Prop
  | held {x : Compilation} (holds : c.Holds s x) : Got c s (.ok x) c
  | refused {e : SchemaError} (missing : ∀ x, ¬ c.Holds s x)
    (invalid : CompiledSchema.compile s = .error e) : Got c s (.error e) c
  | added {k : CompiledSchema} (missing : ∀ x, ¬ c.Holds s x)
    (valid : CompiledSchema.compile s = .ok k) (room : c.size < c.capacity) :
    Got c s (.ok ⟨c.compiled, k⟩)
      ⟨c.capacity, c.entries ++ [(s.fingerprint, ⟨c.compiled, k⟩)], c.compiled + 1⟩
  | startedOver {k : CompiledSchema} (missing : ∀ x, ¬ c.Holds s x)
    (valid : CompiledSchema.compile s = .ok k) (full : c.capacity ≤ c.size) :
    Got c s (.ok ⟨c.compiled, k⟩)
      ⟨c.capacity, [(s.fingerprint, ⟨c.compiled, k⟩)], c.compiled + 1⟩

theorem missing_of_lookup? {s : Schema} (h : c.lookup? s.fingerprint = none) (x : Compilation) :
    ¬ c.Holds s x :=
  fun hx => Entries.get?_eq_none_iff.1 h (Entries.mem_keys_of_mem hx)

/-- What is not held yet is held beside the rest, or alone where there is no room. -/
theorem insert_of_lookup? {fingerprint : String} (h : c.lookup? fingerprint = none)
    (new : Compilation) :
    c.insert fingerprint new =
      (new, { c with
        entries := if c.capacity ≤ c.size then [(fingerprint, new)]
          else c.entries ++ [(fingerprint, new)] }) := by
  simp only [insert, h]
  split
  · rfl
  · rw [Entries.assign_of_not_mem (Entries.get?_eq_none_iff.1 h)]

/-- **A call that gets a schema** does what the cache and the schema tell it to. -/
theorem got_getOrCompile (c : SchemaCache) (s : Schema) :
    c.Got s (c.getOrCompile s).1 (c.getOrCompile s).2 := by
  cases hl : c.lookup? s.fingerprint with
  | some x =>
    simp only [getOrCompile, hl]
    exact .held (Entries.mem_of_get?_eq_some hl)
  | none =>
    have hmissing := missing_of_lookup? hl
    cases hk : CompiledSchema.compile s with
    | error e =>
      simp only [getOrCompile, hl, compile, hk]
      exact .refused hmissing hk
    | ok k =>
      -- the number that is given does not change what is found
      have hl' : lookup? { c with compiled := c.compiled + 1 } s.fingerprint = none := hl
      simp only [getOrCompile, hl, compile, hk, insert_of_lookup? hl']
      split
      · rename_i hfull
        exact .startedOver hmissing hk hfull
      · rename_i hroom
        exact .added hmissing hk (Nat.lt_of_not_le hroom)

/-! ## What calls keep -/

/-- Each fingerprint and each number is held once, and a number that is held has been given. -/
structure Numbered (c : SchemaCache) : Prop where
  nodup : (Entries.keys c.entries).Nodup
  lt : ∀ f x, (f, x) ∈ c.entries → x.number < c.compiled
  eq : ∀ f x g y, (f, x) ∈ c.entries → (g, y) ∈ c.entries → x.number = y.number → f = g

/-- A number has been given, and if it is held, the fingerprint is one of some. -/
structure Confined (n : ℕ) (P : String → Prop) (c : SchemaCache) : Prop where
  lt : n < c.compiled
  under : ∀ f x, (f, x) ∈ c.entries → x.number = n → P f

theorem numbered_of_entries_eq_nil (h : c.entries = []) : c.Numbered where
  nodup := by rw [h]; exact List.nodup_nil
  lt f x hm := by rw [h] at hm; cases hm
  eq f x g y hm := by rw [h] at hm; cases hm

/-- A number that is given is greater than those that are held. -/
theorem Numbered.add (h : c.Numbered) {f : String} (hf : f ∉ Entries.keys c.entries)
    (k : CompiledSchema) :
    Numbered ⟨c.capacity, c.entries ++ [(f, ⟨c.compiled, k⟩)], c.compiled + 1⟩ where
  nodup := by
    rw [Entries.keys, List.map_append]
    refine List.nodup_append.2 ⟨h.nodup, List.nodup_singleton f, ?_⟩
    rintro g hg _ hgf rfl
    obtain rfl := List.mem_singleton.1 hgf
    exact hf hg
  lt g x hm := by
    rcases List.mem_append.1 hm with hold | hnew
    · exact Nat.lt_succ_of_lt (h.lt g x hold)
    · obtain ⟨rfl, rfl⟩ := Prod.mk.inj (List.mem_singleton.1 hnew)
      exact Nat.lt_succ_self _
  eq g x g' y hx hy hxy := by
    rcases List.mem_append.1 hx with hxold | hxnew
    · rcases List.mem_append.1 hy with hyold | hynew
      · exact h.eq g x g' y hxold hyold hxy
      · obtain ⟨-, rfl⟩ := Prod.mk.inj (List.mem_singleton.1 hynew)
        exact absurd hxy (Nat.ne_of_lt (h.lt g x hxold))
    · obtain ⟨rfl, rfl⟩ := Prod.mk.inj (List.mem_singleton.1 hxnew)
      rcases List.mem_append.1 hy with hyold | hynew
      · exact absurd hxy.symm (Nat.ne_of_lt (h.lt g' y hyold))
      · exact (Prod.mk.inj (List.mem_singleton.1 hynew)).1.symm

/-- What is held for a schema is one compilation. -/
theorem Numbered.holds_unique (h : c.Numbered) {s : Schema} {x y : Compilation}
    (hx : c.Holds s x) (hy : c.Holds s y) : x = y :=
  Option.some.inj (((Entries.get?_eq_some_iff h.nodup).2 hx).symm.trans
    ((Entries.get?_eq_some_iff h.nodup).2 hy))

/-- A number that is held is confined to its fingerprint. -/
theorem Numbered.confined (h : c.Numbered) {s : Schema} {x : Compilation} (hx : c.Holds s x) :
    c.Confined x.number (· = s.fingerprint) where
  lt := h.lt _ _ hx
  under f y hy hyx := h.eq f y _ x hy hx hyx

/-- No number is held behind a new start. -/
theorem Confined.clear {n : ℕ} {P : String → Prop} (h : c.Confined n P) (P' : String → Prop) :
    c.clear.Confined n P' where
  lt := h.lt
  under _ _ hm := by cases hm

/-- A number that is given is none of those given before. -/
theorem Confined.add {n : ℕ} {P : String → Prop} (h : c.Confined n P) (f : String)
    (k : CompiledSchema) :
    Confined n P ⟨c.capacity, c.entries ++ [(f, ⟨c.compiled, k⟩)], c.compiled + 1⟩ where
  lt := Nat.lt_succ_of_lt h.lt
  under g x hm hx := by
    rcases List.mem_append.1 hm with hold | hnew
    · exact h.under g x hold hx
    · obtain ⟨-, rfl⟩ := Prod.mk.inj (List.mem_singleton.1 hnew)
      exact absurd hx.symm (Nat.ne_of_lt h.lt)

variable {s : Schema} {r : Except SchemaError Compilation} {c' : SchemaCache} {n : ℕ}
  {P : String → Prop}

theorem not_mem_keys_of_missing (h : ∀ x, ¬ c.Holds s x) :
    s.fingerprint ∉ Entries.keys c.entries := by
  intro hmem
  obtain ⟨e, he, hf⟩ := List.mem_map.1 hmem
  exact h e.2 (by rw [Holds, ← hf]; exact he)

theorem Got.capacity_eq (h : Got c s r c') : c'.capacity = c.capacity := by
  cases h <;> rfl

theorem Got.numbered (h : Got c s r c') (hc : c.Numbered) : c'.Numbered := by
  cases h with
  | held => exact hc
  | refused => exact hc
  | added missing => exact hc.add (not_mem_keys_of_missing missing) _
  | startedOver =>
    exact Numbered.add (c := c.clear) (numbered_of_entries_eq_nil rfl) List.not_mem_nil _

/-- What a call answers is held behind it. -/
theorem Got.holds {x : Compilation} (h : Got c s (.ok x) c') : c'.Holds s x := by
  cases h with
  | held holds => exact holds
  | added => exact List.mem_append_right _ (List.mem_singleton_self _)
  | startedOver => exact List.mem_singleton_self _

theorem Got.confined (h : Got c s r c') (hc : c.Confined n P) : c'.Confined n P := by
  cases h with
  | held => exact hc
  | refused => exact hc
  | added => exact hc.add _ _
  | startedOver => exact (hc.clear P).add _ _

/-- A call whose schema is held answers with what is held. -/
theorem Got.eq_of_holds {x : Compilation} (h : Got c s r c') (hc : c.Numbered)
    (hx : c.Holds s x) : r = .ok x ∧ c' = c := by
  cases h with
  | held holds => exact ⟨congrArg Except.ok (hc.holds_unique holds hx), rfl⟩
  | refused missing => exact absurd hx (missing x)
  | added missing => exact absurd hx (missing x)
  | startedOver missing => exact absurd hx (missing x)

/-- A call for a valid schema that is not held compiles it. -/
theorem Got.cases_of_missing {k : CompiledSchema} (h : Got c s r c')
    (hk : CompiledSchema.compile s = .ok k) (hmissing : ∀ x, ¬ c.Holds s x) :
    ∃ x : Compilation, r = .ok x ∧ x.schema = k ∧ c' = { c with
      compiled := c.compiled + 1
      entries := if c.capacity ≤ c.size then [(s.fingerprint, x)]
        else c.entries ++ [(s.fingerprint, x)] } := by
  cases h with
  | held holds => exact absurd holds (hmissing _)
  | refused _ invalid => cases hk.symm.trans invalid
  | added _ valid room =>
    obtain rfl := Except.ok.inj (hk.symm.trans valid)
    exact ⟨_, rfl, rfl, by rw [if_neg (Nat.not_le_of_lt room)]⟩
  | startedOver _ valid full =>
    obtain rfl := Except.ok.inj (hk.symm.trans valid)
    exact ⟨_, rfl, rfl, by rw [if_pos full]⟩

/-- A call that fails is for a schema that does not compile. -/
theorem Got.of_error {e : SchemaError} (h : Got c s (.error e) c') :
    CompiledSchema.compile s = .error e ∧ c' = c := by
  cases h with
  | refused _ invalid => exact ⟨invalid, rfl⟩

/-- A call that answers with a number given before gets a schema that the number is held for. -/
theorem Got.under {x : Compilation} (h : Got c s (.ok x) c') (hc : c.Confined n P)
    (hx : x.number = n) : P s.fingerprint := by
  cases h with
  | held holds => exact hc.under _ _ holds hx
  | added => exact absurd hx.symm (Nat.ne_of_lt hc.lt)
  | startedOver => exact absurd hx.symm (Nat.ne_of_lt hc.lt)

end SchemaCache

namespace CacheEvent

open SchemaCache

variable {ev : CacheEvent} {s : Schema} {n : ℕ} {P : String → Prop}

theorem exists_got (h : ev.call = .get s) :
    ∃ r, ev.answer = some r ∧ ev.before.Got s r ev.after := by
  obtain ⟨c, k⟩ := ev
  cases h
  exact ⟨_, rfl, got_getOrCompile c s⟩

theorem got_of_answer {r : Except SchemaError Compilation} (h : ev.call = .get s)
    (hr : ev.answer = some r) : ev.before.Got s r ev.after := by
  obtain ⟨r', hr', hgot⟩ := exists_got h
  rwa [Option.some.inj (hr.symm.trans hr')]

theorem entries_after_of_clear (h : ev.call = .clear) : ev.after.entries = [] := by
  obtain ⟨c, k⟩ := ev
  cases h
  rfl

/-- What holds of an emptied cache, and wherever a schema has been got, holds behind each call. -/
theorem after_of_cases {I : SchemaCache → Prop}
    (hclear : ev.call = .clear → I ev.before.clear)
    (hget : ∀ t r c, ev.call = .get t → ev.before.Got t r c → I c) : I ev.after := by
  obtain ⟨c, _ | _⟩ := ev
  · exact hget _ _ _ rfl (got_getOrCompile c _)
  · exact hclear rfl

theorem capacity_after (ev : CacheEvent) : ev.after.capacity = ev.before.capacity :=
  after_of_cases (I := fun c => c.capacity = ev.before.capacity) (fun _ => rfl)
    fun _ _ _ _ hgot => hgot.capacity_eq

theorem numbered_after (h : ev.before.Numbered) : ev.after.Numbered :=
  after_of_cases (fun _ => numbered_of_entries_eq_nil rfl) fun _ _ _ _ hgot => hgot.numbered h

theorem confined_after (h : ev.before.Confined n P) : ev.after.Confined n P :=
  after_of_cases (fun _ => h.clear P) fun _ _ _ _ hgot => hgot.confined h

/-- A number that has been given is not held behind a new start. -/
theorem StartsOver.confined_after (h : ev.StartsOver) (hn : ev.before.Confined n P) :
    ev.after.Confined n fun _ => False := by
  refine after_of_cases (fun _ => hn.clear _) fun t r c hcall hgot => ?_
  cases h with
  | clear call => cases call.symm.trans hcall
  | overflow call valid missing full =>
    obtain rfl := CacheCall.get.inj (call.symm.trans hcall)
    cases hgot with
    | held holds => exact absurd holds (missing _)
    | refused _ invalid => cases valid.symm.trans invalid
    | added _ _ room => exact absurd full (Nat.not_le_of_lt room)
    | startedOver => exact (hn.clear _).add _ _

/-- What is held stays held by a call that does not start over. -/
theorem holds_after {x : Compilation} (h : ¬ ev.StartsOver) (hx : ev.before.Holds s x) :
    ev.after.Holds s x := by
  refine after_of_cases (I := fun c => c.Holds s x) (fun hcall => absurd (.clear hcall) h)
    fun t r c hcall hgot => ?_
  cases hgot with
  | held => exact hx
  | refused => exact hx
  | added => exact List.mem_append_left _ hx
  | startedOver missing valid full => exact absurd (.overflow hcall valid missing full) h

theorem sound_after {used : List Schema} (free : CollisionFree used)
    (hs : ∀ s ∈ ev.call.schema?, s ∈ used) (h : ev.before.Sound used) : ev.after.Sound used := by
  obtain ⟨c, _ | _⟩ := ev
  · exact (h.getOrCompile free (hs _ rfl)).1
  · exact h.clear

end CacheEvent

/-! ## Sessions that start with an empty cache -/

namespace SchemaCache

variable {used : List Schema} {capacity : ℕ} {c : SchemaCache} {ks : List CacheCall}
  {ev : CacheEvent} {session late : List CacheEvent} {s t : Schema} {x y : Compilation}

/-- Each call finds a cache that is sound and numbered, with the room that was asked for. -/
theorem before_of_session (free : CollisionFree used)
    (hcalls : ∀ call ∈ ks, ∀ s ∈ call.schema?, s ∈ used) (hev : ev ∈ (new capacity).events ks) :
    ev.before.Sound used ∧ ev.before.Numbered ∧ ev.before.capacity = max capacity 1 := by
  obtain ⟨early, late, hsession⟩ := List.append_of_mem hev
  refine before_of_events
    (I := fun c => c.Sound used ∧ c.Numbered ∧ c.capacity = max capacity 1)
    ⟨sound_new used capacity, numbered_of_entries_eq_nil rfl, rfl⟩ hsession ?_
  rintro v hv ⟨hsound, hnumbered, hcapacity⟩
  have hmem : v ∈ (new capacity).events ks := hsession ▸ List.mem_append_left _ hv
  exact ⟨CacheEvent.sound_after free (hcalls _ (call_mem_of_mem_events hmem)) hsound,
    CacheEvent.numbered_after hnumbered, v.capacity_after.trans hcapacity⟩

/-- What is held beside the rest is held for its own schema. -/
theorem holds_add_iff (free : CollisionFree used) (hs : s ∈ used) (ht : t ∈ used) (n m : ℕ) :
    Holds ⟨n, c.entries ++ [(s.fingerprint, x)], m⟩ t y ↔ c.Holds t y ∨ t = s ∧ y = x := by
  rw [Holds, List.mem_append, List.mem_singleton, Prod.mk.injEq]
  refine or_congr_right (and_congr_left fun _ => ⟨free.eq ht hs, fun h => h ▸ rfl⟩)

/-- Two calls have got one compilation if and only if they are for one schema and no call between
them starts over. -/
theorem number_eq_iff (free : CollisionFree used) (hs : s ∈ used) (ht : t ∈ used)
    {ev' : CacheEvent} {between : List CacheEvent} (hnumbered : ev.before.Numbered)
    (hnumbered' : ev'.before.Numbered) (hsession : ev.after.events ks = between ++ ev' :: late)
    (hcall : ev.call = .get s) (hx : ev.answer = some (.ok x)) (hcall' : ev'.call = .get t)
    (hy : ev'.answer = some (.ok y)) :
    (x.number = y.number ↔ s = t ∧ ∀ v ∈ between, ¬ v.StartsOver) ∧
      (x.number = y.number → x = y) := by
  have hheld : ev.after.Holds s x := (CacheEvent.got_of_answer hcall hx).holds
  have hgot' := CacheEvent.got_of_answer hcall' hy
  -- where nothing starts over, what the first call has got is found by the second one
  have hsame (hst : s = t) (hnone : ∀ v ∈ between, ¬ v.StartsOver) : x = y := by
    have hfound : ev'.before.Holds s x :=
      before_of_events (I := fun c => c.Holds s x) hheld hsession
        fun v hv => CacheEvent.holds_after (hnone v hv)
    subst hst
    exact (Except.ok.inj (hgot'.eq_of_holds hnumbered' hfound).1).symm
  have hconfined := (CacheEvent.numbered_after hnumbered).confined hheld
  have honly (hxy : x.number = y.number) : s = t ∧ ∀ v ∈ between, ¬ v.StartsOver := by
    constructor
    · -- the number stays with the fingerprint that it was given for
      have hfound : ev'.before.Confined x.number (· = s.fingerprint) :=
        before_of_events hconfined hsession fun v _ => CacheEvent.confined_after
      exact (free.eq ht hs (hgot'.under hfound hxy.symm)).symm
    · -- behind a new start it is held for no fingerprint, and does not come back
      intro v hv hover
      obtain ⟨between₁, between₂, rfl⟩ := List.append_of_mem hv
      rw [List.append_assoc, List.cons_append] at hsession
      have hbefore : v.before.Confined x.number (· = s.fingerprint) :=
        before_of_events hconfined hsession fun u _ => CacheEvent.confined_after
      obtain ⟨ks', hrest⟩ := exists_events_after hsession
      have hgone : ev'.before.Confined x.number fun _ => False :=
        before_of_events (hover.confined_after hbefore) hrest fun u _ => CacheEvent.confined_after
      exact hgot'.under hgone hxy.symm
  exact ⟨⟨honly, fun h => congrArg Compilation.number (hsame h.1 h.2)⟩,
    fun hxy => hsame (honly hxy).1 (honly hxy).2⟩

/-- **Calls share a compilation until the cache starts over.** Let calls that get schemas and calls
that empty the cache follow each other, from an empty cache of any capacity, and let no two of their
schemas have one fingerprint. A call whose schema is held answers with what is held and changes
nothing. A call for a valid schema that is not held answers with a new compilation, which is held
beside the others if there is room, and else alone. A call fails exactly if its schema does not
compile, and then changes nothing; behind a call that does not fail, its schema is held. So two
calls have got the same compilation exactly if they are for the same schema, and between them the
cache has neither been emptied nor been too full. -/
theorem calls_share_compilations (free : CollisionFree used) (capacity : ℕ)
    {calls : List CacheCall} (hcalls : ∀ call ∈ calls, ∀ s ∈ call.schema?, s ∈ used)
    (hsession : session = (new capacity).events calls) :
    (∀ ev ∈ session, ev.before.capacity = max capacity 1 ∧
      (ev.call = .clear → ev.after.entries = []) ∧
      ∀ s, ev.call = .get s →
        (∀ x, ev.before.Holds s x → ev.answer = some (.ok x) ∧ ev.after = ev.before) ∧
        (∀ k, CompiledSchema.compile s = .ok k → (∀ x, ¬ ev.before.Holds s x) →
          ∃ x, ev.answer = some (.ok x) ∧ x.schema = k ∧
            (ev.before.size < max capacity 1 → ev.after.size = ev.before.size + 1 ∧
              ∀ t ∈ used, ∀ y, ev.after.Holds t y ↔ ev.before.Holds t y ∨ t = s ∧ y = x) ∧
            (max capacity 1 ≤ ev.before.size → ev.after.entries = [(s.fingerprint, x)])) ∧
        (∀ e, ev.answer = some (.error e) ↔ CompiledSchema.compile s = .error e) ∧
        (∀ e, ev.answer = some (.error e) → ev.after = ev.before) ∧
        ∀ x, ev.answer = some (.ok x) → ev.after.Holds s x) ∧
    ∀ early ev between ev' late, session = early ++ ev :: (between ++ ev' :: late) →
      ∀ s t x y, ev.call = .get s → ev.answer = some (.ok x) →
        ev'.call = .get t → ev'.answer = some (.ok y) →
        (x.number = y.number ↔ s = t ∧ ∀ v ∈ between, ¬ v.StartsOver) ∧
          (x.number = y.number → x = y) := by
  subst hsession
  constructor
  · intro ev hev
    obtain ⟨hsound, hnumbered, hcapacity⟩ := before_of_session free hcalls hev
    refine ⟨hcapacity, CacheEvent.entries_after_of_clear, fun s hcall => ?_⟩
    have hs : s ∈ used := hcalls _ (call_mem_of_mem_events hev) s (by rw [hcall]; rfl)
    obtain ⟨r, hr, hgot⟩ := CacheEvent.exists_got hcall
    refine ⟨fun x hx => ?_, fun k hk hmissing => ?_, fun e => ⟨fun he => ?_, fun he => ?_⟩,
      fun e he => (CacheEvent.got_of_answer hcall he).of_error.2,
      fun x hx => (CacheEvent.got_of_answer hcall hx).holds⟩
    · obtain ⟨rfl, hafter⟩ := hgot.eq_of_holds hnumbered hx
      exact ⟨hr, hafter⟩
    · obtain ⟨x, rfl, hxk, hafter⟩ := hgot.cases_of_missing hk hmissing
      rw [hcapacity] at hafter
      refine ⟨x, hr, hxk, fun hroom => ?_, fun hfull => ?_⟩
      · rw [if_neg (Nat.not_le_of_lt hroom)] at hafter
        rw [hafter]
        exact ⟨List.length_append, fun t ht y => holds_add_iff free hs ht _ _⟩
      · rw [hafter, if_pos hfull]
    · exact (CacheEvent.got_of_answer hcall he).of_error.1
    · -- nothing is held for the schema, and nothing can be
      rw [hr]
      cases r with
      | error e' => rw [Except.error.inj (hgot.of_error.1.symm.trans he)]
      | ok x =>
        have hx : CompiledSchema.compile s = .ok x.schema :=
          ((CacheEvent.sound_after free (fun _ h => by rw [hcall] at h; cases h; exact hs)
            hsound).isEntry _ _ hgot.holds).compile_eq free hs
        cases he.symm.trans hx
  · intro early ev between ev' late hsession s t x y hcall hx hcall' hy
    have hmem : ev ∈ (new capacity).events calls := by
      rw [hsession]
      exact List.mem_append_right _ List.mem_cons_self
    have hmem' : ev' ∈ (new capacity).events calls := by
      rw [hsession]
      simp
    have hs : s ∈ used := hcalls _ (call_mem_of_mem_events hmem) s (by rw [hcall]; rfl)
    have ht : t ∈ used := hcalls _ (call_mem_of_mem_events hmem') t (by rw [hcall']; rfl)
    obtain ⟨ks', hafter⟩ := exists_events_after hsession
    exact number_eq_iff free hs ht (before_of_session free hcalls hmem).2.1
      (before_of_session free hcalls hmem').2.1 hafter hcall hx hcall' hy

/-- Another schema of one text field. -/
def noteSchema : Schema := ⟨[.new "note" "Note" .string]⟩

/-- In a cache with room for one schema: a schema is got twice, and once more behind another one. -/
def crowdedCalls : List CacheCall :=
  [.get codeSchema, .get codeSchema, .get noteSchema, .get codeSchema]

theorem eq_of_answer_number {ev : CacheEvent} {n : ℕ}
    (h : (ev.answer.bind Except.toOption).map (·.number) = some n) :
    ∃ x, ev.answer = some (.ok x) ∧ x.number = n := by
  obtain ⟨x, hx, hn⟩ := Option.map_eq_some_iff.1 h
  obtain ⟨r, hr, hrx⟩ := Option.bind_eq_some_iff.1 hx
  cases r with
  | error e => cases hrx
  | ok y =>
    obtain rfl := Option.some.inj hrx
    exact ⟨y, hr, hn⟩

/-- The first two calls share a compilation. The last one does not get it, since the cache has
started over. -/
theorem calls_share_compilations_crowdedCalls :
    CollisionFree [codeSchema, noteSchema] ∧
      (∀ call ∈ crowdedCalls, ∀ s ∈ call.schema?, s ∈ [codeSchema, noteSchema]) ∧
      ∃ ev₁ ev₂ ev₃ ev₄ x y z, (new 1).events crowdedCalls = [ev₁, ev₂, ev₃, ev₄] ∧
        ev₁.answer = some (.ok x) ∧ ev₂.answer = some (.ok y) ∧ ev₄.answer = some (.ok z) ∧
        x = y ∧ x.number ≠ z.number ∧ (ev₂.StartsOver ∨ ev₃.StartsOver) ∧
        ev₄.after.Holds codeSchema z := by
  have hne : codeSchema.fingerprint ≠ noteSchema.fingerprint := by decide +kernel
  have free : CollisionFree [codeSchema, noteSchema] := by simp [CollisionFree, hne, hne.symm]
  have hcalls : ∀ call ∈ crowdedCalls, ∀ s ∈ call.schema?, s ∈ [codeSchema, noteSchema] := by
    simp [crowdedCalls, CacheCall.schema?]
  obtain ⟨hdoes, hshare⟩ := calls_share_compilations free 1 hcalls rfl
  have hasked : ((new 1).events crowdedCalls).map (·.call) = crowdedCalls := rfl
  have hnumbers : ((new 1).events crowdedCalls).map
      (fun ev => (ev.answer.bind Except.toOption).map (·.number)) =
        [some 0, some 0, some 1, some 2] := by decide +kernel
  obtain ⟨ev₁, ev₂, ev₃, ev₄, hsession⟩ :
      ∃ ev₁ ev₂ ev₃ ev₄, (new 1).events crowdedCalls = [ev₁, ev₂, ev₃, ev₄] := ⟨_, _, _, _, rfl⟩
  rw [hsession] at hdoes hshare hasked hnumbers
  simp only [crowdedCalls, List.map_cons, List.map_nil, List.cons.injEq] at hasked hnumbers
  obtain ⟨hcall₁, hcall₂, -, hcall₄, -⟩ := hasked
  obtain ⟨h₁, h₂, -, h₄, -⟩ := hnumbers
  obtain ⟨x, hx, hxn⟩ := eq_of_answer_number h₁
  obtain ⟨y, hy, hyn⟩ := eq_of_answer_number h₂
  obtain ⟨z, hz, hzn⟩ := eq_of_answer_number h₄
  have hdiffer : x.number ≠ z.number := by omega
  have hfirst := hshare [] ev₁ [] ev₂ [ev₃, ev₄] rfl _ _ x y hcall₁ hx hcall₂ hy
  have hlast := hshare [] ev₁ [ev₂, ev₃] ev₄ [] rfl _ _ x z hcall₁ hx hcall₄ hz
  refine ⟨free, hcalls, ev₁, ev₂, ev₃, ev₄, x, y, z, hsession, hx, hy, hz,
    hfirst.2 (hxn.trans hyn.symm), hdiffer, ?_, ?_⟩
  · by_contra hnone
    refine hdiffer (hlast.1.2 ⟨rfl, fun v hv hover => hnone ?_⟩)
    rcases List.mem_pair.1 hv with rfl | rfl
    · exact Or.inl hover
    · exact Or.inr hover
  · exact ((hdoes ev₄ (by simp)).2.2 codeSchema hcall₄).2.2.2.2 z hz

end SchemaCache

end CustomFields
