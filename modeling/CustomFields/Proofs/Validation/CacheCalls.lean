import CustomFields.Proofs.Data.Entries
import CustomFields.Proofs.Data.Program
import CustomFields.Proofs.Schema.CanonicalText
import CustomFields.Validation.Engine

/-!
# Calls that share a cache

A call that gets a schema looks it up, compiles it if it was not found, and puts in what it has
compiled. Each of these is one access to the cache, and between them other calls may fill the
cache, empty it, or put in the same schema. None of this shows in the answers: whatever the order
of the accesses, a call returns what the compilation of its own schema returns. What carries the
proof is that each entry is the compilation of a schema with its fingerprint, and that a
fingerprint names one schema.

## Main definitions

* `CacheCall`: getting a schema, or emptying the cache, as programs over accesses
* `SchemaCache.Sound`: the invariant of the cache
* `CacheCall.Stage`: how far a call has come
* `CacheUse`: what is done with a cache by validations that follow each other

## Main results

* `CacheCall.run_get`: a call that runs alone is `SchemaCache.getOrCompile`
* `SchemaCache.transparent`: calls that share a cache answer as if there was none
-/

namespace CustomFields

/-! ## Accesses and calls -/

/-- What a call does with the cache, one access after the other. -/
inductive CacheAccess where
  | lookup (fingerprint : String)
  | compile (schema : Schema)
  | insert (fingerprint : String) (new : Compilation)
  | clear

/-- What is answered to these accesses. -/
def cacheInterface : Interface where
  Access := CacheAccess
  Answer
    | .lookup _ => Option Compilation
    | .compile _ => Except SchemaError Compilation
    | .insert _ _ => Compilation
    | .clear => Unit

/-- What an access answers, and the cache that it leaves. -/
def SchemaCache.serve : cacheInterface.Server SchemaCache
  | .lookup fingerprint, c => (c.lookup? fingerprint, c)
  | .compile s, c => c.compile s
  | .insert fingerprint new, c => c.insert fingerprint new
  | .clear, c => ((), c.clear)

/-- A call that gets a schema or empties the cache. -/
inductive CacheCall where
  | get (schema : Schema)
  | clear

namespace CacheCall

/-- The answer to a call that gets a schema; one that empties the cache has none. -/
abbrev Answer : Type := Option (Except SchemaError Compilation)

/-- Puts in what has been compiled. -/
def hold (s : Schema) (new : Compilation) : Program cacheInterface Answer :=
  .access (.insert s.fingerprint new) fun held => .done (some (.ok held))

/-- Compiles a schema that was not found. -/
def compile (s : Schema) : Program cacheInterface Answer :=
  .access (.compile s) fun
    | .ok new => hold s new
    | .error e => .done (some (.error e))

/-- The accesses of a call. -/
def program : CacheCall → Program cacheInterface Answer
  | .get s =>
    .access (.lookup s.fingerprint) fun
      | some held => .done (some (.ok held))
      | none => compile s
  | .clear => .access .clear fun _ => .done none

/-- Run alone, the accesses of a call are those of `SchemaCache.getOrCompile`. -/
theorem run_get (s : Schema) (c : SchemaCache) :
    (CacheCall.get s).program.run SchemaCache.serve c =
      (some (c.getOrCompile s).1, (c.getOrCompile s).2) := by
  simp only [program, Program.run, SchemaCache.serve, SchemaCache.getOrCompile]
  cases c.lookup? s.fingerprint with
  | some held => rfl
  | none =>
    simp only [compile, Program.run, SchemaCache.serve]
    rcases c.compile s with ⟨_ | new, c'⟩
    · rfl
    · rfl

/-- The schema that a call asks for. -/
def schema? : CacheCall → Option Schema
  | .get s => some s
  | .clear => none

end CacheCall

/-! ## The invariant -/

namespace SchemaCache

/-- A compilation of one of some schemas, the one with a fingerprint. -/
def IsEntry (used : List Schema) (fingerprint : String) (x : Compilation) : Prop :=
  ∃ s ∈ used, s.fingerprint = fingerprint ∧ CompiledSchema.compile s = .ok x.schema

/-- What is held are compilations of the schemas that have been used, each under the fingerprint
of its source, and no more than there is room for. -/
structure Sound (used : List Schema) (c : SchemaCache) : Prop where
  isEntry : ∀ fingerprint x, (fingerprint, x) ∈ c.entries → IsEntry used fingerprint x
  size_le : c.size ≤ c.capacity
  capacity_pos : 0 < c.capacity

variable {used : List Schema} {c : SchemaCache}

theorem IsEntry.compile_eq (free : CollisionFree used) {s : Schema} (hs : s ∈ used)
    {x : Compilation} (h : IsEntry used s.fingerprint x) :
    CompiledSchema.compile s = .ok x.schema := by
  obtain ⟨t, ht, hfingerprint, hcompile⟩ := h
  rwa [← free.eq ht hs hfingerprint]

theorem sound_new (used : List Schema) (capacity : ℕ) : Sound used (new capacity) where
  isEntry _ _ h := by cases h
  size_le := Nat.zero_le _
  capacity_pos := Nat.lt_of_lt_of_le Nat.one_pos (Nat.le_max_right _ _)

theorem Sound.clear (h : Sound used c) : Sound used c.clear where
  isEntry _ _ hm := by cases hm
  size_le := Nat.zero_le _
  capacity_pos := h.capacity_pos

theorem Sound.lookup (h : Sound used c) {fingerprint : String} {x : Compilation}
    (hx : c.lookup? fingerprint = some x) : IsEntry used fingerprint x :=
  h.isEntry _ _ (Entries.mem_of_get?_eq_some hx)

/-- A compilation leaves what is held as it is. -/
theorem Sound.compile (h : Sound used c) (s : Schema) :
    Sound used (c.compile s).2 ∧ (c.compile s).2.capacity = c.capacity := by
  unfold SchemaCache.compile
  split
  · exact ⟨h, rfl⟩
  · exact ⟨⟨h.isEntry, h.size_le, h.capacity_pos⟩, rfl⟩

/-- The answer to a compilation is that of the schema by itself. -/
theorem map_schema_compile (c : SchemaCache) (s : Schema) :
    (c.compile s).1.map (·.schema) = CompiledSchema.compile s := by
  unfold SchemaCache.compile
  split <;> rename_i hs <;> exact hs.symm

theorem compile_of_error {s : Schema} {e : SchemaError} (h : CompiledSchema.compile s = .error e) :
    c.compile s = (.error e, c) := by
  simp only [SchemaCache.compile, h]

/-- An insertion keeps the invariant, and answers with an entry for the fingerprint. -/
theorem Sound.insert (h : Sound used c) {fingerprint : String} {x : Compilation}
    (hx : IsEntry used fingerprint x) :
    Sound used (c.insert fingerprint x).2 ∧ (c.insert fingerprint x).2.capacity = c.capacity ∧
      IsEntry used fingerprint (c.insert fingerprint x).1 := by
  unfold SchemaCache.insert
  split
  · rename_i held hl
    exact ⟨h, rfl, h.lookup hl⟩
  · -- a full cache starts over, so there is room for one entry more
    have hkept : ∀ e ∈ (if c.capacity ≤ c.size then [] else c.entries), e ∈ c.entries := by
      split
      · exact fun e he => absurd he List.not_mem_nil
      · exact fun e he => he
    have hroom : (if c.capacity ≤ c.size then [] else c.entries).length < c.capacity := by
      split
      · exact h.capacity_pos
      · rename_i hlt
        exact Nat.lt_of_not_le hlt
    refine ⟨⟨fun k y hy => ?_, ?_, h.capacity_pos⟩, rfl, hx⟩
    · exact Entries.forall_mem_assign hx (fun k y hy => h.isEntry k y (hkept _ hy)) k y hy
    · exact Nat.le_trans (Entries.length_assign_le _ _ _) hroom

theorem Sound.getOrCompile (free : CollisionFree used) (h : Sound used c) {s : Schema}
    (hs : s ∈ used) :
    Sound used (c.getOrCompile s).2 ∧
      (c.getOrCompile s).1.map (·.schema) = CompiledSchema.compile s := by
  cases hl : c.lookup? s.fingerprint with
  | some held =>
    simp only [SchemaCache.getOrCompile, hl]
    exact ⟨h, ((h.lookup hl).compile_eq free hs).symm⟩
  | none =>
    -- what is put in is an entry, and what is answered is one that may have been put in before
    have hc := h.compile s
    have hr := map_schema_compile c s
    rcases hcompile : c.compile s with ⟨e | new, c'⟩
    · rw [hcompile] at hc hr
      simp only [SchemaCache.getOrCompile, hl, hcompile]
      exact ⟨hc.1, hr⟩
    · rw [hcompile] at hc hr
      simp only [SchemaCache.getOrCompile, hl, hcompile]
      obtain ⟨hsound, -, hentry⟩ := hc.1.insert ⟨s, hs, rfl, hr.symm⟩
      exact ⟨hsound, (hentry.compile_eq free hs).symm⟩

end SchemaCache

/-! ## One access of one call -/

namespace CacheCall

/-- How far a call has come: what it has compiled is the compilation of its schema, and so is what
it returns. -/
inductive Stage : CacheCall → Program cacheInterface Answer → Prop
  | start (call : CacheCall) : Stage call call.program
  | missed (s : Schema) : Stage (.get s) (compile s)
  | compiled (s : Schema) (new : Compilation) (hnew : CompiledSchema.compile s = .ok new.schema) :
      Stage (.get s) (hold s new)
  | got (s : Schema) (r : Except SchemaError Compilation)
      (hr : r.map (·.schema) = CompiledSchema.compile s) : Stage (.get s) (.done (some r))
  | cleared : Stage .clear (.done none)

theorem step_program_get (s : Schema) (c : SchemaCache) :
    (CacheCall.get s).program.step SchemaCache.serve c =
      (match c.lookup? s.fingerprint with
        | some held => .done (some (.ok held))
        | none => compile s, c) := by
  simp only [program, Program.step, SchemaCache.serve]
  cases c.lookup? s.fingerprint <;> rfl

theorem step_compile (s : Schema) (c : SchemaCache) :
    (compile s).step SchemaCache.serve c =
      (match (c.compile s).1 with
        | .ok new => hold s new
        | .error e => .done (some (.error e)), (c.compile s).2) := by
  simp only [compile, Program.step, SchemaCache.serve]
  rcases c.compile s with ⟨_ | _, _⟩ <;> rfl

theorem step_hold (s : Schema) (new : Compilation) (c : SchemaCache) :
    (hold s new).step SchemaCache.serve c =
      (.done (some (.ok (c.insert s.fingerprint new).1)), (c.insert s.fingerprint new).2) := rfl

variable {used : List Schema} {c : SchemaCache} {call : CacheCall}
  {p : Program cacheInterface Answer}

/-- **An access keeps the invariant of the cache**, whatever stage its call is at, and brings the
call to a stage. -/
theorem Stage.step (free : CollisionFree used) (hp : Stage call p)
    (hs : ∀ s ∈ call.schema?, s ∈ used) (hc : c.Sound used) :
    (p.step SchemaCache.serve c).2.Sound used ∧
      (p.step SchemaCache.serve c).2.capacity = c.capacity ∧
      Stage call (p.step SchemaCache.serve c).1 := by
  -- one case for each access that a call can be about to make
  cases hp with
  | start =>
    cases call with
    | clear => exact ⟨hc.clear, rfl, .cleared⟩
    | get s =>
      rw [step_program_get]
      refine ⟨hc, rfl, ?_⟩
      cases hl : c.lookup? s.fingerprint with
      | some held => exact .got s (.ok held) ((hc.lookup hl).compile_eq free (hs s rfl)).symm
      | none => exact .missed s
  | missed s =>
    rw [step_compile]
    refine ⟨(hc.compile s).1, (hc.compile s).2, ?_⟩
    have hr := c.map_schema_compile s
    cases hcompile : (c.compile s).1 with
    | ok new => exact .compiled s new (by rw [← hr, hcompile]; rfl)
    | error e => exact .got s (.error e) (by rw [← hr, hcompile])
  | compiled s new hnew =>
    rw [step_hold]
    -- another call may have filled the place: then its entry is answered, which is as good
    obtain ⟨hsound, hcapacity, hentry⟩ := hc.insert ⟨s, hs s rfl, rfl, hnew⟩
    exact ⟨hsound, hcapacity, .got s (.ok _) (hentry.compile_eq free (hs s rfl)).symm⟩
  | got s r hr => exact ⟨hc, rfl, .got s r hr⟩
  | cleared => exact ⟨hc, rfl, .cleared⟩

/-- A call whose schema does not compile never changes the cache. -/
theorem Stage.step_of_error {s : Schema} {e : SchemaError}
    (he : CompiledSchema.compile s = .error e) (hp : Stage (.get s) p) (c : SchemaCache) :
    (p.step SchemaCache.serve c).2 = c := by
  cases hp with
  | start => rfl
  | missed =>
    rw [step_compile, SchemaCache.compile_of_error he]
  -- there is nothing to put in
  | compiled _ new hnew => exact absurd (he.symm.trans hnew) (by simp)
  | got => rfl

theorem Stage.done {s : Schema} {a : Answer} (hp : Stage (.get s) (.done a)) :
    ∃ r, a = some r ∧ r.map (·.schema) = CompiledSchema.compile s := by
  cases hp with
  | got _ r hr => exact ⟨r, rfl, hr⟩

theorem endsWithin_program (call : CacheCall) : call.program.EndsWithin 3 := by
  cases call with
  | clear => exact fun _ => trivial
  | get s =>
    rintro (_ | held)
    · rintro (e | new)
      · trivial
      · exact fun _ => trivial
    · trivial

end CacheCall

/-! ## Validations that follow each other -/

/-- What is done with a cache by one engine: a payload is validated or tried, or the cache is
emptied in between. -/
inductive CacheUse where
  | validate (schema : Option Schema) (payload : Json.Object) (today : Calendar.Date)
  | dryRun (schema : Schema) (payload : Json.Object) (today : Calendar.Date)
  | clear

namespace CacheUse

/-- The result of a validation or of a trial. -/
inductive Result where
  | validated (result : Except EngineError Json.Object)
  | tried (report : Except SchemaError ValidationReport)

/-- The schema that the cache is used for. -/
def schema? : CacheUse → Option Schema
  | .validate s _ _ => s
  | .dryRun s _ _ => some s
  | .clear => none

/-- Whether the cache is emptied. -/
def isClear : CacheUse → Bool
  | .clear => true
  | _ => false

end CacheUse

namespace Engine

/-- Uses a cache once. -/
def use (e : Engine) (c : SchemaCache) : CacheUse → Option CacheUse.Result × SchemaCache
  | .validate s payload today =>
    let (result, c) := e.validateOptional c s payload today
    (some (.validated result), c)
  | .dryRun s payload today =>
    let (report, c) := e.dryRun c s payload today
    (some (.tried report), c)
  | .clear => (none, c.clear)

/-- The results of uses that follow each other. -/
def results (e : Engine) : SchemaCache → List CacheUse → List CacheUse.Result
  | _, [] => []
  | c, u :: us => (e.use c u).1.toList ++ e.results (e.use c u).2 us

/-- The result that a use has where nothing is held: the schema is compiled for it alone. -/
def resultAlone (e : Engine) : CacheUse → Option CacheUse.Result
  | .validate none payload _ => some (.validated (.ok payload))
  | .validate (some s) payload today =>
    some <| .validated <|
      match CompiledSchema.compile s with
      | .error err => .error (.schema err)
      | .ok c => (e.validateCompiled c payload today).mapError .validation
  | .dryRun s payload today =>
    some (.tried ((CompiledSchema.compile s).map fun c => e.report c payload today))
  | .clear => none

variable {used : List Schema} {c : SchemaCache}

/-- A use keeps the invariant of the cache, and its result is that of the use by itself. -/
theorem use_eq_resultAlone (e : Engine) (free : CollisionFree used) (hc : c.Sound used)
    {u : CacheUse} (hu : ∀ s ∈ u.schema?, s ∈ used) :
    (e.use c u).2.Sound used ∧ (e.use c u).1 = e.resultAlone u := by
  cases u with
  | clear => exact ⟨hc.clear, rfl⟩
  | dryRun s payload today =>
    obtain ⟨hsound, hresult⟩ := hc.getOrCompile free (hu s rfl)
    simp only [use, dryRun, resultAlone, ← hresult]
    rcases hget : c.getOrCompile s with ⟨err | x, c'⟩
    · exact ⟨by rw [hget] at hsound; exact hsound, rfl⟩
    · exact ⟨by rw [hget] at hsound; exact hsound, rfl⟩
  | validate schema payload today =>
    cases schema with
    | none => exact ⟨hc, rfl⟩
    | some s =>
      obtain ⟨hsound, hresult⟩ := hc.getOrCompile free (hu s rfl)
      simp only [use, validateOptional, validate, resultAlone, ← hresult]
      rcases hget : c.getOrCompile s with ⟨err | x, c'⟩
      · exact ⟨by rw [hget] at hsound; exact hsound, rfl⟩
      · rw [hget] at hsound
        simp only [Except.map]
        cases e.validateCompiled x.schema payload today with
        | ok payload => exact ⟨hsound, rfl⟩
        | error issues => exact ⟨hsound, rfl⟩

theorem results_eq_resultAlone (e : Engine) (free : CollisionFree used) {uses : List CacheUse}
    (huses : ∀ u ∈ uses, ∀ s ∈ u.schema?, s ∈ used) (hc : c.Sound used) :
    e.results c uses = uses.filterMap e.resultAlone := by
  -- the cache that a use leaves is another one, but as sound
  induction uses generalizing c with
  | nil => rfl
  | cons u us ih =>
    obtain ⟨hsound, hresult⟩ :=
      e.use_eq_resultAlone free hc (huses u List.mem_cons_self)
    rw [results, hresult, ih (fun v hv => huses v (List.mem_cons_of_mem _ hv)) hsound,
      List.filterMap_cons]
    cases e.resultAlone u <;> rfl

/-- A use that empties the cache has no result. -/
theorem filterMap_resultAlone_filter (e : Engine) (uses : List CacheUse) :
    (uses.filter fun u => !u.isClear).filterMap e.resultAlone = uses.filterMap e.resultAlone := by
  rw [List.filterMap_filter]
  congr
  funext u
  cases u <;> rfl

end Engine

/-! ## Transparency -/

namespace SchemaCache

/-- The calls and the cache after their accesses in the order of a schedule, from an empty cache. -/
def after (capacity : ℕ) (calls : List CacheCall) (schedule : List ℕ) :
    List (Program cacheInterface CacheCall.Answer) × SchemaCache :=
  runSchedule serve schedule (calls.map (·.program)) (.new capacity)

variable {used : List Schema}

/-- Each schedule leaves a sound cache, and each call at a stage. -/
theorem after_invariant (free : CollisionFree used) (capacity : ℕ) {calls : List CacheCall}
    (hcalls : ∀ call ∈ calls, ∀ s ∈ call.schema?, s ∈ used) (schedule : List ℕ) :
    ((after capacity calls schedule).2.Sound used ∧
        (after capacity calls schedule).2.capacity = max capacity 1) ∧
      ∀ i : ℕ, ∀ p ∈ (after capacity calls schedule).1[i]?,
        ∃ call ∈ calls[i]?, CacheCall.Stage call p := by
  -- of the cache that it is sound, and of each program that it is a stage of the call in its place
  refine runSchedule_invariant
    (fun c : SchemaCache => c.Sound used ∧ c.capacity = max capacity 1)
    (fun (i : ℕ) p => ∃ call ∈ calls[i]?, CacheCall.Stage call p) ?_ schedule
    ⟨sound_new used capacity, rfl⟩ ?_
  · rintro i p c ⟨hc, hcapacity⟩ ⟨call, hcall, hp⟩
    obtain ⟨hsound, hsame, hstage⟩ :=
      hp.step free (hcalls call (List.mem_of_getElem? hcall)) hc
    exact ⟨⟨hsound, hsame.trans hcapacity⟩, call, hcall, hstage⟩
  · intro i p hp
    rw [List.getElem?_map] at hp
    obtain ⟨call, hcall, rfl⟩ := Option.map_eq_some_iff.1 hp
    exact ⟨call, hcall, .start call⟩

/-- The call in a place is at a stage. -/
theorem after_stage (free : CollisionFree used) (capacity : ℕ) {calls : List CacheCall}
    (hcalls : ∀ call ∈ calls, ∀ s ∈ call.schema?, s ∈ used) (schedule : List ℕ) {i : ℕ}
    {call : CacheCall} (hi : calls[i]? = some call) {p : Program cacheInterface CacheCall.Answer}
    (hp : (after capacity calls schedule).1[i]? = some p) : CacheCall.Stage call p := by
  obtain ⟨call', hcall', hstage⟩ := (after_invariant free capacity hcalls schedule).2 i p hp
  obtain rfl := Option.some.inj (hi.symm.trans hcall')
  exact hstage

/-- One access more, of a call whose schema does not compile, changes nothing in the cache. -/
theorem after_append_of_error (free : CollisionFree used) (capacity : ℕ) {calls : List CacheCall}
    (hcalls : ∀ call ∈ calls, ∀ s ∈ call.schema?, s ∈ used) (schedule : List ℕ) {i : ℕ}
    {s : Schema} (hi : calls[i]? = some (.get s)) {e : SchemaError}
    (he : CompiledSchema.compile s = .error e) :
    (after capacity calls (schedule ++ [i])).2 = (after capacity calls schedule).2 := by
  have hstage := fun p => after_stage free capacity hcalls schedule hi (p := p)
  unfold after at hstage ⊢
  rw [runSchedule_append]
  simp only [runSchedule]
  split
  · rfl
  · rename_i p hp
    exact (hstage p hp).step_of_error he _

/-- A call that gets a schema and has made its three accesses is done. -/
theorem after_done (capacity : ℕ) {calls : List CacheCall} {schedule : List ℕ} {i : ℕ}
    {call : CacheCall} (hi : calls[i]? = some call) (hcount : 3 ≤ schedule.count i) :
    ∃ a, (after capacity calls schedule).1[i]? = some (.done a) :=
  runSchedule_done hcount (by rw [List.getElem?_map, hi, Option.map_some])
    call.endsWithin_program _

/-- **A cache is transparent.** Let calls that get schemas and calls that empty the cache make
their accesses in any order, in a cache of any capacity. A call that gets a schema returns what the
compilation of the schema returns, and does so once it has been scheduled three times. What is held
under a fingerprint is the compilation of a schema with that fingerprint, no more is held than there
is room for, and a schema that does not compile changes nothing. So the results of validations that
follow each other depend neither on the capacity nor on when the cache is emptied. -/
theorem transparent (free : CollisionFree used) :
    (∀ (capacity : ℕ) (calls : List CacheCall) (schedule : List ℕ),
      (∀ call ∈ calls, ∀ s ∈ call.schema?, s ∈ used) →
      (∀ i s, calls[i]? = some (.get s) →
        (∀ a, (after capacity calls schedule).1[i]? = some (.done a) →
          ∃ r, a = some r ∧ r.map (·.schema) = CompiledSchema.compile s) ∧
        (3 ≤ schedule.count i → ∃ a, (after capacity calls schedule).1[i]? = some (.done a)) ∧
        (∀ e, CompiledSchema.compile s = .error e →
          (after capacity calls (schedule ++ [i])).2 = (after capacity calls schedule).2)) ∧
      (∀ fingerprint x, (fingerprint, x) ∈ (after capacity calls schedule).2.entries →
        ∃ s ∈ used, s.fingerprint = fingerprint ∧ CompiledSchema.compile s = .ok x.schema) ∧
      (after capacity calls schedule).2.size ≤ max capacity 1) ∧
    ∀ (e : Engine) (uses uses' : List CacheUse) (capacity capacity' : ℕ),
      (∀ u ∈ uses ++ uses', ∀ s ∈ u.schema?, s ∈ used) →
      (uses.filter fun u => !u.isClear) = (uses'.filter fun u => !u.isClear) →
      e.results (.new capacity) uses = uses.filterMap e.resultAlone ∧
        e.results (.new capacity) uses = e.results (.new capacity') uses' := by
  refine ⟨fun capacity calls schedule hcalls => ⟨fun i s hi => ⟨fun a ha => ?_, ?_, ?_⟩, ?_, ?_⟩,
    fun e uses uses' capacity capacity' huses hsame => ?_⟩
  · exact (after_stage free capacity hcalls schedule hi ha).done
  · exact after_done capacity hi
  · exact fun e he => after_append_of_error free capacity hcalls schedule hi he
  · exact (after_invariant free capacity hcalls schedule).1.1.isEntry
  · obtain ⟨hsound, hcapacity⟩ := (after_invariant free capacity hcalls schedule).1
    exact hcapacity ▸ hsound.size_le
  · have hfirst : e.results (.new capacity) uses = uses.filterMap e.resultAlone :=
      e.results_eq_resultAlone free (fun u hu => huses u (List.mem_append_left _ hu))
        (sound_new used capacity)
    have hsecond : e.results (.new capacity') uses' = uses'.filterMap e.resultAlone :=
      e.results_eq_resultAlone free (fun u hu => huses u (List.mem_append_right _ hu))
        (sound_new used capacity')
    refine ⟨hfirst, ?_⟩
    -- where the uses that empty the cache are left out, the two sessions are one
    rw [hfirst, hsecond, ← e.filterMap_resultAlone_filter uses,
      ← e.filterMap_resultAlone_filter uses', hsame]

/-- A schema of one text field. -/
def codeSchema : Schema := ⟨[.new "code" "Code" .string]⟩

/-- A schema that does not compile. -/
def blankSchema : Schema := ⟨[.new "" "Blank" .string]⟩

/-- Two calls for one schema, one that empties the cache and one for a schema that does not compile,
in a cache that is asked to hold none; and two validations, with and without emptying it. -/
theorem transparent_codeSchema_blankSchema :
    CollisionFree [codeSchema, blankSchema] ∧
      (∃ r, (after 0 [.get codeSchema, .clear, .get codeSchema, .get blankSchema]
          [0, 2, 0, 2, 0, 1, 3, 2, 3]).1[2]? = some (.done (some r)) ∧
        r.map (·.schema) = CompiledSchema.compile codeSchema) ∧
      (Engine.new .empty).results (.new 0)
          [.validate (some codeSchema) [("code", .null)] ⟨2024, 2, 29⟩, .clear,
            .validate (some codeSchema) [] ⟨2024, 2, 29⟩] =
        (Engine.new .empty).results (.new 5)
          [.validate (some codeSchema) [("code", .null)] ⟨2024, 2, 29⟩,
            .validate (some codeSchema) [] ⟨2024, 2, 29⟩] := by
  have hne : codeSchema.fingerprint ≠ blankSchema.fingerprint := by decide +kernel
  have free : CollisionFree [codeSchema, blankSchema] := by simp [CollisionFree, hne, hne.symm]
  obtain ⟨hcalls, huses⟩ := transparent free
  refine ⟨free, ?_, ?_⟩
  · obtain ⟨hget, -, -⟩ := hcalls 0 [.get codeSchema, .clear, .get codeSchema, .get blankSchema]
      [0, 2, 0, 2, 0, 1, 3, 2, 3] (by simp [CacheCall.schema?])
    obtain ⟨hanswer, hdone, -⟩ := hget 2 codeSchema rfl
    obtain ⟨a, ha⟩ := hdone (by decide)
    obtain ⟨r, rfl, hr⟩ := hanswer a ha
    exact ⟨r, ha, hr⟩
  · refine (huses _ _ _ 0 5 ?_ ?_).2
    · simp [CacheUse.schema?]
    · rfl

end SchemaCache

end CustomFields
