import CustomFields.Proofs.Data.Program

/-!
# The order in which programs are done

Programs that run by a schedule make their accesses among each other. Some of them take effect where
they make their last access: the accesses before it change nothing, and at the last one the program
comes to what it would have come to if it had been run alone from there. What is left of such
programs is what they leave one after the other, in the order in which they are done. This order
keeps to the time: a program that is done before another one starts comes before it.

Whether a program takes effect at its end may rest on what it has found before. That is what its
stage says, and what no access of another program may undo.

## Main definitions

* `stateInTurn`: the state behind programs that run one after the other, each alone
* `completions`: the places of programs in the order in which they are done
* `EffectAtEnd`: programs take effect where they make their last access
* `Linearizes`: an order accounts for what a schedule leaves

## Main results

* `EffectAtEnd.entry`: what one entry of a schedule does
* `EffectAtEnd.linearizes`: the order in which programs are done accounts for what they leave
-/

namespace CustomFields

variable {I : Interface} {σ α κ : Type} {server : I.Server σ}

/-! ## Programs that are done -/

namespace Program

/-- The answer of a program that is done. -/
def answer? : Program I α → Option α
  | .done a => some a
  | .access _ _ => none

theorem answer?_eq_some_iff {p : Program I α} {a : α} : p.answer? = some a ↔ p = .done a := by
  cases p with
  | done b => simp [answer?]
  | access x next => simp [answer?]

/-- A program that is done stays done. -/
theorem answer?_step {p : Program I α} {a : α} (h : p.answer? = some a) (s : σ) :
    (p.step server s).1.answer? = some a := by
  obtain rfl := answer?_eq_some_iff.1 h
  rfl

/-- A program that is done after one access has made it alone. -/
theorem run_of_step {p : Program I α} {a : α} {s : σ} (h : (p.step server s).1.answer? = some a) :
    p.run server s = (a, (p.step server s).2) := by
  cases p with
  | done b =>
    obtain rfl : b = a := Option.some.inj h
    rfl
  | access x next =>
    have hnext : next (server x s).1 = .done a := answer?_eq_some_iff.1 h
    simp only [run, step, hnext]

end Program

/-- The answer of the program in a place, if it is done. -/
def answerAt? (ps : List (Program I α)) (i : ℕ) : Option α :=
  ps[i]?.bind Program.answer?

theorem answerAt?_eq_some_iff {ps : List (Program I α)} {i : ℕ} {a : α} :
    answerAt? ps i = some a ↔ ps[i]? = some (.done a) := by
  simp [answerAt?, Option.bind_eq_some_iff, Program.answer?_eq_some_iff]

theorem answerAt?_of_ne {ps : List (Program I α)} {s : σ} {i j : ℕ} (h : i ≠ j) :
    answerAt? (runSchedule server [i] ps s).1 j = answerAt? ps j := by
  rw [answerAt?, answerAt?, getElem?_runSchedule_singleton, if_neg h]

/-- An answer stays what it is. -/
theorem answerAt?_runSchedule {ps : List (Program I α)} {i : ℕ} {a : α}
    (h : answerAt? ps i = some a) (schedule : List ℕ) (s : σ) :
    answerAt? (runSchedule server schedule ps s).1 i = some a := by
  induction schedule generalizing ps s with
  | nil => exact h
  | cons j schedule ih =>
    rw [runSchedule_cons]
    refine ih ?_ _
    by_cases hj : j = i
    · subst hj
      obtain ⟨p, hp, ha⟩ := Option.bind_eq_some_iff.1 h
      rw [answerAt?, getElem?_runSchedule_singleton, if_pos rfl, hp]
      exact Program.answer?_step ha s
    · rw [answerAt?_of_ne hj, h]

/-! ## One after the other -/

/-- The state behind programs that run one after the other, each alone. -/
def stateInTurn (server : I.Server σ) (ps : List (Program I α)) (s : σ) : σ :=
  ps.foldl (fun s p => (p.run server s).2) s

theorem stateInTurn_append (ps qs : List (Program I α)) (s : σ) :
    stateInTurn server (ps ++ qs) s = stateInTurn server qs (stateInTurn server ps s) :=
  List.foldl_append

theorem stateInTurn_invariant {Inv : σ → Prop} (hserve : ∀ x s, Inv s → Inv (server x s).2)
    (ps : List (Program I α)) {s : σ} (hs : Inv s) : Inv (stateInTurn server ps s) := by
  induction ps generalizing s with
  | nil => exact hs
  | cons p ps ih => exact ih (p.run_invariant Inv hserve hs)

/-! ## The order in which programs are done -/

/-- The place of an entry of a schedule, if its program is done then and has not been before. -/
def completion (server : I.Server σ) (i : ℕ) (ps : List (Program I α)) (s : σ) : List ℕ :=
  if answerAt? ps i = none ∧ (answerAt? (runSchedule server [i] ps s).1 i).isSome then [i] else []

/-- The places of programs in the order in which they are done by a schedule. -/
def completions (server : I.Server σ) : List ℕ → List (Program I α) → σ → List ℕ
  | [], _, _ => []
  | i :: schedule, ps, s =>
    completion server i ps s ++
      completions server schedule (runSchedule server [i] ps s).1 (runSchedule server [i] ps s).2

theorem completions_append (first second : List ℕ) (ps : List (Program I α)) (s : σ) :
    completions server (first ++ second) ps s =
      completions server first ps s ++
        completions server second (runSchedule server first ps s).1
          (runSchedule server first ps s).2 := by
  induction first generalizing ps s with
  | nil => rfl
  | cons i first ih =>
    rw [List.cons_append, completions, ih, completions, List.append_assoc, ← runSchedule_cons]

theorem mem_completion_iff {i j : ℕ} {ps : List (Program I α)} {s : σ} :
    j ∈ completion server i ps s ↔
      j = i ∧ answerAt? ps i = none ∧ (answerAt? (runSchedule server [i] ps s).1 i).isSome := by
  unfold completion
  split <;> simp_all

/-- A program is one of those that a schedule completes if it is done then and was not before. -/
theorem mem_completions_iff {i : ℕ} {schedule : List ℕ} {ps : List (Program I α)} {s : σ} :
    i ∈ completions server schedule ps s ↔
      answerAt? ps i = none ∧ (answerAt? (runSchedule server schedule ps s).1 i).isSome := by
  induction schedule generalizing ps s with
  | nil =>
    rw [completions, runSchedule]
    cases answerAt? ps i <;> simp
  | cons j schedule ih =>
    rw [completions, List.mem_append, ih, mem_completion_iff, runSchedule_cons j schedule]
    by_cases hj : j = i
    · subst hj
      -- it is done by this entry, or by a later one
      cases hdone : answerAt? (runSchedule server [j] ps s).1 j with
      | none =>
        have hbefore : answerAt? ps j = none := by
          cases h : answerAt? ps j with
          | none => rfl
          | some a => cases hdone.symm.trans (answerAt?_runSchedule h [j] s)
        simp [hbefore]
      | some a => simp [answerAt?_runSchedule hdone]
    · rw [answerAt?_of_ne hj]
      simp [Ne.symm hj]

theorem nodup_completions (schedule : List ℕ) (ps : List (Program I α)) (s : σ) :
    (completions server schedule ps s).Nodup := by
  induction schedule generalizing ps s with
  | nil => exact List.nodup_nil
  | cons i schedule ih =>
    rw [completions]
    refine List.nodup_append.2 ⟨?_, ih _ _, ?_⟩
    · unfold completion
      split <;> simp
    · rintro j hj _ hk rfl
      -- what is done by the first entry is not done a second time
      obtain ⟨rfl, -, hdone⟩ := mem_completion_iff.1 hj
      rw [(mem_completions_iff.1 hk).1] at hdone
      cases hdone

/-- A schedule completes programs that it schedules. -/
theorem mem_of_mem_completions {i : ℕ} {schedule : List ℕ} {ps : List (Program I α)} {s : σ}
    (h : i ∈ completions server schedule ps s) : i ∈ schedule := by
  induction schedule generalizing ps s with
  | nil => cases h
  | cons j schedule ih =>
    rw [completions, List.mem_append] at h
    rcases h with h | h
    · obtain ⟨rfl, -⟩ := mem_completion_iff.1 h
      exact List.mem_cons_self
    · exact List.mem_cons_of_mem j (ih h)

/-- Of two places in an order one comes before the other. -/
theorem pair_sublist_or {order : List ℕ} {i j : ℕ} (hi : i ∈ order) (hj : j ∈ order) (hne : i ≠ j) :
    [i, j].Sublist order ∨ [j, i].Sublist order := by
  obtain ⟨before, behind, rfl⟩ := List.append_of_mem hi
  have hi' : [i].Sublist (i :: behind) := List.singleton_sublist.2 List.mem_cons_self
  rcases List.mem_append.1 hj with hj | hj
  · exact Or.inr ((List.singleton_sublist.2 hj).append hi')
  · have hj : j ∈ behind := (List.mem_cons.1 hj).resolve_left hne.symm
    exact Or.inl (((List.singleton_sublist.2 hj).cons_cons i).trans
      (List.sublist_append_right before _))

/-! ## Taking effect at the end -/

/-- An order of places accounts for what a schedule leaves of programs. It has the places of those
that are done. Each of them has the answer that it has alone behind those that come before it, the
state is that behind all of them, and a program that is done before another one starts comes before
it. -/
structure Linearizes (server : I.Server σ) (initial : List (Program I α)) (s₀ : σ)
    (schedule order : List ℕ) : Prop where
  nodup : order.Nodup
  mem_iff : ∀ i, i ∈ order ↔
    ∃ a, (runSchedule server schedule initial s₀).1[i]? = some (.done a)
  answer : ∀ earlier i later, order = earlier ++ i :: later → ∃ p, initial[i]? = some p ∧
    (runSchedule server schedule initial s₀).1[i]? =
      some (.done (p.run server
        (stateInTurn server (earlier.filterMap fun j => initial[j]?) s₀)).1)
  state : (runSchedule server schedule initial s₀).2 =
    stateInTurn server (order.filterMap fun i => initial[i]?) s₀
  inTime : ∀ first second, schedule = first ++ second → ∀ i a,
    (runSchedule server first initial s₀).1[i]? = some (.done a) →
      ∀ j ∈ order, j ∉ first → [i, j].Sublist order

/-- The programs of calls take effect where they make their last access. `Stage x s p` says how far
the call `x` has come if `p` is left of it: no access undoes this of any call. -/
structure EffectAtEnd (server : I.Server σ) (program : κ → Program I α)
    (Stage : κ → σ → Program I α → Prop) : Prop where
  stage : ∀ {x s p}, Stage x s p → Stage x (p.step server s).2 (p.step server s).1
  keep : ∀ {x s p}, Stage x s p → ∀ y q, Stage y s q → Stage y (p.step server s).2 q
  before : ∀ {x s p}, Stage x s p → (p.step server s).1.answer? = none →
    (p.step server s).2 = s
  effect : ∀ {x s p a}, Stage x s p → p.answer? = none → (p.step server s).1.answer? = some a →
    (program x).run server s = (a, (p.step server s).2)

/-- Each program is at a stage of the call in its place. -/
def AtStages (Stage : κ → σ → Program I α → Prop) (calls : List κ) (ps : List (Program I α))
    (s : σ) : Prop :=
  ∀ i : ℕ, ∀ p ∈ ps[i]?, ∃ x ∈ calls[i]?, Stage x s p

theorem atStages_start {program : κ → Program I α} {Stage : κ → σ → Program I α → Prop}
    {calls : List κ} {s₀ : σ} (h : ∀ x ∈ calls, Stage x s₀ (program x)) :
    AtStages Stage calls (calls.map program) s₀ := by
  intro i p hp
  rw [List.getElem?_map] at hp
  obtain ⟨x, hx, rfl⟩ := Option.map_eq_some_iff.1 hp
  exact ⟨x, hx, h x (List.mem_of_getElem? hx)⟩

namespace EffectAtEnd

variable {program : κ → Program I α} {Stage : κ → σ → Program I α → Prop} {calls : List κ}
  {ps : List (Program I α)} {s : σ}

theorem atStages_entry (h : EffectAtEnd server program Stage) (hps : AtStages Stage calls ps s)
    (i : ℕ) :
    AtStages Stage calls (runSchedule server [i] ps s).1 (runSchedule server [i] ps s).2 := by
  intro j p hp
  rw [getElem?_runSchedule_singleton] at hp
  rcases hi : ps[i]? with _ | q
  · -- there is no program in the place
    have hstate : (runSchedule server [i] ps s).2 = s := by simp only [runSchedule, hi]
    rw [hstate]
    split at hp
    · subst_vars
      simp [hi] at hp
    · exact hps j p hp
  · have hstate : (runSchedule server [i] ps s).2 = (q.step server s).2 := by
      simp only [runSchedule, hi]
    rw [hstate]
    obtain ⟨x, hx, hq⟩ := hps i q hi
    split at hp
    · subst_vars
      obtain rfl : (q.step server s).1 = p := by simpa [hi] using hp
      exact ⟨x, hx, h.stage hq⟩
    · obtain ⟨y, hy, hp⟩ := hps j p hp
      exact ⟨y, hy, h.keep hq y p hp⟩

theorem atStages_runSchedule (h : EffectAtEnd server program Stage)
    (hps : AtStages Stage calls ps s) (schedule : List ℕ) :
    AtStages Stage calls (runSchedule server schedule ps s).1
      (runSchedule server schedule ps s).2 := by
  induction schedule generalizing ps s with
  | nil => exact hps
  | cons i schedule ih =>
    rw [runSchedule_cons]
    exact ih (h.atStages_entry hps i)

/-- **What one entry of a schedule does**: it completes its program, which has run alone from here,
or it changes nothing. -/
theorem entry (h : EffectAtEnd server program Stage) (hps : AtStages Stage calls ps s) (i : ℕ) :
    (completion server i ps s = [] ∧ (runSchedule server [i] ps s).2 = s) ∨
      ∃ x a, completion server i ps s = [i] ∧ calls[i]? = some x ∧
        answerAt? (runSchedule server [i] ps s).1 i = some a ∧
        (program x).run server s = (a, (runSchedule server [i] ps s).2) := by
  have hanswer : answerAt? (runSchedule server [i] ps s).1 i =
      ps[i]?.bind fun p => (p.step server s).1.answer? := by
    rw [answerAt?, getElem?_runSchedule_singleton, if_pos rfl, Option.bind_map]
    rfl
  rcases hi : ps[i]? with _ | p
  · refine Or.inl ⟨?_, by simp only [runSchedule, hi]⟩
    rw [completion, hanswer, hi, if_neg]
    simp
  · have hstate : (runSchedule server [i] ps s).2 = (p.step server s).2 := by
      simp only [runSchedule, hi]
    have hbefore : answerAt? ps i = p.answer? := by rw [answerAt?, hi, Option.bind_some]
    rw [hi, Option.bind_some] at hanswer
    rw [completion, hstate, hbefore, hanswer]
    obtain ⟨x, hx, hp⟩ := hps i p hi
    rcases hp' : p.answer? with _ | b
    · rcases hdone : (p.step server s).1.answer? with _ | a
      · exact Or.inl ⟨by simp, h.before hp hdone⟩
      · exact Or.inr ⟨x, a, by simp, hx, rfl, h.effect hp hp' hdone⟩
    · -- a program that is done makes no access
      obtain rfl := Program.answer?_eq_some_iff.1 hp'
      exact Or.inl ⟨by simp, rfl⟩

/-- The state that a schedule leaves is that behind the programs that it completes. -/
theorem state_eq (h : EffectAtEnd server program Stage) (hps : AtStages Stage calls ps s)
    (schedule : List ℕ) :
    (runSchedule server schedule ps s).2 = stateInTurn server
      ((completions server schedule ps s).filterMap fun i => (calls.map program)[i]?) s := by
  -- on the schedule: its first entry changes nothing, or is the first that takes effect
  induction schedule generalizing ps s with
  | nil => rfl
  | cons i schedule ih =>
    rw [completions, runSchedule_cons i schedule, ih (h.atStages_entry hps i)]
    obtain ⟨hnone, hstate⟩ | ⟨x, a, hone, hx, -, hrun⟩ := h.entry hps i
    · rw [hnone, List.nil_append, hstate]
    · have hprogram : (calls.map program)[i]? = some (program x) := by
        rw [List.getElem?_map, hx, Option.map_some]
      rw [hone, List.singleton_append, List.filterMap_cons_some hprogram, stateInTurn,
        stateInTurn, List.foldl_cons, hrun]

/-- A program that a schedule completes has the answer that it has alone behind those that are
completed before it. -/
theorem answer_eq (h : EffectAtEnd server program Stage) (hps : AtStages Stage calls ps s)
    {schedule earlier later : List ℕ} {i : ℕ}
    (horder : completions server schedule ps s = earlier ++ i :: later) :
    ∃ x, calls[i]? = some x ∧ answerAt? (runSchedule server schedule ps s).1 i =
      some ((program x).run server (stateInTurn server
        (earlier.filterMap fun j => (calls.map program)[j]?) s)).1 := by
  induction schedule generalizing ps s earlier with
  | nil => cases (List.append_eq_nil_iff.1 horder.symm).2
  | cons k schedule ih =>
    rw [completions] at horder
    rw [runSchedule_cons k schedule]
    have hnext := h.atStages_entry hps k
    obtain ⟨hnone, hstate⟩ | ⟨x, a, hone, hx, ha, hrun⟩ := h.entry hps k
    · rw [hnone, List.nil_append] at horder
      obtain ⟨y, hy, hanswer⟩ := ih hnext horder
      exact ⟨y, hy, hanswer.trans (by rw [hstate])⟩
    · rw [hone, List.singleton_append] at horder
      cases earlier with
      -- it is the first that takes effect
      | nil =>
        obtain ⟨rfl, -⟩ := List.cons.inj horder
        refine ⟨x, hx, (answerAt?_runSchedule ha schedule _).trans ?_⟩
        rw [List.filterMap_nil, stateInTurn, List.foldl_nil, hrun]
      | cons k' earlier =>
        obtain ⟨rfl, hrest⟩ := List.cons.inj horder
        have hprogram : (calls.map program)[k]? = some (program x) := by
          rw [List.getElem?_map, hx, Option.map_some]
        obtain ⟨y, hy, hanswer⟩ := ih hnext hrest
        refine ⟨y, hy, hanswer.trans ?_⟩
        rw [List.filterMap_cons_some hprogram, stateInTurn, stateInTurn, List.foldl_cons, hrun]

/-- **The order in which programs are done accounts for what they leave**, if they take effect where
they make their last access, and none is done before it starts. -/
theorem linearizes (h : EffectAtEnd server program Stage) {s₀ : σ}
    (hstart : ∀ x ∈ calls, Stage x s₀ (program x) ∧ (program x).answer? = none)
    (schedule : List ℕ) :
    Linearizes server (calls.map program) s₀ schedule
      (completions server schedule (calls.map program) s₀) := by
  have hstages : AtStages Stage calls (calls.map program) s₀ :=
    atStages_start fun x hx => (hstart x hx).1
  have hnone : ∀ i, answerAt? (calls.map program) i = none := by
    intro i
    rw [answerAt?, List.getElem?_map]
    rcases hx : calls[i]? with _ | x
    · rfl
    · exact (hstart x (List.mem_of_getElem? hx)).2
  have hmem (schedule : List ℕ) (i : ℕ) :
      i ∈ completions server schedule (calls.map program) s₀ ↔
        ∃ a, (runSchedule server schedule (calls.map program) s₀).1[i]? = some (.done a) := by
    rw [mem_completions_iff, Option.isSome_iff_exists, and_iff_right (hnone i)]
    simp only [answerAt?_eq_some_iff]
  refine ⟨nodup_completions _ _ _, hmem schedule, fun earlier i later horder => ?_,
    h.state_eq hstages schedule, ?_⟩
  · obtain ⟨x, hx, hanswer⟩ := h.answer_eq hstages horder
    exact ⟨program x, by rw [List.getElem?_map, hx, Option.map_some],
      answerAt?_eq_some_iff.1 hanswer⟩
  rintro first second rfl i a hi j hj hnot
  rw [completions_append] at hj ⊢
  have hfirst : [i].Sublist (completions server first (calls.map program) s₀) :=
    List.singleton_sublist.2 ((hmem first i).2 ⟨a, hi⟩)
  refine hfirst.append (List.singleton_sublist.2 ((List.mem_append.1 hj).resolve_left fun h => ?_))
  exact hnot (mem_of_mem_completions h)

end EffectAtEnd

end CustomFields
