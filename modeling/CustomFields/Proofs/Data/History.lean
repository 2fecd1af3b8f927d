import CustomFields.Proofs.Data.Program

/-!
# What a program ensures among others

A program that runs by a schedule finds states that others have left. What it can count on are the
accesses that have been made so far: those of the others may become more while it waits, its own do
not. So what a run keeps is a property of the accesses made so far together with the state, and a
program keeps it if each of its accesses does, wherever the others stand by then.

`Contract.Ensures` says this of one program, by recursion on the program, and
`Contract.Ensures.bind` puts programs together. A schedule needs nothing more: what each program
ensures for itself holds of all of them.

## Main definitions

* `AccessEvent`: an access that has been made, and the state that it found
* `scheduleEvents`: the accesses that are made by a schedule
* `Contract`: what accesses may be made, and what each of them is to keep
* `Contract.Ensures`: a program keeps a contract, and ends with what is asked of its answer

## Main results

* `Contract.Ensures.bind`: programs that keep a contract after each other keep it together
* `Contract.after_schedule`: what programs ensure one by one holds after each schedule
* `Contract.before_event`: and it holds of the state that each access finds
-/

namespace CustomFields

/-! ## Accesses that have been made -/

/-- An access that a program has made. -/
structure AccessEvent (I : Interface) (σ : Type) where
  /-- The place of the program. -/
  place : ℕ
  access : I.Access
  /-- The state that the access found. -/
  before : σ

variable {I : Interface} {σ α β : Type}

/-- The accesses that programs make by a schedule. -/
def scheduleEvents (server : I.Server σ) :
    List ℕ → List (Program I α) → σ → List (AccessEvent I σ)
  | [], _, _ => []
  | i :: schedule, ps, s =>
    (match ps[i]? with
      | some (.access x _) => [⟨i, x, s⟩]
      | _ => []) ++
      scheduleEvents server schedule (runSchedule server [i] ps s).1 (runSchedule server [i] ps s).2

theorem scheduleEvents_cons (server : I.Server σ) (i : ℕ) (schedule : List ℕ)
    (ps : List (Program I α)) (s : σ) :
    scheduleEvents server (i :: schedule) ps s =
      scheduleEvents server [i] ps s ++
        scheduleEvents server schedule (runSchedule server [i] ps s).1
          (runSchedule server [i] ps s).2 := by
  simp only [scheduleEvents, List.append_nil]

/-- One entry of a schedule makes the next access of its program, or none if there is none. -/
theorem scheduleEvents_singleton (server : I.Server σ) (i : ℕ) (ps : List (Program I α)) (s : σ) :
    scheduleEvents server [i] ps s = [] ∨
      ∃ x, scheduleEvents server [i] ps s = [⟨i, x, s⟩] := by
  simp only [scheduleEvents, List.append_nil]
  split
  · exact Or.inr ⟨_, rfl⟩
  · exact Or.inl rfl

/-- While the program in a place waits, the others may make accesses. -/
def Waits (i : ℕ) (past past' : List (AccessEvent I σ)) : Prop :=
  ∃ others, past' = past ++ others ∧ ∀ ev ∈ others, ev.place ≠ i

namespace Waits

variable {i : ℕ} {past past' past'' : List (AccessEvent I σ)}

theorem refl (i : ℕ) (past : List (AccessEvent I σ)) : Waits i past past :=
  ⟨[], (List.append_nil past).symm, by simp⟩

theorem trans (h : Waits i past past') (h' : Waits i past' past'') : Waits i past past'' := by
  obtain ⟨others, rfl, ho⟩ := h
  obtain ⟨others', rfl, ho'⟩ := h'
  refine ⟨others ++ others', List.append_assoc _ _ _, ?_⟩
  intro ev hev
  exact (List.mem_append.1 hev).elim (ho ev) (ho' ev)

theorem single {ev : AccessEvent I σ} (h : ev.place ≠ i) : Waits i past (past ++ [ev]) :=
  ⟨[ev], rfl, by simpa using h⟩

theorem isPrefix (h : Waits i past past') : past <+: past' := by
  obtain ⟨others, rfl, -⟩ := h
  exact List.prefix_append past others

/-- The accesses of the place itself do not become more. -/
theorem countP_eq (h : Waits i past past') {p : AccessEvent I σ → Bool}
    (hp : ∀ ev, p ev = true → ev.place = i) : past'.countP p = past.countP p := by
  obtain ⟨others, rfl, ho⟩ := h
  have hnone : others.countP p = 0 :=
    List.countP_eq_zero.2 fun ev hev hpe => ho ev hev (hp ev hpe)
  rw [List.countP_append, hnone, Nat.add_zero]

end Waits

/-! ## Contracts -/

/-- What accesses to a served state may be made, and what each of them is to keep: a property of the
accesses made so far together with the state. -/
structure Contract (server : I.Server σ) where
  Allowed : AccessEvent I σ → Prop
  Keeps : List (AccessEvent I σ) → σ → Prop

namespace Contract

variable {server : I.Server σ} (C : Contract server) (i : ℕ)

/-- The program in a place keeps a contract from here on, whatever the others do while it waits,
and when it is done, `Post` holds of its answer and of the accesses made by then. -/
def Ensures (Post : List (AccessEvent I σ) → α → Prop) :
    List (AccessEvent I σ) → Program I α → Prop
  | past, .done a => ∀ past', Waits i past past' → Post past' a
  | past, .access x next =>
    ∀ past' s, Waits i past past' → C.Keeps past' s → C.Allowed ⟨i, x, s⟩ →
      C.Keeps (past' ++ [⟨i, x, s⟩]) (server x s).2 ∧
        Ensures Post (past' ++ [⟨i, x, s⟩]) (next (server x s).1)

variable {C i} {Post : List (AccessEvent I σ) → α → Prop} {past past' : List (AccessEvent I σ)}
  {p : Program I α}

/-- A program ensures the same after it has waited. -/
theorem Ensures.waits (h : C.Ensures i Post past p) (hw : Waits i past past') :
    C.Ensures i Post past' p := by
  cases p with
  | done a => exact fun past'' hw' => h past'' (hw.trans hw')
  | access x next => exact fun past'' s hw' => h past'' s (hw.trans hw')

theorem Ensures.imp {Post' : List (AccessEvent I σ) → α → Prop} (h : C.Ensures i Post past p)
    (himp : ∀ past a, Post past a → Post' past a) : C.Ensures i Post' past p := by
  induction p generalizing past with
  | done a => exact fun past' hw => himp past' a (h past' hw)
  | access x next ih =>
    intro past' s hw hs ha
    obtain ⟨hkeeps, hnext⟩ := h past' s hw hs ha
    exact ⟨hkeeps, ih _ hnext⟩

/-- **Programs that keep a contract after each other keep it together.** The second may count on
what the first has ended with, and on the accesses made before it. -/
theorem Ensures.bind {Post' : List (AccessEvent I σ) → β → Prop} {f : α → Program I β}
    (h : C.Ensures i Post past p)
    (hf : ∀ past' a, past <+: past' → (∀ past'', Waits i past' past'' → Post past'' a) →
      C.Ensures i Post' past' (f a)) :
    C.Ensures i Post' past (p >>= f) := by
  induction p generalizing past with
  | done a => exact hf past a List.prefix_rfl h
  | access x next ih =>
    intro past' s hw hs ha
    obtain ⟨hkeeps, hnext⟩ := h past' s hw hs ha
    refine ⟨hkeeps, ih _ hnext fun past'' a hpre => hf past'' a ?_⟩
    exact hw.isPrefix.trans ((List.prefix_append past' _).trans hpre)

/-! ## Schedules -/

/-- The accesses of one entry of a schedule are kept to by its program and change nothing of what
the others ensure. -/
theorem after_entry {Post : ℕ → List (AccessEvent I σ) → α → Prop} {ps : List (Program I α)} {s : σ}
    (hs : C.Keeps past s) (hps : ∀ j, ∀ p ∈ ps[j]?, C.Ensures j (Post j) past p)
    (hallowed : ∀ ev ∈ scheduleEvents server [i] ps s, C.Allowed ev) :
    C.Keeps (past ++ scheduleEvents server [i] ps s) (runSchedule server [i] ps s).2 ∧
      ∀ j, ∀ p ∈ (runSchedule server [i] ps s).1[j]?,
        C.Ensures j (Post j) (past ++ scheduleEvents server [i] ps s) p := by
  simp only [scheduleEvents, List.append_nil] at hallowed ⊢
  simp only [getElem?_runSchedule_singleton]
  rcases hp : ps[i]? with _ | ⟨a⟩ | ⟨x, next⟩
  · -- there is no program in the place
    simp only [runSchedule, hp, List.append_nil]
    refine ⟨hs, fun j p hj => hps j p ?_⟩
    split at hj
    · subst_vars
      simp [hp] at hj
    · exact hj
  · -- a program that is done stays as it is
    simp only [runSchedule, hp, Program.step, List.append_nil]
    refine ⟨hs, fun j p hj => hps j p ?_⟩
    split at hj
    · subst_vars
      simpa [hp, Program.step] using hj
    · exact hj
  · simp only [hp, List.mem_singleton, forall_eq] at hallowed
    obtain ⟨hkeeps, hnext⟩ := hps i _ hp past s (Waits.refl i past) hs hallowed
    simp only [runSchedule, hp, Program.step]
    refine ⟨hkeeps, fun j p hj => ?_⟩
    split at hj
    · subst_vars
      obtain rfl : next (server x s).1 = p := by simpa [hp, Program.step] using hj
      exact hnext
    · rename_i hne
      exact (hps j p hj).waits (Waits.single hne)

/-- **What programs ensure one by one holds after each schedule.** -/
theorem after_schedule {Post : ℕ → List (AccessEvent I σ) → α → Prop} (schedule : List ℕ)
    {ps : List (Program I α)} {s : σ} (hs : C.Keeps past s)
    (hps : ∀ j, ∀ p ∈ ps[j]?, C.Ensures j (Post j) past p)
    (hallowed : ∀ ev ∈ scheduleEvents server schedule ps s, C.Allowed ev) :
    C.Keeps (past ++ scheduleEvents server schedule ps s)
        (runSchedule server schedule ps s).2 ∧
      ∀ j, ∀ p ∈ (runSchedule server schedule ps s).1[j]?,
        C.Ensures j (Post j) (past ++ scheduleEvents server schedule ps s) p := by
  -- on the schedule, whatever accesses have been made before it
  induction schedule generalizing past ps s with
  | nil =>
    rw [scheduleEvents, List.append_nil]
    exact ⟨hs, hps⟩
  | cons i schedule ih =>
    rw [scheduleEvents_cons] at hallowed
    rw [runSchedule_cons i schedule ps s, scheduleEvents_cons, ← List.append_assoc]
    obtain ⟨hs, hps⟩ := after_entry hs hps fun ev hev => hallowed ev (List.mem_append_left _ hev)
    exact ih hs hps fun ev hev => hallowed ev (List.mem_append_right _ hev)

/-- An access finds a state of which holds what is to be kept, with the accesses made before it. -/
theorem before_event {Post : ℕ → List (AccessEvent I σ) → α → Prop} {schedule : List ℕ}
    {ps : List (Program I α)} {s : σ} (hs : C.Keeps past s)
    (hps : ∀ j, ∀ p ∈ ps[j]?, C.Ensures j (Post j) past p)
    (hallowed : ∀ ev ∈ scheduleEvents server schedule ps s, C.Allowed ev)
    {earlier later : List (AccessEvent I σ)} {ev : AccessEvent I σ}
    (hlog : scheduleEvents server schedule ps s = earlier ++ ev :: later) :
    C.Keeps (past ++ earlier) ev.before := by
  induction schedule generalizing past ps s earlier with
  | nil =>
    rw [scheduleEvents] at hlog
    cases List.append_eq_nil_iff.1 hlog.symm |>.2
  | cons i schedule ih =>
    rw [scheduleEvents_cons] at hallowed hlog
    obtain ⟨hs', hps'⟩ := after_entry hs hps fun ev hev => hallowed ev (List.mem_append_left _ hev)
    replace hallowed := fun ev hev => hallowed ev (List.mem_append_right _ hev)
    rcases scheduleEvents_singleton server i ps s with hnone | ⟨x, hone⟩
    · rw [hnone, List.nil_append] at hlog
      rw [hnone, List.append_nil] at hs' hps'
      exact ih hs' hps' hallowed hlog
    · rw [hone, List.singleton_append] at hlog
      rw [hone] at hs' hps'
      cases earlier with
      | nil =>
        obtain ⟨rfl, -⟩ := List.cons.inj hlog
        rwa [List.append_nil]
      | cons ev' earlier =>
        obtain ⟨rfl, htail⟩ := List.cons.inj hlog
        have hkeeps := ih hs' hps' hallowed htail
        rwa [List.append_assoc, List.singleton_append] at hkeeps

end Contract

end CustomFields
