import Mathlib.Tactic.Common
import CustomFields.Data.Program

/-!
# Runs of several programs

What holds of a run by a schedule is shown for one access and then for the whole schedule: there is
one property of the state, and one of each program, which may differ from program to program. How
often a program has to be scheduled until it is done is a bound on the accesses that it makes.

## Main definitions

* `Program.EndsWithin`: a program makes at most so many accesses, whatever it is answered

## Main results

* `Program.run_invariant`: what each access keeps holds after a program has run alone
* `runSchedule_invariant`: what each access keeps holds after each schedule
* `runSchedule_done`: a program that is scheduled often enough is done
-/

namespace CustomFields

variable {I : Interface} {σ α : Type} {server : I.Server σ}

namespace Program

/-! ## Running alone -/

theorem run_bind {β : Type} (p : Program I α) (f : α → Program I β) (s : σ) :
    (p >>= f).run server s = (f (p.run server s).1).run server (p.run server s).2 :=
  run_andThen server p f s

/-- What each access keeps is kept by a program that runs alone. -/
theorem run_invariant (Inv : σ → Prop) (hserve : ∀ x s, Inv s → Inv (server x s).2)
    (p : Program I α) {s : σ} (hs : Inv s) : Inv (p.run server s).2 := by
  induction p generalizing s with
  | done a => exact hs
  | access x next ih => exact ih _ (hserve x s hs)

/-! ## Bounds on accesses -/

/-- A program makes at most `n` accesses, whatever it is answered. -/
def EndsWithin : ℕ → Program I α → Prop
  | _, .done _ => True
  | 0, .access _ _ => False
  | n + 1, .access x next => ∀ answer : I.Answer x, EndsWithin n (next answer)

theorem exists_done_of_endsWithin {p : Program I α} (h : EndsWithin 0 p) : ∃ a, p = .done a := by
  cases p with
  | done a => exact ⟨a, rfl⟩
  | access x next => exact h.elim

/-- An access uses up one of those that a program may make. -/
theorem EndsWithin.step {n : ℕ} {p : Program I α} (h : EndsWithin n p) (s : σ) :
    EndsWithin (n - 1) (p.step server s).1 := by
  cases p with
  | done a => exact match n - 1 with | 0 => trivial | _ + 1 => trivial
  | access x next =>
    cases n with
    | zero => exact h.elim
    | succ n => exact h _

end Program

/-! ## Accesses that follow each other -/

/-- The answers to accesses that follow each other. -/
def answers (server : I.Server σ) : List I.Access → σ → List (Σ x : I.Access, I.Answer x)
  | [], _ => []
  | x :: xs, s => ⟨x, (server x s).1⟩ :: answers server xs (server x s).2

/-- The state behind accesses that follow each other. -/
def stateAfter (server : I.Server σ) (xs : List I.Access) (s : σ) : σ :=
  xs.foldl (fun s x => (server x s).2) s

/-! ## One entry of a schedule -/

/-- The programs and the state after one entry of a schedule. -/
theorem runSchedule_cons (i : ℕ) (schedule : List ℕ) (ps : List (Program I α)) (s : σ) :
    runSchedule server (i :: schedule) ps s =
      runSchedule server schedule (runSchedule server [i] ps s).1
        (runSchedule server [i] ps s).2 := by
  simp only [runSchedule]
  cases ps[i]? <;> rfl

theorem runSchedule_append (schedule schedule' : List ℕ) (ps : List (Program I α)) (s : σ) :
    runSchedule server (schedule ++ schedule') ps s =
      runSchedule server schedule' (runSchedule server schedule ps s).1
        (runSchedule server schedule ps s).2 := by
  induction schedule generalizing ps s with
  | nil => rfl
  | cons i schedule ih => rw [List.cons_append, runSchedule_cons, ih, ← runSchedule_cons]

/-- An entry lets its program make an access and leaves the others as they are. -/
theorem getElem?_runSchedule_singleton (i j : ℕ) (ps : List (Program I α)) (s : σ) :
    (runSchedule server [i] ps s).1[j]? =
      if i = j then ps[j]?.map fun p => (p.step server s).1 else ps[j]? := by
  by_cases h : i = j
  · subst h
    rw [if_pos rfl]
    cases hp : ps[i]? with
    | none => simp only [runSchedule, hp, Option.map_none]
    | some p =>
      have hi : i < ps.length := (List.getElem?_eq_some_iff.1 hp).1
      simp only [runSchedule, hp, List.getElem?_set_self hi, Option.map_some]
  · rw [if_neg h]
    cases hp : ps[i]? with
    | none => simp only [runSchedule, hp]
    | some p => simp only [runSchedule, hp, List.getElem?_set_ne h]

/-! ## Whole schedules -/

/-- **What each access keeps holds after each schedule**: `Inv` of the state, and of each program
what `Ok` asks of the one in its place. -/
theorem runSchedule_invariant (Inv : σ → Prop) (Ok : ℕ → Program I α → Prop)
    (hstep : ∀ i p s, Inv s → Ok i p → Inv (p.step server s).2 ∧ Ok i (p.step server s).1)
    (schedule : List ℕ) {ps : List (Program I α)} {s : σ} (hs : Inv s)
    (hps : ∀ i, ∀ p ∈ ps[i]?, Ok i p) :
    Inv (runSchedule server schedule ps s).2 ∧
      ∀ i, ∀ p ∈ (runSchedule server schedule ps s).1[i]?, Ok i p := by
  -- on the schedule, for any programs and state that satisfy what is asked of them
  induction schedule generalizing ps s with
  | nil => exact ⟨hs, hps⟩
  | cons i schedule ih =>
    rw [runSchedule_cons]
    refine ih ?_ fun j p hp => ?_
    · simp only [runSchedule]
      split
      · exact hs
      · rename_i p hp
        exact (hstep i p s hs (hps i p hp)).1
    · rw [getElem?_runSchedule_singleton] at hp
      split at hp
      -- the program that was scheduled has made its step, the others have not
      · obtain ⟨q, hq, rfl⟩ := Option.map_eq_some_iff.1 hp
        exact (hstep j q s hs (hps j q hq)).2
      · exact hps j p hp

/-- A program that is scheduled as often as it makes accesses is done. -/
theorem runSchedule_done {i n : ℕ} {schedule : List ℕ} (hcount : n ≤ schedule.count i)
    {ps : List (Program I α)} {p : Program I α} (hp : ps[i]? = some p) (hn : p.EndsWithin n)
    (s : σ) :
    ∃ a, (runSchedule server schedule ps s).1[i]? = some (.done a) := by
  induction schedule generalizing ps p n s with
  | nil =>
    rw [List.count_nil, Nat.le_zero] at hcount
    subst hcount
    obtain ⟨a, rfl⟩ := Program.exists_done_of_endsWithin hn
    exact ⟨a, hp⟩
  | cons j schedule ih =>
    rw [runSchedule_cons]
    by_cases hj : j = i
    -- an entry for the program uses up one of its accesses
    · subst hj
      rw [List.count_cons_self] at hcount
      exact ih (Nat.sub_le_of_le_add hcount)
        (by rw [getElem?_runSchedule_singleton, if_pos rfl, hp, Option.map_some]) (hn.step s) _
    -- one for another program leaves it as it is
    · rw [List.count_cons_of_ne hj] at hcount
      exact ih hcount (by rw [getElem?_runSchedule_singleton, if_neg hj, hp]) hn _

end CustomFields
