/-!
# Programs over accesses

A call that reaches shared state does so by single accesses, each of which happens at one point in
time; between them it computes on its own. A `Program` says what a call does as a tree: it is done,
or it makes an access and goes on with the answer. Run alone, its accesses follow each other
directly. Run among others, theirs may lie between its own, and a schedule says in which order.

## Main definitions

* `Interface`: the accesses to a state and the types of their answers
* `Program`: what a call does, access by access
* `Program.run`: a call that runs alone
* `Program.step`: one access of one call
* `runSchedule`: several calls that run by a schedule
-/

namespace CustomFields

/-- What a program may ask for, and what it is answered. -/
structure Interface where
  Access : Type
  Answer : Access → Type

/-- How a state of type `σ` serves the accesses of an interface. -/
abbrev Interface.Server (I : Interface) (σ : Type) : Type :=
  (x : I.Access) → σ → I.Answer x × σ

/-- A computation that makes accesses, one after the other, and goes on by what they answer. -/
inductive Program (I : Interface) (α : Type) where
  | done (a : α)
  | access (x : I.Access) (next : I.Answer x → Program I α)

namespace Program

variable {I : Interface} {σ α β : Type}

/-- Goes on with another program where one is done. -/
def andThen : Program I α → (α → Program I β) → Program I β
  | .done a, f => f a
  | .access x next, f => .access x fun answer => (next answer).andThen f

instance : Monad (Program I) where
  pure := .done
  bind := andThen

/-- The program that makes one access. -/
def perform (x : I.Access) : Program I (I.Answer x) :=
  .access x .done

/-- Runs a program alone. -/
def run (server : I.Server σ) : Program I α → σ → α × σ
  | .done a, s => (a, s)
  | .access x next, s =>
    let (answer, s) := server x s
    (next answer).run server s

theorem run_andThen (server : I.Server σ) (p : Program I α) (f : α → Program I β) (s : σ) :
    (p.andThen f).run server s = (f (p.run server s).1).run server (p.run server s).2 := by
  induction p generalizing s with
  | done a => rfl
  | access x next ih => simp only [andThen, run]; rw [ih]

/-- Makes the next access of a program; one that is done stays as it is. -/
def step (server : I.Server σ) : Program I α → σ → Program I α × σ
  | .done a, s => (.done a, s)
  | .access x next, s =>
    let (answer, s) := server x s
    (next answer, s)

end Program

/-- Lets programs make accesses in the order of a schedule of their places. -/
def runSchedule {I : Interface} {σ α : Type} (server : I.Server σ) :
    List Nat → List (Program I α) → σ → List (Program I α) × σ
  | [], ps, s => (ps, s)
  | i :: schedule, ps, s =>
    match ps[i]? with
    | none => runSchedule server schedule ps s
    | some p =>
      let (p, s) := p.step server s
      runSchedule server schedule (ps.set i p) s

end CustomFields
