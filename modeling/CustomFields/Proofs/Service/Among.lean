import CustomFields.Proofs.Data.History
import CustomFields.Proofs.Service.Accesses

/-!
# Calls among other calls

What a call ensures while others make their accesses between its own. A call is put together from
its accesses as it is written: what its next access finds in the shared state is whatever the
contract says of the accesses made by then, and what it has found itself stays known to it.

## Main definitions

* `Call.Ensures`: a call keeps a contract among others, and how it ends

## Main results

* `Call.Ensures.bind`: a call that goes on with another one
* `Call.ensures_access`, `Call.ensures_store`, `Call.ensures_compile`: single accesses
-/

namespace CustomFields

/-- An access to the state that service calls share. -/
abbrev ServiceAccessEvent := AccessEvent serviceInterface Deployment

namespace Call

variable {C : Contract Deployment.serve} {i : ℕ} {α β : Type}
  {past : List ServiceAccessEvent}

/-- The call in a place keeps a contract from here on, and ends with what is asked of its answer. -/
def Ensures (C : Contract Deployment.serve) (i : ℕ)
    (Post : List ServiceAccessEvent → Except ServiceError α → Prop)
    (past : List ServiceAccessEvent) (c : Call α) : Prop :=
  C.Ensures i Post past (ExceptT.run c)

variable {Post : List ServiceAccessEvent → Except ServiceError α → Prop}

theorem ensures_pure {a : α} (h : ∀ past', Waits i past past' → Post past' (.ok a)) :
    Ensures C i Post past (pure a) :=
  h

theorem ensures_throw {e : ServiceError} (h : ∀ past', Waits i past past' → Post past' (.error e)) :
    Ensures C i Post past (throw e) :=
  h

theorem ensures_lift {r : Except ServiceError α} (h : ∀ past', Waits i past past' → Post past' r) :
    Ensures C i Post past (liftM r) := by
  cases r with
  | ok a => exact h
  | error e => exact h

/-- A call that goes on with another one, unless it has failed before. -/
theorem Ensures.bind {Post' : List ServiceAccessEvent → Except ServiceError β → Prop}
    {c : Call α} {f : α → Call β} (h : Ensures C i Post past c)
    (hok : ∀ past' a, past <+: past' → Post past' (.ok a) → Ensures C i Post' past' (f a))
    (herror : ∀ past' e, Post past' (.error e) → Post' past' (.error e)) :
    Ensures C i Post' past (c >>= f) := by
  show C.Ensures i Post' past (ExceptT.run c >>= ExceptT.bindCont f)
  refine Contract.Ensures.bind h fun past' r hpre hr => ?_
  cases r with
  | ok a => exact hok past' a hpre (hr past' (Waits.refl i past'))
  | error e => exact fun past'' hw => herror past'' e (hr past'' hw)

theorem ensures_access {x : ServiceAccess}
    {Post : List ServiceAccessEvent → Except ServiceError (serviceInterface.Answer x) → Prop}
    (h : ∀ past' d, Waits i past past' → C.Keeps past' d → C.Allowed ⟨i, x, d⟩ →
      C.Keeps (past' ++ [⟨i, x, d⟩]) (d.serve x).2 ∧
        ∀ past'', Waits i (past' ++ [⟨i, x, d⟩]) past'' → Post past'' (.ok (d.serve x).1)) :
    Ensures C i Post past (access x) :=
  h

/-- A step of a call that ends it where it answers with an error. -/
theorem Ensures.orThrow {ε : Type} {c : Call (Except ε α)} {f : ε → ServiceError}
    {next : Except ε α → Call α} (hok : ∀ a, next (.ok a) = pure a)
    (herror : ∀ e, next (.error e) = throw (f e))
    (h : Ensures C i (fun past' r => ∃ answer, r = .ok answer ∧ Post past' (answer.mapError f))
      past c) :
    Ensures C i Post past (c >>= next) := by
  refine Contract.Ensures.bind h fun past' r _ hr => ?_
  obtain ⟨answer, rfl, -⟩ := hr past' (Waits.refl i past')
  replace hr : ∀ past'', Waits i past' past'' → Post past'' (answer.mapError f) := by
    intro past'' hw
    obtain ⟨answer', heq, hpost⟩ := hr past'' hw
    exact Except.ok.inj heq ▸ hpost
  show Ensures C i Post past' (next answer)
  cases answer with
  | ok a =>
    rw [hok]
    exact ensures_pure hr
  | error e =>
    rw [herror]
    exact ensures_throw hr

theorem ensures_store {x : StoreAccess}
    {Post : List ServiceAccessEvent → Except ServiceError x.Result → Prop}
    (h : ∀ past' d, Waits i past past' → C.Keeps past' d → C.Allowed ⟨i, .store x, d⟩ →
      C.Keeps (past' ++ [⟨i, .store x, d⟩]) { d with storage := (d.storage.serve x).2 } ∧
        ∀ past'', Waits i (past' ++ [⟨i, .store x, d⟩]) past'' →
          Post past'' ((d.storage.serve x).1.mapError .store)) :
    Ensures C i Post past (store x) := by
  refine Ensures.orThrow (c := access (.store x)) (fun _ => rfl) (fun _ => rfl) ?_
  refine ensures_access fun past' d hw hd ha => ?_
  obtain ⟨hkeeps, hpost⟩ := h past' d hw hd ha
  exact ⟨hkeeps, fun past'' hw' => ⟨_, rfl, hpost past'' hw'⟩⟩

theorem ensures_compile {s : Schema}
    {Post : List ServiceAccessEvent → Except ServiceError Compilation → Prop}
    (h : ∀ past' d, Waits i past past' → C.Keeps past' d → C.Allowed ⟨i, .compile s, d⟩ →
      C.Keeps (past' ++ [⟨i, .compile s, d⟩]) { d with cache := (d.cache.getOrCompile s).2 } ∧
        ∀ past'', Waits i (past' ++ [⟨i, .compile s, d⟩]) past'' →
          Post past'' ((d.cache.getOrCompile s).1.mapError .schema)) :
    Ensures C i Post past (compile s) := by
  refine Ensures.orThrow (c := access (.compile s)) (fun _ => rfl) (fun _ => rfl) ?_
  refine ensures_access fun past' d hw hd ha => ?_
  obtain ⟨hkeeps, hpost⟩ := h past' d hw hd ha
  exact ⟨hkeeps, fun past'' hw' => ⟨_, rfl, hpost past'' hw'⟩⟩

end Call

end CustomFields
