import CustomFields.Proofs.Data.Bindings
import CustomFields.Rule.Registry

/-!
# What a registry knows of its registrations

A registry is filled by calls that register one rule, or those that are built in. It keeps its rules
in no order of its own: how they are arranged is left open after each call. Whatever a registry is
asked for about a name, it answers by the last registration of the name, so neither earlier ones of
the name nor those of other names show, and the names that it lists stand in their own order.

## Main definitions

* `Registration`: a call that registers rules
* `registered`: the rules that calls register, one by one
* `Registry.FilledBy`: calls fill a registry, however it arranges its rules
* `Registry.Answers`, `Registry.Ignores`, `Registry.AlikeAt`: what registries answer about a name
* `Registry.Alike`: registries between which no question tells

## Main results

* `Registry.FilledBy.perm`: a registry holds the map of the rules that have been registered
* `Registry.last_registration_wins`: what a registry answers
-/

namespace CustomFields.Rule

/-- A call that registers one rule, or the rules that are built in. -/
inductive Registration where
  | rule (name : String) (function : Function) (metadata : Metadata)
  | builtins

namespace Registration

/-- Makes a call. -/
def perform (r : Registry) : Registration → Registry
  | .rule name function metadata => r.register name function metadata
  | .builtins => r.registerBuiltins

/-- The rules that a call registers. -/
def bindings : Registration → List (String × Registered)
  | .rule name function metadata => [(name, ⟨function, metadata⟩)]
  | .builtins =>
    [(Numeric.name, ⟨Numeric.rule, Numeric.metadata⟩), (Date.name, ⟨Date.rule, Date.metadata⟩)]

end Registration

/-- The rules that calls register, in the order of the calls. -/
def registered (calls : List Registration) : List (String × Registered) :=
  calls.flatMap (·.bindings)

namespace Registry

/-- Calls fill a registry, which may arrange its rules anew at each of them. -/
inductive FilledBy : List Registration → Registry → Prop where
  | start : FilledBy [] .empty
  | call {calls : List Registration} {r r' : Registry} (c : Registration) (filled : FilledBy calls r)
    (arranged : r'.rules.Perm (c.perform r).rules) : FilledBy (calls ++ [c]) r'

/-- The registry that calls fill where each rule stays where its name came first. -/
def ofCalls (calls : List Registration) : Registry :=
  calls.foldl Registration.perform .empty

theorem filledBy_ofCalls (calls : List Registration) : FilledBy calls (ofCalls calls) := by
  induction calls using List.reverseRecOn with
  | nil => exact .start
  | append_singleton calls c ih =>
    refine .call c ih ?_
    rw [ofCalls, List.foldl_append]
    exact .refl _

/-- A call stores its rules one by one. -/
theorem rules_perform (r : Registry) (c : Registration) :
    (c.perform r).rules =
      c.bindings.foldl (fun rules b => Entries.assign b.1 b.2 rules) r.rules := by
  cases c <;> rfl

/-- Storing rules one by one respects how those that are there are arranged. -/
theorem foldl_assign_perm (bindings : List (String × Registered))
    {rules rules' : List (String × Registered)} (h : rules.Perm rules')
    (hn : (Entries.keys rules).Nodup) :
    (bindings.foldl (fun rules b => Entries.assign b.1 b.2 rules) rules).Perm
      (bindings.foldl (fun rules b => Entries.assign b.1 b.2 rules) rules') := by
  induction bindings generalizing rules rules' with
  | nil => exact h
  | cons b bindings ih =>
    exact ih (Entries.assign_perm h hn b.1 b.2) (Entries.nodup_keys_assign hn)

/-- **A registry holds the map of the rules that have been registered.** -/
theorem FilledBy.perm {calls : List Registration} {r : Registry} (h : r.FilledBy calls) :
    r.rules.Perm (Entries.collect (registered calls)) := by
  induction h with
  | start => exact .refl _
  | @call calls r r' c _ arranged ih =>
    have hcollect : Entries.collect (registered (calls ++ [c])) =
        c.bindings.foldl (fun rules b => Entries.assign b.1 b.2 rules)
          (Entries.collect (registered calls)) := by
      rw [registered, List.flatMap_append, Entries.collect, List.foldl_append,
        List.flatMap_singleton]
      rfl
    have hn : (Entries.keys r.rules).Nodup :=
      (ih.map Prod.fst).nodup_iff.2 (Entries.nodup_keys_collect _)
    rw [rules_perform] at arranged
    rw [hcollect]
    exact arranged.trans (foldl_assign_perm c.bindings ih hn)

/-! ## What a registry is asked for -/

/-- Whatever is asked for about a name is answered by a rule. -/
structure Answers (r : Registry) (name : String) (x : Registered) : Prop where
  lookup : r.lookup? name = some x.function
  contains : r.contains name = true
  metadata : Entries.get? name r.listMetadata = some x.metadata
  runs : ∀ v params today b, x.function v params today = .ok b →
    r.execute name v params today = .ok b
  fails : ∀ v params today failure, x.function v params today = .error failure →
    r.execute name v params today = .error (.execution name failure)

/-- Nothing is known about a name. -/
structure Ignores (r : Registry) (name : String) : Prop where
  lookup : r.lookup? name = none
  contains : r.contains name = false
  metadata : Entries.get? name r.listMetadata = none
  unknown : ∀ v params today, r.execute name v params today = .error (.unknown name)

/-- Two registries answer alike about a name. -/
structure AlikeAt (r r' : Registry) (name : String) : Prop where
  lookup : r.lookup? name = r'.lookup? name
  contains : r.contains name = r'.contains name
  metadata : Entries.get? name r.listMetadata = Entries.get? name r'.listMetadata
  execute : r.execute name = r'.execute name

/-- No question tells two registries from each other. -/
structure Alike (r r' : Registry) : Prop where
  alikeAt : ∀ name, r.AlikeAt r' name
  names : r.names = r'.names
  listMetadata : r.listMetadata = r'.listMetadata
  size : r.size = r'.size
  isEmpty : r.isEmpty = r'.isEmpty

variable {r r' : Registry} {name : String}

theorem get?_describe (rules : List (String × Registered)) (name : String) :
    Entries.get? name (rules.map fun (name, rule) => (name, rule.metadata)) =
      (Entries.get? name rules).map (·.metadata) := by
  induction rules with
  | nil => rfl
  | cons b rules ih =>
    rw [List.map_cons, Entries.get?, Entries.get?, ih]
    split <;> rfl

theorem keys_describe (rules : List (String × Registered)) :
    Entries.keys (rules.map fun (name, rule) => (name, rule.metadata)) = Entries.keys rules := by
  rw [Entries.keys, List.map_map]
  rfl

/-! ### Registries that know each name once -/

section Nodup

variable (hn : (Entries.keys r.rules).Nodup)

include hn

theorem listMetadata_perm :
    r.listMetadata.Perm (r.rules.map fun (name, rule) => (name, rule.metadata)) :=
  Entries.ofBindings_perm (by rwa [keys_describe])

theorem get?_listMetadata (name : String) :
    Entries.get? name r.listMetadata = (Entries.get? name r.rules).map (·.metadata) := by
  rw [← get?_describe]
  refine (Entries.get?_eq_of_perm (listMetadata_perm hn).symm ?_ name).symm
  rwa [keys_describe]

/-- The names are in strict order, since no name is there twice. -/
theorem increasing_names : r.names.Pairwise (· < ·) := by
  have hsorted : r.names.Pairwise (· ≤ ·) := by
    refine (List.pairwise_mergeSort ?_ ?_ _).imp of_decide_eq_true
    · intro a b c hab hbc
      exact decide_eq_true (Std.le_trans (of_decide_eq_true hab) (of_decide_eq_true hbc))
    · intro a b
      rw [Bool.or_eq_true, decide_eq_true_eq, decide_eq_true_eq]
      exact Std.le_total
  have hnodup : r.names.Nodup := (List.mergeSort_perm _ _).nodup_iff.2 hn
  exact (hsorted.and hnodup).imp fun h => Std.lt_of_le_of_ne h.1 h.2

theorem names_eq_keys_listMetadata : r.names = Entries.keys r.listMetadata := by
  have hkeys : (Entries.keys r.listMetadata).Perm (Entries.keys r.rules) := by
    rw [← keys_describe r.rules]
    exact (listMetadata_perm hn).map Prod.fst
  exact Entries.eq_of_perm_of_increasing ((List.mergeSort_perm _ _).trans hkeys.symm)
    (increasing_names hn) (Entries.sorted_ofBindings _)

/-- A registry answers about a name by what it holds under the name. -/
theorem answers_of_get? {x : Registered} (h : Entries.get? name r.rules = some x) :
    r.Answers name x := by
  have hlookup : r.lookup? name = some x.function := by rw [lookup?, h, Option.map_some]
  refine ⟨hlookup, by rw [contains, Entries.contains, h, Option.isSome_some],
    by rw [get?_listMetadata hn, h, Option.map_some], ?_, ?_⟩
  · intro v params today b hb
    simp only [execute, hlookup, hb]
    rfl
  · intro v params today failure hfailure
    simp only [execute, hlookup, hfailure]
    rfl

theorem ignores_of_get? (h : Entries.get? name r.rules = none) : r.Ignores name := by
  have hlookup : r.lookup? name = none := by rw [lookup?, h, Option.map_none]
  refine ⟨hlookup, by rw [contains, Entries.contains, h, Option.isSome_none],
    by rw [get?_listMetadata hn, h, Option.map_none], fun v params today => ?_⟩
  rw [execute, hlookup]
  rfl

theorem alikeAt_of_get? (hn' : (Entries.keys r'.rules).Nodup)
    (h : Entries.get? name r.rules = Entries.get? name r'.rules) : r.AlikeAt r' name := by
  have hlookup : r.lookup? name = r'.lookup? name := by rw [lookup?, lookup?, h]
  refine ⟨hlookup, by rw [contains, contains, Entries.contains, Entries.contains, h],
    by rw [get?_listMetadata hn, get?_listMetadata hn', h], ?_⟩
  funext v params today
  rw [execute, execute, hlookup]

/-- How the rules are arranged does not show. -/
theorem alike_of_perm (h : r.rules.Perm r'.rules) : r.Alike r' := by
  have hn' : (Entries.keys r'.rules).Nodup := (h.map Prod.fst).nodup_iff.1 hn
  have hlist : r.listMetadata = r'.listMetadata := by
    refine Entries.ofBindings_eq_of_perm (h.map _) ?_
    rwa [keys_describe]
  refine ⟨fun name => alikeAt_of_get? hn hn' (Entries.get?_eq_of_perm h hn name), ?_, hlist,
    h.length_eq, ?_⟩
  · rw [names_eq_keys_listMetadata hn, names_eq_keys_listMetadata hn', hlist]
  · rw [isEmpty, isEmpty, Bool.eq_iff_iff, List.isEmpty_iff, List.isEmpty_iff]
    exact ⟨fun hr => (hr ▸ h).nil_eq.symm, fun hr => (hr ▸ h).eq_nil⟩

end Nodup

/-- A rule that is there never fails as an unknown one. -/
theorem Answers.execute_ne_unknown {x : Registered} (h : r.Answers name x) (v : Json.Value)
    (params : Parameters) (today : Calendar.Date) (unknown : String) :
    r.execute name v params today ≠ .error (.unknown unknown) := by
  cases hx : x.function v params today with
  | ok b =>
    rw [h.runs v params today b hx]
    rintro ⟨⟩
  | error failure =>
    rw [h.fails v params today failure hx]
    rintro ⟨⟩

/-! ## The last registration -/

/-- **The last registration of a name wins.** Let calls fill a registry, however it arranges its
rules. Whatever is asked for about a name is answered by the last rule that has been registered under
it: its function, its description, and the result of running it, with the name put to a failure.
There is such a rule if and only if the name has been registered, and else nothing is known about the
name; running fails with an unknown rule only then. The names are in strict order, those of the
descriptions, and as many as have been registered. What is answered about a name does not depend on
the registrations of other names, and no question tells registries from each other in which
registrations of different names follow each other in another order. -/
theorem last_registration_wins {calls : List Registration} {r : Registry} (h : r.FilledBy calls) :
    (∀ name x, Entries.IsLast (registered calls) name x → r.Answers name x) ∧
    (∀ name, name ∈ Entries.keys (registered calls) →
      ∃ x, Entries.IsLast (registered calls) name x) ∧
    (∀ name, name ∉ Entries.keys (registered calls) → r.Ignores name) ∧
    (∀ name v params today unknown,
      r.execute name v params today = .error (.unknown unknown) ↔
        name ∉ Entries.keys (registered calls) ∧ unknown = name) ∧
    (r.names.Pairwise (· < ·) ∧
      r.names = Entries.keys r.listMetadata ∧
      (∀ name, name ∈ r.names ↔ name ∈ Entries.keys (registered calls)) ∧
      r.size = (Entries.keys (registered calls)).toFinset.card ∧
      (r.isEmpty = true ↔ registered calls = [])) ∧
    (∀ calls' r' name, r'.FilledBy calls' →
      (registered calls).filter (·.1 = name) = (registered calls').filter (·.1 = name) →
        r.AlikeAt r' name) ∧
    ∀ calls' r', r'.FilledBy calls' →
      (∀ name, (registered calls).filter (·.1 = name) =
        (registered calls').filter (·.1 = name)) →
      r.Alike r' := by
  have hget {calls : List Registration} {r : Registry} (h : r.FilledBy calls) (name : String) :
      Entries.get? name r.rules = Entries.get? name (Entries.collect (registered calls)) :=
    (Entries.get?_eq_of_perm h.perm.symm (Entries.nodup_keys_collect _) name).symm
  have hnodup {calls : List Registration} {r : Registry} (h : r.FilledBy calls) :
      (Entries.keys r.rules).Nodup :=
    (h.perm.map Prod.fst).nodup_iff.2 (Entries.nodup_keys_collect _)
  have hlast (name : String) (x : Registered)
      (hx : Entries.IsLast (registered calls) name x) : r.Answers name x := by
    refine answers_of_get? (hnodup h) ?_
    rw [hget h, Entries.get?_collect_eq_some_iff]
    exact hx
  have hnone (name : String) (hname : name ∉ Entries.keys (registered calls)) :
      r.Ignores name := by
    refine ignores_of_get? (hnodup h) ?_
    rw [hget h, Entries.get?_collect_eq_none_iff]
    exact hname
  have hmem (name : String) : name ∈ r.names ↔ name ∈ Entries.keys (registered calls) := by
    rw [names, List.mem_mergeSort]
    exact (h.perm.map Prod.fst).mem_iff.trans Entries.mem_keys_collect_iff
  refine ⟨hlast, fun name => Entries.exists_isLast, hnone, ?_,
    ⟨increasing_names (hnodup h), names_eq_keys_listMetadata (hnodup h), hmem, ?_, ?_⟩, ?_, ?_⟩
  · intro name v params today unknown
    constructor
    · intro hunknown
      by_cases hname : name ∈ Entries.keys (registered calls)
      · obtain ⟨x, hx⟩ := Entries.exists_isLast hname
        exact absurd hunknown ((hlast name x hx).execute_ne_unknown v params today unknown)
      · rw [(hnone name hname).unknown v params today] at hunknown
        exact ⟨hname, (Error.unknown.inj (Except.error.inj hunknown)).symm⟩
    · rintro ⟨hname, rfl⟩
      exact (hnone _ hname).unknown v params today
  · rw [size, h.perm.length_eq, Entries.length_collect]
  · rw [isEmpty, List.isEmpty_iff, ← List.length_eq_zero_iff, h.perm.length_eq,
      Entries.length_collect, Finset.card_eq_zero, List.toFinset_eq_empty_iff, Entries.keys,
      List.map_eq_nil_iff]
  · intro calls' r' name h' hfilter
    refine alikeAt_of_get? (hnodup h) (hnodup h') ?_
    rw [hget h, hget h']
    exact Entries.get?_collect_congr hfilter
  · intro calls' r' h' hfilter
    exact alike_of_perm (hnodup h)
      (h.perm.trans ((Entries.collect_perm_of_filter_eq hfilter).trans h'.perm.symm))

/-- Two rules are registered as `flag`, with the built-in ones between them; they may as well come
last, and the registries list the same though they arrange their rules differently. -/
theorem last_registration_wins_replacedFlag :
    let passes : Registration := .rule "flag" (fun _ _ _ => .ok true) { label := "First" }
    let fails : Registration :=
      .rule "flag" (fun _ _ _ => .error (.failed "never")) { label := "Second" }
    let flags := ofCalls [passes, .builtins, fails]
    let flags' := ofCalls [.builtins, passes, fails]
    flags.FilledBy [passes, .builtins, fails] ∧
    (flags.execute "flag" .null [] ⟨2024, 6, 15⟩ =
        .error (.execution "flag" (.failed "never")) ∧
      Entries.get? "flag" flags.listMetadata = some { label := "Second" }) ∧
    flags.execute "flags" .null [] ⟨2024, 6, 15⟩ = .error (.unknown "flags") ∧
    Entries.keys flags.rules ≠ Entries.keys flags'.rules ∧
    flags.names = flags'.names := by
  intro passes fails flags flags'
  have hfilled : flags.FilledBy [passes, .builtins, fails] := filledBy_ofCalls _
  obtain ⟨hlast, -, -, hunknown, -, -, horder⟩ := last_registration_wins hfilled
  have hflag := hlast "flag" ⟨fun _ _ _ => .error (.failed "never"), { label := "Second" }⟩
    ⟨registered [passes, .builtins], [], rfl, List.not_mem_nil⟩
  refine ⟨hfilled, ⟨hflag.fails _ _ _ _ rfl, hflag.metadata⟩,
    (hunknown "flags" _ _ _ _).2 ⟨by decide, rfl⟩, by decide, ?_⟩
  refine (horder _ _ (filledBy_ofCalls _) fun name => ?_).names
  by_cases hname : "flag" = name
  · subst hname
    rfl
  · simp [registered, Registration.bindings, List.filter_cons, passes, fails, hname]

end Registry

end CustomFields.Rule
