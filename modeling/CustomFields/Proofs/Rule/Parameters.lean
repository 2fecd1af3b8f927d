import CustomFields.Proofs.Data.Entries
import CustomFields.Rule.Date
import CustomFields.Rule.Numeric

/-!
# When rules fail

Each of the two built-in rules takes two parameters. Both look first for a parameter that is none
of the two, then for those that are missing, and only then at the value: so far a failure is a
matter of the parameters alone, and it is the same for every value and every date of today.

The comparison of numbers never fails behind that point. The comparison of dates does: its reference
has to be a text. But it asks for the date of the value first, and the answer for a value without
one is no. So a reference that is not a text is told for some values only.

## Main definitions

* `Rule.Parameters.HasFault`: what is wrong with the parameters of a rule that takes two
* `Rule.Parameters.Provides`: the parameters are these two

## Main results

* `Rule.Parameters.cases_of_takesTwo`: a rule that takes two parameters fails or gets them
* `Rule.Numeric.rule_eq_error_iff`, `Rule.Date.rule_eq_error_iff`, `Rule.builtin_fails_iff`: when the
  built-in rules fail, and how
* `Rule.Date.rule_masks_reference`: a value without a date hides a reference that is not a text
-/

namespace CustomFields.Rule

namespace Parameters

/-- What is wrong with the parameters of a rule that takes two: one is none of them, where the first
in the order of keys is told, or else one of them is missing. -/
inductive HasFault (params : Parameters) (first second : String) : Failure → Prop
  | unexpected {name : String} (mem : name ∈ Entries.keys params)
    (other : ¬ (name = first ∨ name = second))
    (least : ∀ key ∈ Entries.keys params, ¬ (key = first ∨ key = second) → name ≤ key) :
    HasFault params first second (.unexpectedParameter name)
  | missing_first (known : ∀ key ∈ Entries.keys params, key = first ∨ key = second)
    (missing : first ∉ Entries.keys params) :
    HasFault params first second (.missingParameter first)
  | missing_second (known : ∀ key ∈ Entries.keys params, key = first ∨ key = second)
    (present : first ∈ Entries.keys params) (missing : second ∉ Entries.keys params) :
    HasFault params first second (.missingParameter second)

/-- The parameters are the two that a rule takes. -/
structure Provides (params : Parameters) (first second : String) (a b : Json.Value) : Prop where
  known : ∀ key ∈ Entries.keys params, key = first ∨ key = second
  first_eq : Entries.get? first params = some a
  second_eq : Entries.get? second params = some b

variable {params : Parameters} {first second : String}

theorem mem_keys_of_get? {name : String} {v : Json.Value} (h : Entries.get? name params = some v) :
    name ∈ Entries.keys params :=
  Entries.mem_keys_of_mem (Entries.mem_of_get?_eq_some h)

/-- Parameters have one fault at most. -/
theorem HasFault.unique {e e' : Failure} (h : params.HasFault first second e)
    (h' : params.HasFault first second e') : e = e' := by
  cases h with
  | unexpected mem other least =>
    cases h' with
    | unexpected mem' other' least' =>
      rw [Std.le_antisymm (least _ mem' other') (least' _ mem other)]
    | missing_first known => exact absurd (known _ mem) other
    | missing_second known => exact absurd (known _ mem) other
  | missing_first known missing =>
    cases h' with
    | unexpected mem other => exact absurd (known _ mem) other
    | missing_first => rfl
    | missing_second _ present => exact absurd present missing
  | missing_second known present =>
    cases h' with
    | unexpected mem other => exact absurd (known _ mem) other
    | missing_first _ missing => exact absurd present missing
    | missing_second => rfl

theorem Provides.not_hasFault {a b : Json.Value} (h : params.Provides first second a b)
    (e : Failure) : ¬ params.HasFault first second e := by
  rintro (⟨mem, other, -⟩ | ⟨-, missing⟩ | ⟨-, -, missing⟩)
  · exact other (h.known _ mem)
  · exact missing (mem_keys_of_get? h.first_eq)
  · exact missing (mem_keys_of_get? h.second_eq)

theorem Provides.unique {a b a' b' : Json.Value} (h : params.Provides first second a b)
    (h' : params.Provides first second a' b') : a = a' ∧ b = b' :=
  ⟨Option.some.inj (h.first_eq.symm.trans h'.first_eq),
    Option.some.inj (h.second_eq.symm.trans h'.second_eq)⟩

/-- Of the keys that are not accepted the first one is told, which is the least. -/
theorem rejectOthers_cases (accepted : List String)
    (sorted : (Entries.keys params).Pairwise (· < ·)) :
    (∃ name ∈ Entries.keys params, name ∉ accepted ∧
      (∀ key ∈ Entries.keys params, key ∉ accepted → name ≤ key) ∧
      params.rejectOthers accepted = .error (.unexpectedParameter name)) ∨
    (∀ key ∈ Entries.keys params, key ∈ accepted) ∧ params.rejectOthers accepted = .ok () := by
  unfold rejectOthers
  cases hfind : (Entries.keys params).find? (· ∉ accepted) with
  | some name =>
    obtain ⟨hother, before, behind, hkeys, hbefore⟩ := List.find?_eq_some_iff_append.1 hfind
    rw [hkeys] at sorted ⊢
    refine .inl ⟨name, by simp, by simpa using hother, fun key hkey hnot => ?_, rfl⟩
    rcases List.mem_append.1 hkey with hkey | hkey
    · exact absurd (hbefore key hkey) (by simpa using hnot)
    · rcases List.mem_cons.1 hkey with rfl | hkey
      · exact Std.le_refl key
      -- what stands behind the first one is greater
      · have hbehind := (List.pairwise_append.1 sorted).2.1
        exact Std.le_of_lt ((List.pairwise_cons.1 hbehind).1 key hkey)
  | none =>
    refine .inr ⟨fun key hkey => ?_, rfl⟩
    simpa using List.find?_eq_none.1 hfind key hkey

theorem require_cases (params : Parameters) (name : String) :
    name ∉ Entries.keys params ∧ params.require name = .error (.missingParameter name) ∨
      ∃ v, Entries.get? name params = some v ∧ params.require name = .ok v := by
  unfold require
  cases hget : Entries.get? name params with
  | none => exact .inl ⟨Entries.get?_eq_none_iff.1 hget, rfl⟩
  | some v => exact .inr ⟨v, rfl, rfl⟩

/-- **A rule that takes two parameters** fails with what is wrong with them, or goes on with
them. -/
theorem cases_of_takesTwo {α : Type} {accepted : List String} {r : Except Failure α}
    (sorted : (Entries.keys params).Pairwise (· < ·))
    (haccepted : ∀ key, key ∈ accepted ↔ key = first ∨ key = second)
    (goOn : Json.Value → Json.Value → Except Failure α)
    (hr : r = do
      params.rejectOthers accepted
      let a ← params.require first
      let b ← params.require second
      goOn a b) :
    (∃ e, params.HasFault first second e ∧ r = .error e) ∨
      ∃ a b, params.Provides first second a b ∧ r = goOn a b := by
  subst hr
  -- the parameters are looked at one after the other, until something is wrong
  rcases rejectOthers_cases accepted sorted with
    ⟨name, hmem, hother, hleast, h⟩ | ⟨hknown, h⟩
  · rw [h]
    simp only [haccepted] at hother hleast
    exact .inl ⟨_, .unexpected hmem hother hleast, rfl⟩
  simp only [haccepted] at hknown
  rcases require_cases params first with ⟨hmissing, h₁⟩ | ⟨a, ha, h₁⟩
  · rw [h, h₁]
    exact .inl ⟨_, .missing_first hknown hmissing, rfl⟩
  rcases require_cases params second with ⟨hmissing, h₂⟩ | ⟨b, hb, h₂⟩
  · rw [h, h₁, h₂]
    exact .inl ⟨_, .missing_second hknown (mem_keys_of_get? ha) hmissing, rfl⟩
  · rw [h, h₁, h₂]
    exact .inr ⟨a, b, ⟨hknown, ha, hb⟩, rfl⟩

end Parameters

/-! ## The built-in rules -/

variable {params : Parameters}

/-- The comparison of numbers fails only where its parameters are wrong. -/
theorem Numeric.rule_cases (sorted : (Entries.keys params).Pairwise (· < ·)) (value : Json.Value)
    (today : Calendar.Date) :
    (∃ e, params.HasFault "threshold" "operator" e ∧ Numeric.rule value params today = .error e) ∨
      (∃ a b, params.Provides "threshold" "operator" a b) ∧
        ∃ holds, Numeric.rule value params today = .ok holds := by
  rcases Parameters.cases_of_takesTwo (r := Numeric.rule value params today) sorted (by simp) _ rfl
    with hfault | ⟨a, b, hprovides, heq⟩
  · exact .inl hfault
  · refine .inr ⟨⟨a, b, hprovides⟩, ?_⟩
    rw [heq]
    repeat' split
    all_goals exact ⟨_, rfl⟩

/-- The comparison of dates looks at its reference only where the value has a date. -/
theorem Date.rule_cases (sorted : (Entries.keys params).Pairwise (· < ·)) (value : Json.Value)
    (today : Calendar.Date) :
    (∃ e, params.HasFault "reference_date" "operator" e ∧
      Date.rule value params today = .error e) ∨
    ∃ reference operator, params.Provides "reference_date" "operator" reference operator ∧
      if (Date.reading? value).isSome ∧ reference.string? = none then
        Date.rule value params today =
          .error (.invalidParameter "reference_date" "expected a string")
      else ∃ holds, Date.rule value params today = .ok holds := by
  rcases Parameters.cases_of_takesTwo (r := Date.rule value params today) sorted (by simp [or_comm])
    _ rfl with hfault | ⟨reference, operator, hprovides, heq⟩
  · exact .inl hfault
  · refine .inr ⟨reference, operator, hprovides, ?_⟩
    rw [heq]
    cases Date.reading? value with
    | none => exact ⟨false, rfl⟩
    | some date =>
      cases reference with
      | string text =>
        rw [if_neg (by simp [Json.Value.string?])]
        dsimp only
        -- the reference may have no date, and the operator may be none
        generalize (if text ∈ relativeReferences then some today
          else Calendar.parseIsoDate? text) = reference?
        cases reference? with
        | none => exact ⟨false, rfl⟩
        | some reference =>
          cases Operator.ofJson? operator with
          | none => exact ⟨false, rfl⟩
          | some op => exact ⟨_, rfl⟩
      | _ => rfl

theorem Numeric.rule_eq_error_iff (sorted : (Entries.keys params).Pairwise (· < ·))
    (value : Json.Value) (today : Calendar.Date) (e : Failure) :
    Numeric.rule value params today = .error e ↔ params.HasFault "threshold" "operator" e := by
  rcases Numeric.rule_cases sorted value today with
    ⟨e', hfault, heq⟩ | ⟨⟨a, b, hprovides⟩, holds, heq⟩
  · rw [heq]
    constructor
    · rintro ⟨⟩
      exact hfault
    · intro h
      rw [hfault.unique h]
  · rw [heq]
    exact iff_of_false (by rintro ⟨⟩) (hprovides.not_hasFault e)

/-- What is wrong with the two parameters comes first, and a reference that is not a text is told
for values with a date. -/
theorem Date.rule_eq_error_iff (sorted : (Entries.keys params).Pairwise (· < ·))
    (value : Json.Value) (today : Calendar.Date) (e : Failure) :
    Date.rule value params today = .error e ↔
      params.HasFault "reference_date" "operator" e ∨
        e = .invalidParameter "reference_date" "expected a string" ∧
          (Date.reading? value).isSome ∧
          ∃ reference operator, params.Provides "reference_date" "operator" reference operator ∧
            reference.string? = none := by
  rcases Date.rule_cases sorted value today with
    ⟨e', hfault, heq⟩ | ⟨reference, operator, hprovides, heq⟩
  · rw [heq]
    constructor
    · rintro ⟨⟩
      exact .inl hfault
    · rintro (h | ⟨-, -, reference, operator, hprovides, -⟩)
      · rw [hfault.unique h]
      · exact absurd hfault (hprovides.not_hasFault e')
  · split at heq
    · rename_i htold
      rw [heq]
      constructor
      · rintro ⟨⟩
        exact .inr ⟨rfl, htold.1, reference, operator, hprovides, htold.2⟩
      · rintro (h | ⟨rfl, -⟩)
        · exact absurd h (hprovides.not_hasFault e)
        · rfl
    · rename_i htold
      obtain ⟨holds, heq⟩ := heq
      rw [heq]
      refine iff_of_false (by rintro ⟨⟩) ?_
      rintro (h | ⟨-, hdate, reference', operator', hprovides', htext⟩)
      · exact hprovides.not_hasFault e h
      -- the parameters are no others, and their reference is a text
      · obtain ⟨rfl, -⟩ := hprovides.unique hprovides'
        exact htold ⟨hdate, htext⟩

/-- **When the built-in rules fail.** What is wrong with the two parameters is told for every value;
that the reference of a date is not a text is told for values that have a date. -/
theorem builtin_fails_iff (sorted : (Entries.keys params).Pairwise (· < ·)) :
    (∀ value today e, Numeric.rule value params today = .error e ↔
      params.HasFault "threshold" "operator" e) ∧
    ∀ value today e, Date.rule value params today = .error e ↔
      params.HasFault "reference_date" "operator" e ∨
        e = .invalidParameter "reference_date" "expected a string" ∧
          (Date.reading? value).isSome ∧
          ∃ reference operator, params.Provides "reference_date" "operator" reference operator ∧
            reference.string? = none :=
  ⟨Numeric.rule_eq_error_iff sorted, Date.rule_eq_error_iff sorted⟩

/-- Parameters for a comparison of dates, with a number where the reference should be. -/
def Date.numericReference : Parameters :=
  [("operator", .string "gt"), ("reference_date", .int 20240131)]

theorem Date.provides_numericReference : numericReference.Provides "reference_date" "operator"
    (.int 20240131) (.string "gt") where
  known := by decide
  first_eq := rfl
  second_eq := rfl

/-- The reference is a parameter too many for numbers, and none for dates. -/
theorem builtin_fails_iff_numericReference :
    (Entries.keys Date.numericReference).Pairwise (· < ·) ∧
      (∀ value today, Numeric.rule value Date.numericReference today =
        .error (.unexpectedParameter "reference_date")) ∧
      (∀ today, Date.rule (.string "2024-01-31") Date.numericReference today =
        .error (.invalidParameter "reference_date" "expected a string")) ∧
      ∀ today e, Date.rule (.string "soon") Date.numericReference today ≠ .error e := by
  have sorted : (Entries.keys Date.numericReference).Pairwise (· < ·) := by decide
  obtain ⟨hnumeric, hdate⟩ := builtin_fails_iff sorted
  refine ⟨sorted, fun value today => ?_, fun today => ?_, fun today e h => ?_⟩
  · exact (hnumeric value today _).2 (.unexpected (by decide) (by decide) (by decide))
  · exact (hdate _ today _).2
      (.inr ⟨rfl, by decide, _, _, Date.provides_numericReference, rfl⟩)
  · rcases (hdate _ today e).1 h with hfault | ⟨-, hreading, -⟩
    · exact Date.provides_numericReference.not_hasFault e hfault
    · exact absurd hreading (by decide)

/-- **A value without a date hides a reference that is not a text.** -/
theorem Date.rule_masks_reference :
    Date.rule (.string "2024-01-31") numericReference ⟨2024, 6, 15⟩ =
        .error (.invalidParameter "reference_date" "expected a string") ∧
      Date.rule (.string "soon") numericReference ⟨2024, 6, 15⟩ = .ok false :=
  ⟨rfl, rfl⟩

end CustomFields.Rule
