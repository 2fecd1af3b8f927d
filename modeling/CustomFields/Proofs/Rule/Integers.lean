import CustomFields.Proofs.Decimal.Integers
import CustomFields.Proofs.Rule.Parameters

/-!
# Comparing integers

Integers are compared after they have been rounded. Up to `2 ^ 53` this is their own order. Above, two
integers may be rounded to one number, and then the rule takes them for equal; but it never takes the
smaller one for the greater one.

## Main definitions

* `Rule.Operator.compares`: whether an operator holds between two integers
* `Rule.Numeric.Asks`: parameters that ask for a comparison with an integer

## Main results

* `Rule.Numeric.order_ofInt`: how two rounded integers compare
* `Rule.Numeric.rule_of_asks`: what the rule answers about two integers
* `Rule.Numeric.rule_compares_integers`: what this has to do with their order
-/

namespace CustomFields.Rule

open Binary64 (ofInt)

namespace Operator

/-- Whether an operator holds between two integers. -/
def compares (op : Operator) (a b : ℤ) : Bool :=
  match op with
  | .greater => decide (a > b)
  | .less => decide (a < b)
  | .greaterEqual => decide (a ≥ b)
  | .lessEqual => decide (a ≤ b)
  | .equal => decide (a = b)
  | .notEqual => decide (a ≠ b)

theorem holds_compare (op : Operator) (a b : ℤ) :
    op.holds (some (compare a b)) = op.compares a b := by
  rcases lt_trichotomy a b with h | rfl | h
  · rw [compare_lt_iff_lt.2 h]
    cases op <;> simp [holds, compares, h, h.le, h.ne, h.not_gt, h.not_ge]
  · rw [compare_eq_iff_eq.2 rfl]
    cases op <;> simp [holds, compares]
  · rw [compare_gt_iff_gt.2 h]
    cases op <;> simp [holds, compares, h, h.le, h.ne', h.not_gt, h.not_ge]

theorem ofJson?_name (op : Operator) : ofJson? (.string op.name) = some op := by
  cases op <;> rfl

end Operator

/-- A rule that is given its two parameters goes on with them. -/
theorem Parameters.Provides.bind_eq {α : Type} {params : Parameters} {first second : String}
    {v w : Json.Value} (h : params.Provides first second v w) {accepted : List String}
    (haccepted : ∀ key, key ∈ accepted ↔ key = first ∨ key = second)
    (goOn : Json.Value → Json.Value → Except Failure α) :
    (do
      params.rejectOthers accepted
      let v ← params.require first
      let w ← params.require second
      goOn v w) = goOn v w := by
  have hnone : (Entries.keys params).find? (· ∉ accepted) = none := by
    refine List.find?_eq_none.2 fun key hkey => ?_
    simpa [haccepted, or_iff_not_imp_left] using h.known key hkey
  simp only [rejectOthers, require, hnone, h.first_eq, h.second_eq]
  rfl

namespace Numeric

/-- Parameters that ask for a comparison with an integer. -/
def Asks (params : Parameters) (op : Operator) (threshold : ℤ) : Prop :=
  params.Provides "threshold" "operator" (.int threshold) (.string op.name)

/-- How two integers compare once they have been rounded. -/
theorem order_ofInt (a b : ℤ) :
    order (ofInt a) (ofInt b) = some (compare (ofInt a).key (ofInt b).key) := by
  have ha := Binary64.isNotANumber_ofInt a
  have hb := Binary64.isNotANumber_ofInt b
  rcases lt_trichotomy (ofInt a).key (ofInt b).key with h | h | h
  · simp [order, Binary64.lt, ha, hb, h, compare_lt_iff_lt.2 h]
  · simp [order, Binary64.lt, Binary64.eq, ha, hb, h]
  · simp [order, Binary64.lt, ha, hb, h, h.not_gt, compare_gt_iff_gt.2 h]

variable {params : Parameters} {op : Operator} {a b : ℤ}

/-- **What the rule answers about two integers** is how they compare once they have been rounded. -/
theorem rule_of_asks (h : Asks params op b) (a : ℤ) (today : Calendar.Date) :
    rule (.int a) params today = .ok (op.compares (ofInt a).key (ofInt b).key) := by
  rw [← op.holds_compare, ← order_ofInt]
  refine (h.bind_eq (by simp) _).trans ?_
  simp only [op.ofJson?_name]
  rfl

/-- Up to `2 ^ 53` rounded integers compare as the integers do. -/
theorem compares_key_ofInt (op : Operator) (ha : a.natAbs ≤ 2 ^ 53) (hb : b.natAbs ≤ 2 ^ 53) :
    op.compares (ofInt a).key (ofInt b).key = op.compares a b := by
  rw [← op.holds_compare, ← op.holds_compare]
  rcases lt_trichotomy a b with h | rfl | h
  · rw [compare_lt_iff_lt.2 h, compare_lt_iff_lt.2 (Binary64.key_ofInt_lt h ha hb)]
  · rw [compare_eq_iff_eq.2 rfl, compare_eq_iff_eq.2 rfl]
  · rw [compare_gt_iff_gt.2 h, compare_gt_iff_gt.2 (Binary64.key_ofInt_lt h hb ha)]

theorem natAbs_lt_of_isInteger (h : (Json.Number.integer a).isInteger = true) :
    a.natAbs < 2 ^ 64 := by
  simp only [Json.Number.isInteger, Bool.and_eq_true, decide_eq_true_eq] at h
  omega

/-- **How the rule compares integers** of the 64-bit ranges. Each is rounded to the nearest number,
and of two that are equally near to the even one. Up to `2 ^ 53` the answer is the one for the
integers themselves, and anywhere else the order is never turned round: a smaller integer is not
greater than a greater one, and a greater one is not less. -/
theorem rule_compares_integers :
    (∀ a : ℤ, (Json.Number.integer a).isInteger = true →
      (ofInt a).negative = decide (a < 0) ∧ (ofInt a).isFinite = true ∧
        Decimal.IsNearest (ofInt a).magnitude a.natAbs) ∧
    (∀ (a b : ℤ) op params today, Asks params op b → a.natAbs ≤ 2 ^ 53 → b.natAbs ≤ 2 ^ 53 →
      rule (.int a) params today = .ok (op.compares a b)) ∧
    ∀ a b : ℤ, (Json.Number.integer a).isInteger = true →
      (Json.Number.integer b).isInteger = true → a < b → ∀ params today,
        (Asks params .greater b → rule (.int a) params today = .ok false) ∧
        (Asks params .lessEqual b → rule (.int a) params today = .ok true) ∧
        (Asks params .less a → rule (.int b) params today = .ok false) ∧
        (Asks params .greaterEqual a → rule (.int b) params today = .ok true) := by
  refine ⟨fun a ha => ⟨rfl, ?_, ?_⟩, fun a b op params today h ha hb => ?_,
    fun a b ha hb hlt params today => ?_⟩
  · exact Binary64.isFinite_ofInt (natAbs_lt_of_isInteger ha)
  · exact .of_contains (Decimal.contains_roundRatio_one (natAbs_lt_of_isInteger ha) _)
  · rw [rule_of_asks h, compares_key_ofInt op ha hb]
  · have hle : (ofInt a).key ≤ (ofInt b).key :=
      Binary64.key_ofInt_le hlt.le (natAbs_lt_of_isInteger ha) (natAbs_lt_of_isInteger hb)
    refine ⟨fun h => ?_, fun h => ?_, fun h => ?_, fun h => ?_⟩
    · exact (rule_of_asks h a today).trans (congrArg Except.ok (decide_eq_false (not_lt.2 hle)))
    · exact (rule_of_asks h a today).trans (congrArg Except.ok (decide_eq_true hle))
    · exact (rule_of_asks h b today).trans (congrArg Except.ok (decide_eq_false (not_lt.2 hle)))
    · exact (rule_of_asks h b today).trans (congrArg Except.ok (decide_eq_true hle))

/-- The parameters of a comparison with an integer. -/
def parametersOf (op : Operator) (threshold : ℤ) : Parameters :=
  [("operator", .string op.name), ("threshold", .int threshold)]

theorem asks_parametersOf (op : Operator) (threshold : ℤ) :
    Asks (parametersOf op threshold) op threshold where
  known := by simp [parametersOf, Entries.keys]
  first_eq := rfl
  second_eq := rfl

/-- Both sides of zero, as far as integers stay apart, and the two greatest integers, which are
rounded to one number: neither is greater than the other, and the rule takes them for equal. -/
theorem rule_compares_integers_greatest :
    (Json.Number.integer 18446744073709551614).isInteger = true ∧
      (Json.Number.integer 18446744073709551615).isInteger = true ∧
      ∀ today,
        rule (.int (-9007199254740992)) (parametersOf .notEqual 9007199254740992) today = .ok true ∧
        rule (.int 18446744073709551614) (parametersOf .greater 18446744073709551615) today =
          .ok false ∧
        rule (.int 18446744073709551615) (parametersOf .less 18446744073709551614) today =
          .ok false ∧
        rule (.int 18446744073709551614) (parametersOf .equal 18446744073709551615) today =
          .ok true := by
  obtain ⟨-, hexact, horder⟩ := rule_compares_integers
  refine ⟨by decide, by decide, fun today => ⟨?_, ?_, ?_, rfl⟩⟩
  · exact hexact _ _ .notEqual _ today (asks_parametersOf _ _) (by decide) (by decide)
  · exact (horder _ _ (by decide) (by decide) (by decide) _ today).1 (asks_parametersOf _ _)
  · exact (horder _ _ (by decide) (by decide) (by decide) _ today).2.2.1 (asks_parametersOf _ _)

end Numeric

end CustomFields.Rule
