import Mathlib.Data.Nat.Bitwise
import Mathlib.Logic.Function.Iterate
import CustomFields.Pattern.Matcher

/-!
# What a pattern matches

The matcher moves whole sets of positions through a pattern, and it stops a repetition as soon as
another round brings nothing new. What it computes is said here without any of this: a node spans
the part of a text between two positions, by recursion on the node, and a text contains a match if
some part of it is spanned.

The number of rounds of a repetition is what the two differ in. The matcher never goes more rounds
than a text has positions, and a repetition spans by any number of rounds that its counts allow.
Rounds that span nothing can be left out of a chain of rounds, and every other goes at least one
position on, so the rounds of the matcher are enough.

## Main definitions

* `Steps`: chains of a given number of steps
* `Pattern.Node.Spans`: a node matches between two positions
* `Pattern.Occurs`: a text contains a match
* `Pattern.Carries`: a function on sets of positions goes where a relation goes

## Main results

* `Pattern.Node.carries_ends`: the matcher goes from the starts of spans to their ends
* `Pattern.isMatch_iff_occurs`: a text is accepted exactly if it contains a match
-/

namespace CustomFields

/-! ## Chains of steps -/

/-- The second position is reached from the first by a number of steps. -/
def Steps (R : ℕ → ℕ → Prop) : ℕ → ℕ → ℕ → Prop
  | 0, i, j => i = j
  | n + 1, i, j => ∃ k, R i k ∧ Steps R n k j

namespace Steps

variable {R : ℕ → ℕ → Prop} {m n i j k : ℕ}

theorem append (hm : Steps R m i k) (hn : Steps R n k j) : Steps R (m + n) i j := by
  induction m generalizing i with
  | zero =>
    cases hm
    rwa [Nat.zero_add]
  | succ m ih =>
    obtain ⟨l, hl, hm⟩ := hm
    rw [Nat.succ_add]
    exact ⟨l, hl, ih hm⟩

theorem add_iff : Steps R (m + n) i j ↔ ∃ k, Steps R m i k ∧ Steps R n k j := by
  constructor
  · intro h
    induction m generalizing i with
    | zero =>
      rw [Nat.zero_add] at h
      exact ⟨i, rfl, h⟩
    | succ m ih =>
      rw [Nat.succ_add] at h
      obtain ⟨l, hl, h⟩ := h
      obtain ⟨k, hm, hn⟩ := ih h
      exact ⟨k, ⟨l, hl, hm⟩, hn⟩
  · rintro ⟨k, hm, hn⟩
    exact hm.append hn

/-- At most `n` steps are `n` steps of which each may be left out. -/
theorem or_eq_iff :
    Steps (fun i j => i = j ∨ R i j) n i j ↔ ∃ m ≤ n, Steps R m i j := by
  induction n generalizing i with
  | zero =>
    constructor
    · intro h
      exact ⟨0, le_rfl, h⟩
    · rintro ⟨m, hm, h⟩
      cases Nat.le_zero.1 hm
      exact h
  | succ n ih =>
    constructor
    · rintro ⟨k, rfl | hk, h⟩ <;> obtain ⟨m, hm, h⟩ := ih.1 h
      · exact ⟨m, Nat.le_succ_of_le hm, h⟩
      · exact ⟨m + 1, Nat.succ_le_succ hm, k, hk, h⟩
    · rintro ⟨m, hm, h⟩
      cases m with
      | zero => exact ⟨i, Or.inl rfl, ih.2 ⟨0, Nat.zero_le n, h⟩⟩
      | succ m =>
        obtain ⟨k, hk, h⟩ := h
        exact ⟨k, Or.inr hk, ih.2 ⟨m, Nat.le_of_succ_le_succ hm, h⟩⟩

theorem le (hR : ∀ i j, R i j → i ≤ j) (h : Steps R n i j) : i ≤ j := by
  induction n generalizing i with
  | zero => exact h.le
  | succ n ih =>
    obtain ⟨k, hk, h⟩ := h
    exact (hR i k hk).trans (ih h)

/-- Where no step goes back, the steps that stay can be left out, and then there are no more of
them than positions are passed. -/
theorem exists_le_sub (hR : ∀ i j, R i j → i ≤ j) (h : Steps R n i j) :
    ∃ m ≤ n, m ≤ j - i ∧ Steps R m i j := by
  induction n generalizing i with
  | zero => exact ⟨0, le_rfl, Nat.zero_le _, h⟩
  | succ n ih =>
    obtain ⟨k, hk, h⟩ := h
    obtain ⟨m, hmn, hm, hs⟩ := ih h
    have hik : i ≤ k := hR i k hk
    have hkj : k ≤ j := h.le hR
    rcases hik.eq_or_lt with rfl | hlt
    · exact ⟨m, Nat.le_succ_of_le hmn, hm, hs⟩
    · exact ⟨m + 1, Nat.succ_le_succ hmn, by omega, k, hk, hs⟩

end Steps

namespace Pattern

/-! ## Spans -/

/-- The character in front of a position. -/
def charBefore (cs : List Char) : ℕ → Option Char
  | 0 => none
  | i + 1 => cs[i]?

/-- A node matches the characters of a text from one position up to another. -/
def Node.Spans (cs : List Char) : Node Leaf → ℕ → ℕ → Prop
  | .empty => fun i j => i = j
  | .leaf (.oneOf set) => fun i j => j = i + 1 ∧ ∃ c, cs[i]? = some c ∧ set.contains c
  | .leaf (.anchor a) => fun i j => j = i ∧ i ≤ cs.length ∧ a.holds (charBefore cs i) cs[i]?
  | .sequence p q => fun i j => ∃ k, p.Spans cs i k ∧ q.Spans cs k j
  | .either p q => fun i j => p.Spans cs i j ∨ q.Spans cs i j
  | .repetition p least most => fun i j =>
    ∃ n, least ≤ n ∧ (∀ m ∈ most, n ≤ max least m) ∧ Steps (p.Spans cs) n i j

/-- A text contains a match of a pattern. -/
def Occurs (p : Pattern) (text : String) : Prop :=
  ∃ i j, i ≤ text.toList.length ∧ p.node.Spans text.toList i j

variable {cs : List Char}

theorem Node.Spans.le {p : Node Leaf} {i j : ℕ} (h : p.Spans cs i j) : i ≤ j := by
  induction p generalizing i j with
  | empty => exact Nat.le_of_eq h
  | leaf l =>
    cases l with
    | oneOf set => exact h.1 ▸ Nat.le_succ i
    | anchor a => exact h.1.ge
  | sequence p q ihp ihq =>
    obtain ⟨k, hp, hq⟩ := h
    exact (ihp hp).trans (ihq hq)
  | either p q ihp ihq => exact h.elim ihp ihq
  | repetition p least most ih =>
    obtain ⟨n, -, -, h⟩ := h
    exact h.le fun _ _ => ih

/-- A span that is not empty ends inside the text. -/
theorem Node.Spans.end_le {p : Node Leaf} {i j : ℕ} (h : p.Spans cs i j) (hlt : i < j) :
    j ≤ cs.length := by
  induction p generalizing i j with
  | empty => exact absurd h hlt.ne
  | leaf l =>
    cases l with
    | oneOf set =>
      obtain ⟨rfl, c, hc, -⟩ := h
      exact (List.getElem?_eq_some_iff.1 hc).1
    | anchor a => exact absurd h.1 hlt.ne'
  | sequence p q ihp ihq =>
    obtain ⟨k, hp, hq⟩ := h
    rcases hq.le.eq_or_lt with rfl | hkj
    · exact ihp hp hlt
    · exact ihq hq hkj
  | either p q ihp ihq => exact h.elim (ihp · hlt) (ihq · hlt)
  | repetition p least most ih =>
    obtain ⟨n, -, -, h⟩ := h
    induction n generalizing i with
    | zero => exact absurd h hlt.ne
    | succ n ihn =>
      obtain ⟨k, hk, h⟩ := h
      rcases (h.le fun _ _ => Node.Spans.le).eq_or_lt with rfl | hkj
      · exact ih hk hlt
      · exact ihn hkj h

/-- Rounds can be left out of a chain of spans until there are no more than positions. -/
theorem Node.Spans.exists_steps_le {p : Node Leaf} {n i j : ℕ} (h : Steps (p.Spans cs) n i j) :
    ∃ m ≤ n, m ≤ cs.length + 1 ∧ Steps (p.Spans cs) m i j := by
  obtain ⟨m, hmn, hm, hs⟩ := h.exists_le_sub fun _ _ => Node.Spans.le
  refine ⟨m, hmn, ?_, hs⟩
  rcases (h.le fun _ _ => Node.Spans.le).eq_or_lt with rfl | hlt
  · omega
  · have : (Node.repetition p 0 none).Spans cs i j := ⟨n, Nat.zero_le n, by simp, h⟩
    have := this.end_le hlt
    omega

/-! ## Sets of positions -/

/-- A function on sets of positions goes from each position of a set to those that a relation
allows, and to no others. -/
def Carries (f : ℕ → ℕ) (R : ℕ → ℕ → Prop) : Prop :=
  ∀ s j, (f s).testBit j ↔ ∃ i, s.testBit i ∧ R i j

namespace Carries

variable {f g : ℕ → ℕ} {R S : ℕ → ℕ → Prop}

theorem id : Carries (fun s => s) (· = ·) := by
  intro s j
  simp

theorem comp (hf : Carries f R) (hg : Carries g S) :
    Carries (fun s => g (f s)) fun i j => ∃ k, R i k ∧ S k j := by
  intro s j
  rw [hg]
  constructor
  · rintro ⟨k, hk, hkj⟩
    obtain ⟨i, hi, hik⟩ := (hf s k).1 hk
    exact ⟨i, hi, k, hik, hkj⟩
  · rintro ⟨i, hi, k, hik, hkj⟩
    exact ⟨k, (hf s k).2 ⟨i, hi, hik⟩, hkj⟩

theorem or (hf : Carries f R) (hg : Carries g S) :
    Carries (fun s => f s ||| g s) fun i j => R i j ∨ S i j := by
  intro s j
  rw [Nat.testBit_or, Bool.or_eq_true, hf, hg]
  simp only [← exists_or, ← and_or_left]

theorem congr (hf : Carries f R) (h : ∀ i j, R i j ↔ S i j) : Carries f S := by
  intro s j
  simp only [hf s j, h]

theorem iterates (hf : Carries f R) (n : ℕ) : Carries f^[n] (Steps R n) := by
  induction n with
  | zero => exact id
  | succ n ih => exact hf.comp ih

end Carries

theorem iterate_eq (f : ℕ → ℕ) (n s : ℕ) : iterate f n s = f^[n] s := by
  induction n generalizing s with
  | zero => rfl
  | succ n ih =>
    simp only [iterate, Function.iterate_succ_apply]
    split_ifs with h
    · rw [h, Function.iterate_fixed h]
    · exact ih (f s)

theorem accumulate_eq (f : ℕ → ℕ) (n s : ℕ) : accumulate f n s = (fun s => s ||| f s)^[n] s := by
  induction n generalizing s with
  | zero => rfl
  | succ n ih =>
    simp only [accumulate, Function.iterate_succ_apply]
    split_ifs with h
    · rw [h, Function.iterate_fixed h]
    · exact ih (s ||| f s)

namespace Carries

variable {f : ℕ → ℕ} {R : ℕ → ℕ → Prop}

theorem iterate (hf : Carries f R) (n : ℕ) : Carries (iterate f n) (Steps R n) := by
  rw [funext (iterate_eq f n)]
  exact hf.iterates n

theorem accumulate (hf : Carries f R) (n : ℕ) :
    Carries (accumulate f n) fun i j => ∃ m ≤ n, Steps R m i j := by
  rw [funext (accumulate_eq f n)]
  exact ((id.or hf).iterates n).congr fun _ _ => Steps.or_eq_iff

end Carries

/-! ## The leaves -/

theorem testBit_maskOf (bs : List Bool) (i : ℕ) :
    (maskOf bs).testBit i ↔ bs[i]? = some true := by
  induction bs generalizing i with
  | nil => simp [maskOf]
  | cons b bs ih =>
    rw [maskOf, ← Nat.bit_val]
    cases i with
    | zero => simp
    | succ i => rw [Nat.testBit_bit_succ, ih, List.getElem?_cons_succ]

theorem getElem?_surroundings {cs : List Char} {i : ℕ} {x : Option Char × Option Char} :
    (surroundings cs)[i]? = some x ↔ i ≤ cs.length ∧ x = (charBefore cs i, cs[i]?) := by
  have hbefore : i ≤ cs.length → (none :: cs.map some)[i]? = some (charBefore cs i) := by
    intro hi
    cases i with
    | zero => rfl
    | succ i => simp [charBefore, List.getElem?_eq_getElem (Nat.lt_of_succ_le hi)]
  have hafter : i ≤ cs.length → (cs.map some ++ [none])[i]? = some cs[i]? := by
    intro hi
    rcases hi.eq_or_lt with rfl | hi
    · simp
    · simp [List.getElem?_append, hi]
  rw [surroundings, List.getElem?_zip_eq_some]
  constructor
  · rintro ⟨hb, ha⟩
    have hi : i ≤ cs.length := by
      simpa [Nat.lt_succ_iff] using (List.getElem?_eq_some_iff.1 hb).1
    rw [hbefore hi] at hb
    rw [hafter hi] at ha
    exact ⟨hi, Prod.ext (Option.some.inj hb).symm (Option.some.inj ha).symm⟩
  · rintro ⟨hi, rfl⟩
    exact ⟨hbefore hi, hafter hi⟩

theorem Leaf.carries_move (cs : List Char) (l : Leaf) :
    Carries (l.move cs).apply ((Node.leaf l).Spans cs) := by
  intro s j
  cases l with
  | oneOf set =>
    simp only [Leaf.move, Move.apply, if_true, Nat.testBit_shiftLeft, Nat.testBit_and]
    cases j with
    | zero => simp [Node.Spans]
    | succ i => simp [Node.Spans, testBit_maskOf]
  | anchor a =>
    simp [Leaf.move, Move.apply, Node.Spans, testBit_maskOf, getElem?_surroundings]

/-! ## The nodes -/

/-- The matcher goes from where spans of a node start to where they end. -/
theorem Node.carries_ends (cs : List Char) (p : Node Leaf) :
    Carries ((p.map (Leaf.move cs)).ends (cs.length + 1)) (p.Spans cs) := by
  induction p with
  | empty => exact Carries.id
  | leaf l => exact l.carries_move cs
  | sequence p q ihp ihq => exact ihp.comp ihq
  | either p q ihp ihq => exact ihp.or ihq
  | repetition p least most ih =>
    have rounds (n : ℕ) := (ih.iterate least).comp (ih.accumulate n)
    cases most with
    | none =>
      refine (rounds (cs.length + 1)).congr fun i j => ?_
      constructor
      · rintro ⟨k, hk, m, -, hm⟩
        exact ⟨least + m, Nat.le_add_right _ _, by simp, hk.append hm⟩
      · rintro ⟨n, hn, -, h⟩
        obtain ⟨m, rfl⟩ := Nat.exists_eq_add_of_le hn
        obtain ⟨k, hk, h⟩ := Steps.add_iff.1 h
        obtain ⟨m', -, hm', h⟩ := Node.Spans.exists_steps_le h
        exact ⟨k, hk, m', hm', h⟩
    | some most =>
      refine (rounds (min (most - least) (cs.length + 1))).congr fun i j => ?_
      constructor
      · rintro ⟨k, hk, m, hm, h⟩
        refine ⟨least + m, Nat.le_add_right _ _, ?_, hk.append h⟩
        rintro most ⟨⟩
        omega
      · rintro ⟨n, hn, hmost, h⟩
        obtain ⟨m, rfl⟩ := Nat.exists_eq_add_of_le hn
        have := hmost most rfl
        obtain ⟨k, hk, h⟩ := Steps.add_iff.1 h
        obtain ⟨m', hm'm, hm', h⟩ := Node.Spans.exists_steps_le h
        exact ⟨k, hk, m', by omega, h⟩

/-- A pattern accepts exactly the texts that contain a match. -/
theorem isMatch_iff_occurs {p : Pattern} {text : String} :
    p.isMatch text = true ↔ p.Occurs text := by
  have hall (i : ℕ) : (2 ^ (text.toList.length + 1) - 1).testBit i ↔ i ≤ text.toList.length := by
    rw [Nat.testBit_two_pow_sub_one, decide_eq_true_iff, Nat.lt_succ_iff]
  have hends := p.node.carries_ends text.toList (2 ^ (text.toList.length + 1) - 1)
  rw [isMatch, bne_iff_ne]
  constructor
  · intro h
    obtain ⟨j, hj⟩ := not_forall.1 (mt Nat.zero_of_testBit_eq_false h)
    obtain ⟨i, hi, hij⟩ := (hends j).1 (Bool.not_eq_false _ ▸ hj)
    exact ⟨i, j, (hall i).1 hi, hij⟩
  · rintro ⟨i, j, hi, hij⟩ h
    have hj := (hends j).2 ⟨i, (hall i).2 hi, hij⟩
    rw [h, Nat.zero_testBit] at hj
    cases hj

end Pattern

end CustomFields
