import Mathlib.Data.List.DropRight
import Mathlib.Logic.Relation
import CustomFields.Proofs.Calendar.Timestamp
import CustomFields.Proofs.Text.Utf8
import CustomFields.Rule.Numeric

/-!
# Digit groups

A text is read as a number after its blank ends and the underscores between its digits have been
dropped. The check that each underscore stands between two digits looks at the text from the front;
this module says what it accepts, on characters and on bytes, and that the underscores it accepts have
no part in the number.

One underscore more between two digits is a step, and a text is grouped by any number of steps. A step
leaves the reading as it is, so grouping does; and a text that passes the check is grouped from the
text without underscores.

## Main definitions

* `Separates`, `Groups`: one underscore more between two digits, and any number of them
* `Misplaced`: an underscore that stands elsewhere

## Main results

* `separatesDigits_iff`, `separatesDigits_iff_bytes`: what the check says about characters and about
  bytes
* `ofText?_of_separates`, `ofText?_of_groups`: what one step and what all steps do to the reading
* `groups_of_separatesDigits`: a text that passes the check is grouped from the rest of it
* `reading_of_digitGroups`: where underscores may stand, and what they change
-/

namespace CustomFields.Rule.Numeric

open Calendar.Timestamp (isBlank_of_isDigit)

/-- The neighbours of an underscore are digits. -/
def BetweenDigits (before behind : List Char) : Prop :=
  before.getLast?.any Char.isDigit = true ∧ behind.head?.any Char.isDigit = true

/-- One underscore more, between two digits that stood side by side. -/
inductive Separates : List Char → List Char → Prop
  | insert (before behind : List Char) {a b : Char} (ha : a.isDigit = true)
    (hb : b.isDigit = true) :
    Separates (before ++ a :: b :: behind) (before ++ a :: '_' :: b :: behind)

/-- Any number of underscores more, one after the other. No two of them stand side by side, since an
underscore is no digit. -/
def Groups : List Char → List Char → Prop :=
  Relation.ReflTransGen Separates

/-- A text without its underscores. -/
def withoutUnderscores (s : String) : String :=
  String.ofList (s.toList.filter (· != '_'))

/-! ## The check -/

theorem ne_underscore_of_isDigit {c : Char} (h : c.isDigit = true) : c ≠ '_' := by
  rintro rfl
  exact Bool.false_ne_true h

theorem separatesDigits_underscore (digitBefore : Bool) (cs : List Char) :
    separatesDigits digitBefore ('_' :: cs) =
      (digitBefore && cs.head?.any Char.isDigit && separatesDigits false cs) := by
  rw [separatesDigits, if_pos rfl]

theorem separatesDigits_cons {c : Char} (hc : c ≠ '_') (digitBefore : Bool) (cs : List Char) :
    separatesDigits digitBefore (c :: cs) = separatesDigits c.isDigit cs := by
  rw [separatesDigits, if_neg hc]

/-- **What the check says**: each underscore has a digit on both sides. In front of the text a digit
may have stood. -/
theorem separatesDigits_iff {digitBefore : Bool} {cs : List Char} :
    separatesDigits digitBefore cs = true ↔ ∀ before behind, cs = before ++ '_' :: behind →
      before.getLast?.elim digitBefore Char.isDigit = true ∧
        behind.head?.any Char.isDigit = true := by
  induction cs generalizing digitBefore with
  | nil => simp [separatesDigits]
  | cons c cs ih =>
    -- behind the first character the check goes on with whether this is a digit
    have hrest : (∀ before behind, cs = before ++ '_' :: behind →
          (c :: before).getLast?.elim digitBefore Char.isDigit = true ∧
            behind.head?.any Char.isDigit = true) ↔ separatesDigits c.isDigit cs = true := by
      have hlast (before : List Char) : (c :: before).getLast?.elim digitBefore Char.isDigit =
          before.getLast?.elim c.isDigit Char.isDigit := by
        rw [List.getLast?_cons]
        cases before.getLast? <;> rfl
      simp only [hlast, ih]
    have hsplit : (∀ before behind, c :: cs = before ++ '_' :: behind →
          before.getLast?.elim digitBefore Char.isDigit = true ∧
            behind.head?.any Char.isDigit = true) ↔
        (c = '_' → digitBefore = true ∧ cs.head?.any Char.isDigit = true) ∧
          separatesDigits c.isDigit cs = true := by
      rw [← hrest]
      constructor
      · intro h
        refine ⟨?_, fun before behind hcs => h (c :: before) behind (congrArg (c :: ·) hcs)⟩
        rintro rfl
        exact h [] cs rfl
      · rintro ⟨hfirst, hbehind⟩ before behind hcs
        rcases List.cons_eq_append_iff.1 hcs with ⟨rfl, hcons⟩ | ⟨before, rfl, hcons⟩
        · obtain ⟨rfl, rfl⟩ := List.cons.inj hcons
          exact hfirst rfl
        · exact hbehind before behind hcons
    rw [hsplit]
    by_cases hc : c = '_'
    · subst hc
      have hdigit : '_'.isDigit = false := rfl
      simp [separatesDigits_underscore, hdigit, and_assoc]
    · simp [separatesDigits_cons hc, hc]

/-- The check of a text that nothing stands in front of. -/
theorem separatesDigits_false_iff {cs : List Char} :
    separatesDigits false cs = true ↔
      ∀ before behind, cs = before ++ '_' :: behind → BetweenDigits before behind := by
  have helim (o : Option Char) : o.elim false Char.isDigit = o.any Char.isDigit := by
    cases o <;> rfl
  simp only [separatesDigits_iff, helim, BetweenDigits]

/-! ### Blank ends -/

theorem isDigit_of_isBlank {c : Char} (h : Text.isBlank c = true) : c.isDigit = false := by
  by_contra hdigit
  exact Bool.false_ne_true ((isBlank_of_isDigit (eq_true_of_ne_false hdigit)).symm.trans h)

theorem ne_underscore_of_isBlank {c : Char} (h : Text.isBlank c = true) : c ≠ '_' := by
  rintro rfl
  exact absurd h (by decide)

theorem separatesDigits_trimStart (cs : List Char) :
    separatesDigits false (Text.trimStart cs) = separatesDigits false cs := by
  induction cs with
  | nil => rfl
  | cons c cs ih =>
    rw [Text.trimStart, List.dropWhile_cons]
    split
    · rename_i hblank
      rw [separatesDigits_cons (ne_underscore_of_isBlank hblank), isDigit_of_isBlank hblank]
      exact ih
    · rfl

theorem separatesDigits_concat_blank {c : Char} (h : Text.isBlank c = true) (digitBefore : Bool)
    (cs : List Char) : separatesDigits digitBefore (cs ++ [c]) = separatesDigits digitBefore cs := by
  induction cs generalizing digitBefore with
  | nil =>
    rw [List.nil_append, separatesDigits_cons (ne_underscore_of_isBlank h)]
    rfl
  | cons d cs ih =>
    rw [List.cons_append]
    by_cases hd : d = '_'
    · subst hd
      -- behind an underscore a blank is no better than the end of the text
      have hhead : (cs ++ [c]).head?.any Char.isDigit = cs.head?.any Char.isDigit := by
        cases cs with
        | nil => simpa using isDigit_of_isBlank h
        | cons => rfl
      rw [separatesDigits_underscore, separatesDigits_underscore, hhead, ih]
    · rw [separatesDigits_cons hd, separatesDigits_cons hd, ih]

theorem separatesDigits_trimEnd (digitBefore : Bool) (cs : List Char) :
    separatesDigits digitBefore (Text.trimEnd cs) = separatesDigits digitBefore cs := by
  induction cs using List.reverseRecOn with
  | nil => rfl
  | append_singleton cs c ih =>
    rw [Text.trimEnd, List.reverse_concat, List.dropWhile_cons]
    split
    · rename_i hblank
      rw [separatesDigits_concat_blank hblank]
      exact ih
    · rw [← List.reverse_concat, List.reverse_reverse]

/-- Trimming neither mends nor breaks a text. -/
theorem separatesDigits_trim (s : String) :
    separatesDigits false (Text.trim s).toList = separatesDigits false s.toList := by
  rw [Text.trim, String.toList_ofList, separatesDigits_trimEnd, separatesDigits_trimStart]

/-! ## One underscore more -/

/-- Between two digits an underscore passes the check wherever they stand. -/
theorem separatesDigits_insert {a b : Char} (ha : a.isDigit = true) (hb : b.isDigit = true)
    (digitBefore : Bool) (before behind : List Char) :
    separatesDigits digitBefore (before ++ a :: '_' :: b :: behind) =
      separatesDigits digitBefore (before ++ a :: b :: behind) := by
  induction before generalizing digitBefore with
  | nil =>
    have hne := ne_underscore_of_isDigit hb
    simp [separatesDigits_cons (ne_underscore_of_isDigit ha), separatesDigits_cons hne,
      separatesDigits_underscore, ha, hb]
  | cons c before ih =>
    rw [List.cons_append, List.cons_append]
    by_cases hc : c = '_'
    · subst hc
      have hhead : (before ++ a :: '_' :: b :: behind).head? =
          (before ++ a :: b :: behind).head? := by
        cases before <;> rfl
      rw [separatesDigits_underscore, separatesDigits_underscore, hhead, ih]
    · rw [separatesDigits_cons hc, separatesDigits_cons hc, ih]

theorem trimStart_append_cons {c : Char} (hc : Text.isBlank c = false) (before behind : List Char) :
    Text.trimStart (before ++ c :: behind) = Text.trimStart before ++ c :: behind := by
  rw [Text.trimStart, List.dropWhile_append]
  split
  · rename_i hempty
    rw [List.dropWhile_cons_of_neg (by simp [hc]), Text.trimStart,
      List.isEmpty_iff.1 hempty, List.nil_append]
  · rfl

theorem trimEnd_append_cons {c : Char} (hc : Text.isBlank c = false) (before behind : List Char) :
    Text.trimEnd (before ++ c :: behind) = before ++ c :: Text.trimEnd behind := by
  have hreverse : (before ++ c :: behind).reverse = behind.reverse ++ c :: before.reverse := by
    simp
  rw [Text.trimEnd, hreverse]
  -- from behind it is the beginning that is trimmed
  exact (congrArg List.reverse (trimStart_append_cons hc behind.reverse before.reverse)).trans
    (by simp [Text.trimStart, Text.trimEnd])

/-- What stands between two characters that are not blank is not trimmed. -/
theorem trim_between {a b : Char} (ha : Text.isBlank a = false) (hb : Text.isBlank b = false)
    (before between behind : List Char) :
    (Text.trim (String.ofList (before ++ a :: (between ++ b :: behind)))).toList =
      Text.trimStart before ++ a :: (between ++ b :: Text.trimEnd behind) := by
  rw [Text.trim, String.toList_ofList, String.toList_ofList, trimStart_append_cons ha,
    ← List.cons_append, ← List.append_assoc, trimEnd_append_cons hb]
  simp

/-- **One underscore more** between two digits leaves the reading as it is. -/
theorem ofText?_of_separates {cs cs' : List Char} (h : Separates cs cs') :
    ofText? (String.ofList cs') = ofText? (String.ofList cs) := by
  obtain ⟨before, behind, ha, hb⟩ := h
  rename_i a b
  have htrim := trim_between (isBlank_of_isDigit ha) (isBlank_of_isDigit hb) before
  have hless := htrim [] behind
  have hmore := htrim ['_'] behind
  rw [List.nil_append, List.nil_append] at hless
  rw [List.singleton_append, List.singleton_append] at hmore
  have hfilter : (Text.trimStart before ++ a :: '_' :: b :: Text.trimEnd behind).filter (· != '_') =
      (Text.trimStart before ++ a :: b :: Text.trimEnd behind).filter (· != '_') := by
    simp [List.filter_cons]
  rw [ofText?, ofText?, hless, hmore, dropSeparators?, dropSeparators?, hfilter,
    separatesDigits_insert ha hb]

/-- Any number of underscores more. -/
theorem ofText?_of_groups {cs cs' : List Char} (h : Groups cs cs') :
    ofText? (String.ofList cs') = ofText? (String.ofList cs) := by
  induction h with
  | refl => rfl
  | tail _ hstep ih => exact (ofText?_of_separates hstep).trans ih

/-! ## All underscores -/

/-- A text that passes the check is grouped from the text without underscores. A part in front has
been looked at already. -/
theorem groups_of_separatesDigits {front cs : List Char}
    (h : separatesDigits (front.getLast?.any Char.isDigit) cs = true) :
    Groups (front ++ cs.filter (· != '_')) (front ++ cs) := by
  induction cs generalizing front with
  | nil => exact Relation.ReflTransGen.refl
  | cons c cs ih =>
    by_cases hc : c = '_'
    · subst hc
      rw [separatesDigits_underscore, Bool.and_eq_true, Bool.and_eq_true] at h
      obtain ⟨⟨hlast, hhead⟩, hcs⟩ := h
      obtain ⟨front, a, rfl⟩ : ∃ front' a, front = front' ++ [a] := by
        refine front.eq_nil_or_concat'.resolve_left ?_
        rintro rfl
        exact Bool.false_ne_true hlast
      obtain ⟨b, behind, rfl⟩ : ∃ b behind, cs = b :: behind := by
        refine List.exists_cons_of_ne_nil ?_
        rintro rfl
        exact Bool.false_ne_true hhead
      have ha : a.isDigit = true := by simpa using hlast
      have hb : b.isDigit = true := hhead
      -- the underscore is the last one to be put in
      refine Relation.ReflTransGen.tail (b := front ++ a :: b :: behind) ?_ ?_
      · have hne := ne_underscore_of_isDigit hb
        have hgroups := @ih (front ++ [a]) (by
          rwa [separatesDigits_cons hne] at hcs ⊢)
        rw [List.append_assoc, List.append_assoc] at hgroups
        rw [List.append_assoc]
        exact hgroups
      · simpa using Separates.insert front behind ha hb
    · rw [separatesDigits_cons hc] at h
      have hgroups := @ih (front ++ [c]) (by simpa using h)
      simpa [hc] using hgroups

theorem ofText?_withoutUnderscores {s : String} (h : separatesDigits false s.toList = true) :
    ofText? s = ofText? (withoutUnderscores s) := by
  have hgroups := ofText?_of_groups (@groups_of_separatesDigits [] _ h)
  rwa [List.nil_append, List.nil_append, String.ofList_toList] at hgroups

/-! ## Bytes

An underscore and a digit are one byte each, and no other character has such a byte. So the check may
be made by index on the bytes of the text, whatever else stands in it. -/

/-- The byte of a digit. -/
def isDigitByte (b : UInt8) : Bool :=
  decide (0x30 ≤ b.toNat) && decide (b.toNat ≤ 0x39)

/-- The bytes next to the one with an index are digits. -/
def BetweenDigitBytes (bytes : List UInt8) (i : ℕ) : Prop :=
  0 < i ∧ bytes[i - 1]?.any isDigitByte = true ∧ bytes[i + 1]?.any isDigitByte = true

theorem betweenDigitBytes_length {before behind : List UInt8} {x : UInt8} :
    BetweenDigitBytes (before ++ x :: behind) before.length ↔
      before.getLast?.any isDigitByte = true ∧ behind.head?.any isDigitByte = true := by
  have hbehind : (before ++ x :: behind)[before.length + 1]? = behind.head? := by
    rw [List.getElem?_append_right (Nat.le_add_right _ 1), Nat.add_sub_cancel_left,
      List.getElem?_cons_succ, List.head?_eq_getElem?]
  rw [BetweenDigitBytes, hbehind, ← and_assoc]
  refine and_congr_left fun _ => ?_
  rcases before.eq_nil_or_concat' with rfl | ⟨before, y, rfl⟩
  · simp
  · simp

/-- Every byte of a digit is that of a digit, and no byte of another character is. -/
theorem isDigitByte_of_mem {c : Char} {x : UInt8} (h : x ∈ String.utf8EncodeChar c) :
    isDigitByte x = c.isDigit := by
  have hdigit : c.isDigit = (decide (48 ≤ c.val.toNat) && decide (c.val.toNat ≤ 57)) := by
    simp [Char.isDigit, UInt32.le_iff_toNat_le]
  rw [hdigit, isDigitByte]
  unfold String.utf8EncodeChar at h
  generalize c.val.toNat = n at h ⊢
  dsimp only at h
  rw [Bool.eq_iff_iff]
  simp only [Bool.and_eq_true, decide_eq_true_eq]
  split_ifs at h <;> simp only [List.mem_cons, List.not_mem_nil, or_false] at h <;>
    rcases h with rfl | rfl | rfl | rfl <;> rw [UInt8.toNat_ofNat'] <;> omega

theorem any_head?_encodeChars (cs : List Char) :
    (Utf8.encodeChars cs).head?.any isDigitByte = cs.head?.any Char.isDigit := by
  cases cs with
  | nil => rfl
  | cons c cs =>
    obtain ⟨x, xs, hc⟩ := List.exists_cons_of_ne_nil (String.utf8EncodeChar_ne_nil (c := c))
    rw [Utf8.encodeChars_cons, hc]
    exact isDigitByte_of_mem (hc ▸ List.mem_cons_self)

theorem any_getLast?_encodeChars (cs : List Char) :
    (Utf8.encodeChars cs).getLast?.any isDigitByte = cs.getLast?.any Char.isDigit := by
  rcases cs.eq_nil_or_concat' with rfl | ⟨cs, c, rfl⟩
  · rfl
  · obtain ⟨xs, x, hc⟩ :=
      (String.utf8EncodeChar c).eq_nil_or_concat'.resolve_left String.utf8EncodeChar_ne_nil
    have hx : isDigitByte x = c.isDigit := isDigitByte_of_mem (by simp [hc])
    have hlast : Utf8.encodeChars [c] = xs ++ [x] := by simp [Utf8.encodeChars, hc]
    rw [Utf8.encodeChars_append, hlast, ← List.append_assoc]
    simp [hx]

/-- **The check on bytes**: it is the one on characters. -/
theorem separatesDigits_iff_bytes {cs : List Char} :
    separatesDigits false cs = true ↔ ∀ i, (Utf8.encodeChars cs)[i]? = some 0x5F →
      BetweenDigitBytes (Utf8.encodeChars cs) i := by
  rw [separatesDigits_false_iff]
  constructor
  · intro h i hi
    obtain ⟨hlt, hi⟩ := List.getElem?_eq_some_iff.1 hi
    have hsplit : Utf8.encodeChars cs =
        (Utf8.encodeChars cs).take i ++ 0x5F :: (Utf8.encodeChars cs).drop (i + 1) := by
      rw [← hi, List.cons_getElem_drop_succ, List.take_append_drop]
    -- the byte is a character, and this is the underscore
    obtain ⟨before, c, behind, rfl, hbefore, hc, hbehind⟩ :=
      Utf8.exists_char_of_ascii hsplit (by decide)
    obtain rfl : c = '_' := by
      have hone : Utf8.encodeChars [c] = Utf8.encodeChars ['_'] := by
        simp only [Utf8.encodeChars, List.flatMap_cons, hc]
        rfl
      exact (List.cons.inj (Utf8.encodeChars_injective hone)).1
    have hlength : i = (Utf8.encodeChars before).length := by
      rw [hbefore, List.length_take, Nat.min_eq_left hlt.le]
    rw [hsplit, ← hbefore, ← hbehind, hlength, betweenDigitBytes_length, any_getLast?_encodeChars,
      any_head?_encodeChars]
    exact h before behind rfl
  · rintro h before behind rfl
    have hbytes : Utf8.encodeChars (before ++ '_' :: behind) =
        Utf8.encodeChars before ++ 0x5F :: Utf8.encodeChars behind :=
      Utf8.encodeChars_append before ('_' :: behind)
    have hbetween := h (Utf8.encodeChars before).length (by rw [hbytes]; simp)
    rwa [hbytes, betweenDigitBytes_length, any_getLast?_encodeChars, any_head?_encodeChars]
      at hbetween

/-! ## Readings -/

/-- A text that has a reading passes the check, with its blank ends and without. -/
theorem separatesDigits_of_reading {s : String} (h : (reading? (.string s)).isSome = true) :
    separatesDigits false s.toList = true := by
  rw [← separatesDigits_trim]
  by_contra hcheck
  rw [reading?, ofText?, dropSeparators?, if_neg hcheck] at h
  exact Bool.false_ne_true h

/-- An underscore at an end, two of them side by side, or one with a neighbour that is no digit. -/
def Misplaced (cs : List Char) : Prop :=
  cs.head? = some '_' ∨ cs.getLast? = some '_' ∨ ['_', '_'] <:+: cs ∨
    ∃ before behind, cs = before ++ '_' :: behind ∧ ¬BetweenDigits before behind

theorem not_misplaced {cs : List Char} (h : separatesDigits false cs = true) : ¬Misplaced cs := by
  rw [separatesDigits_false_iff] at h
  rintro (hhead | hlast | ⟨before, behind, rfl⟩ | ⟨before, behind, hcs, hnot⟩)
  · obtain ⟨behind, rfl⟩ := List.head?_eq_some_iff.1 hhead
    exact Bool.false_ne_true (h [] behind rfl).1
  · obtain ⟨before, rfl⟩ := List.getLast?_eq_some_iff.1 hlast
    exact Bool.false_ne_true (h before [] rfl).2
  · exact Bool.false_ne_true (h before ('_' :: behind) (by simp)).2
  · exact hnot (h before behind hcs)

/-- **Underscores separate groups of digits.** In a text that has a reading each underscore stands
between two digits, on characters as on bytes, and the reading is the one without them. Underscores
that are put between digits of any text leave its reading as it is, and with any other underscore
there is none. -/
theorem reading_of_digitGroups (s : String) :
    ((reading? (.string s)).isSome = true →
      (∀ before behind, (Text.trim s).toList = before ++ '_' :: behind →
        BetweenDigits before behind) ∧
      (∀ i, (Text.trim s).toUTF8.toList[i]? = some 0x5F →
        BetweenDigitBytes (Text.trim s).toUTF8.toList i) ∧
      reading? (.string s) = reading? (.string (withoutUnderscores s))) ∧
    (∀ s' : String, Groups s.toList s'.toList →
      reading? (.string s') = reading? (.string s)) ∧
    (Misplaced s.toList ∨ Misplaced (Text.trim s).toList → reading? (.string s) = none) := by
  refine ⟨fun h => ?_, fun s' h => ?_, fun h => ?_⟩
  · have hcheck := separatesDigits_of_reading h
    have htrim : separatesDigits false (Text.trim s).toList = true :=
      (separatesDigits_trim s).trans hcheck
    refine ⟨separatesDigits_false_iff.1 htrim, ?_, ofText?_withoutUnderscores hcheck⟩
    rw [Utf8.toList_toUTF8]
    exact separatesDigits_iff_bytes.1 htrim
  · have hgroups := ofText?_of_groups h
    rwa [String.ofList_toList, String.ofList_toList] at hgroups
  · by_contra hreading
    have hcheck := separatesDigits_of_reading (Option.isSome_iff_ne_none.2 hreading)
    rcases h with h | h
    · exact not_misplaced hcheck h
    · exact not_misplaced ((separatesDigits_trim s).trans hcheck) h

/-- `1_0` between blanks, the same text without the underscore, and a text with one underscore too
many. -/
theorem reading_of_digitGroups_ten :
    (reading? (.string " 1_0\u2003")).isSome = true ∧
      reading? (.string " 1_0\u2003") =
        reading? (.string (withoutUnderscores " 1_0\u2003")) ∧
      reading? (.string " 1_0\u2003") = reading? (.string " 10\u2003") ∧
      reading? (.string "1__0") = none := by
  have hreading : (reading? (.string " 1_0\u2003")).isSome = true := by decide +kernel
  have hgroups : Groups " 10\u2003".toList " 1_0\u2003".toList :=
    .single (.insert [' '] ['\u2003'] rfl rfl)
  exact ⟨hreading, ((reading_of_digitGroups _).1 hreading).2.2,
    (reading_of_digitGroups _).2.1 _ hgroups,
    (reading_of_digitGroups _).2.2 (.inl (.inr (.inr (.inl ⟨['1'], ['0'], rfl⟩))))⟩

end CustomFields.Rule.Numeric
