import CustomFields.Calendar.IsoText
import CustomFields.Proofs.Calendar.Timestamp

/-!
# Times of day in texts

A time is two digits for each of its parts, with colons between them or without, and digits of a
fraction behind the seconds. Without colons the parts are what is cut from the text two bytes at a
time; a cut that falls within a character drops the bytes on both sides of it, so that a text which
is no time may be read as one. Where all characters are of one byte, nothing is dropped.

## Main definitions

* `Calendar.TimeText`: the texts of times of day
* `Calendar.CutsTo`: what is cut from a text two bytes at a time
* `Calendar.ReadsAsTime`: the texts that are read as times

## Main results

* `Calendar.isSome_readTime?_iff`: which texts are read as times
* `Calendar.TimeText.readsAsTime`, `Calendar.ReadsAsTime.timeText`: they are the texts of times, but
  for characters of several bytes
-/

namespace CustomFields.Calendar

open Decimal (IsDigits ofDigitChars_lt)

/-! ## Numbers -/

/-- The digits of a number of some width. -/
structure IsNumber (width : ℕ) (cs : List Char) (n : ℕ) : Prop where
  digits : IsDigits cs
  length_eq : cs.length = width
  value_eq : Nat.ofDigitChars 10 cs 0 = n

theorem digits?_eq_some_iff {cs : List Char} {n : ℕ} :
    digits? cs = some n ↔ cs ≠ [] ∧ IsDigits cs ∧ Nat.ofDigitChars 10 cs 0 = n := by
  simp only [digits?, Bool.and_eq_true, Bool.not_eq_true', List.isEmpty_eq_false_iff,
    List.all_eq_true, IsDigits]
  split
  · rename_i h
    exact ⟨fun heq => ⟨h.1, h.2, Option.some.inj heq⟩, fun heq => congrArg some heq.2.2⟩
  · rename_i h
    refine iff_of_false ?_ fun heq => h ⟨heq.1, heq.2.1⟩
    rintro ⟨⟩

theorem isNumber_of_digits? {cs : List Char} {n : ℕ} (h : digits? cs = some n) :
    IsNumber cs.length cs n :=
  ⟨(digits?_eq_some_iff.1 h).2.1, rfl, (digits?_eq_some_iff.1 h).2.2⟩

theorem IsNumber.digits?_eq {width : ℕ} {cs : List Char} {n : ℕ} (h : IsNumber width cs n)
    (hw : 0 < width) : digits? cs = some n :=
  digits?_eq_some_iff.2
    ⟨List.ne_nil_of_length_pos (h.length_eq.symm ▸ hw), h.digits, h.value_eq⟩

theorem twoDigits?_eq_some_iff {cs : List Char} {n : ℕ} :
    twoDigits? cs = some n ↔ IsNumber 2 cs n := by
  unfold twoDigits?
  split
  · exact ⟨isNumber_of_digits?, fun h => h.digits?_eq two_pos⟩
  · rename_i hne
    refine ⟨nofun, fun h => ?_⟩
    obtain ⟨a, b, rfl⟩ := List.length_eq_two.1 h.length_eq
    exact absurd rfl (hne a b)

theorem IsNumber.eq_pair {cs : List Char} {n : ℕ} (h : IsNumber 2 cs n) :
    ∃ a b, cs = [a, b] ∧ a.isDigit = true ∧ b.isDigit = true := by
  obtain ⟨a, b, rfl⟩ := List.length_eq_two.1 h.length_eq
  exact ⟨a, b, rfl, h.digits a (by simp), h.digits b (by simp)⟩

/-- A fraction of any number of digits is less than a second. -/
theorem exists_nanoseconds? {f : List Char} (hne : f ≠ []) (hf : IsDigits f) :
    ∃ n < 10 ^ 9, nanoseconds? f = some n := by
  obtain ⟨first, hfirst⟩ : ∃ first, first = f.take 9 := ⟨_, rfl⟩
  have hlength : first.length ≤ 9 := hfirst ▸ List.length_take_le 9 f
  have hdigits : IsDigits first := fun c hc => hf c (List.mem_of_mem_take (hfirst ▸ hc))
  have hne' : first ≠ [] := by simp [hfirst, hne]
  have hread := digits?_eq_some_iff.2 ⟨hne, hf, rfl⟩
  have hread' := digits?_eq_some_iff.2 ⟨hne', hdigits, rfl⟩
  refine ⟨Nat.ofDigitChars 10 first 0 * 10 ^ (9 - first.length), ?_, ?_⟩
  · have hscale : 10 ^ first.length * 10 ^ (9 - first.length) = 10 ^ 9 := by
      rw [← pow_add, Nat.add_sub_cancel' hlength]
    rw [← hscale]
    exact Nat.mul_lt_mul_of_pos_right (ofDigitChars_lt hdigits) (by positivity)
  · simp only [nanoseconds?, hread, ← hfirst, hread']
    rfl

/-- The fractions of a second that are read are the rows of digits. -/
theorem exists_nanoseconds?_iff {f : List Char} :
    (∃ n < 10 ^ 9, nanoseconds? f = some n) ↔ f ≠ [] ∧ IsDigits f := by
  constructor
  · rintro ⟨n, -, hn⟩
    obtain ⟨v, hv, -⟩ := Option.bind_eq_some_iff.1 hn
    exact ⟨(digits?_eq_some_iff.1 hv).1, (digits?_eq_some_iff.1 hv).2.1⟩
  · rintro ⟨hne, hf⟩
    exact exists_nanoseconds? hne hf

theorem TimeOfDay.isSome_of?_iff {hour minute second nanosecond : ℕ} :
    (of? hour minute second nanosecond).isSome ↔
      hour < 24 ∧ minute < 60 ∧ second < 60 ∧ nanosecond < 10 ^ 9 := by
  unfold of?
  split
  · rename_i h
    exact ⟨fun _ => h, fun _ => rfl⟩
  · rename_i h
    exact ⟨nofun, fun h' => absurd h' h⟩

/-! ## Clocks -/

/-- The parts of a clock: an hour, a minute and a second, of which the last ones may be left out. -/
inductive IsClock : List (List Char) → Prop
  | hour {h : List Char} {hour : ℕ} (hh : IsNumber 2 h hour) (hour_lt : hour < 24) : IsClock [h]
  | minute {h m : List Char} {hour minute : ℕ} (hh : IsNumber 2 h hour) (hour_lt : hour < 24)
    (hm : IsNumber 2 m minute) (minute_lt : minute < 60) : IsClock [h, m]
  | second {h m s : List Char} {hour minute second : ℕ} (hh : IsNumber 2 h hour)
    (hour_lt : hour < 24) (hm : IsNumber 2 m minute) (minute_lt : minute < 60)
    (hs : IsNumber 2 s second) (second_lt : second < 60) : IsClock [h, m, s]

/-- Parts that follow each other, with a mark between them if it is written. -/
def joined (mark : Char) (written : Bool) (parts : List (List Char)) : List Char :=
  List.intercalate (if written then [mark] else []) parts

/-- The texts of times of day. A fraction stands behind the seconds only. -/
inductive TimeText : List Char → Prop
  | whole (colons : Bool) {parts : List (List Char)} (clock : IsClock parts) :
    TimeText (joined ':' colons parts)
  | fraction (colons : Bool) {h m s f : List Char} {mark : Char} (clock : IsClock [h, m, s])
    (hmark : mark = '.' ∨ mark = ',') (ne : f ≠ []) (digits : IsDigits f) :
    TimeText (joined ':' colons [h, m, s] ++ mark :: f)

/-- What is cut from a text two bytes at a time, if that is digits: a cut within a character drops
the bytes on both sides of it, so that a character of four bytes is dropped, and all that lies
between two characters of an odd number of bytes. -/
inductive CutsTo : List Char → List (List Char) → Prop
  | nil : CutsTo [] []
  | pair {a b : Char} {cs : List Char} {parts : List (List Char)} (ha : a.isDigit = true)
    (hb : b.isDigit = true) (rest : CutsTo cs parts) : CutsTo (a :: b :: cs) ([a, b] :: parts)
  | wide {c : Char} {cs : List Char} {parts : List (List Char)} (hc : c.utf8Size = 4)
    (rest : CutsTo cs parts) : CutsTo (c :: cs) parts
  | within {a b : Char} {between cs : List Char} {parts : List (List Char)}
    (ha : a.utf8Size % 2 = 1) (hbetween : ∀ c ∈ between, c.utf8Size % 2 = 0)
    (hb : b.utf8Size % 2 = 1) (long : 2 < a.utf8Size + b.utf8Size + between.length)
    (rest : CutsTo cs parts) : CutsTo (a :: between ++ b :: cs) parts

/-- The texts that are read as the parts of a clock. -/
inductive ReadsAsClock : List Char → List (List Char) → Prop
  | colons {parts : List (List Char)} (clock : IsClock parts)
    (several : 1 < parts.length) : ReadsAsClock (joined ':' true parts) parts
  | cut {cs : List Char} {parts : List (List Char)} (clock : IsClock parts)
    (cuts : CutsTo cs parts) (plain : ∀ c ∈ cs, c ≠ ':' ∧ c ≠ '.' ∧ c ≠ ',') :
    ReadsAsClock cs parts

/-- The texts that are read as times. -/
inductive ReadsAsTime : List Char → Prop
  | whole {cs : List Char} {parts : List (List Char)} (clock : ReadsAsClock cs parts) :
    ReadsAsTime cs
  | fraction {cs h m s f : List Char} {mark : Char} (clock : ReadsAsClock cs [h, m, s])
    (hmark : mark = '.' ∨ mark = ',') (ne : f ≠ []) (digits : IsDigits f) :
    ReadsAsTime (cs ++ mark :: f)

/-! ## The windows of a text -/

theorem byteCells_cons (c : Char) (cs : List Char) :
    byteCells (c :: cs) = some c :: (List.replicate (c.utf8Size - 1) none ++ byteCells cs) := rfl

theorem length_byteCells_cons (c : Char) (cs : List Char) :
    (byteCells (c :: cs)).length = c.utf8Size + (byteCells cs).length := by
  have hpos := c.utf8Size_pos
  simp only [byteCells_cons, List.length_cons, List.length_append, List.length_replicate]
  omega

theorem utf8Size_of_isDigit {c : Char} (h : c.isDigit = true) : c.utf8Size = 1 := by
  simp only [Char.isDigit, Bool.and_eq_true, decide_eq_true_eq] at h
  have hascii : '9'.val ≤ 0x7f := by decide
  exact Char.utf8Size_eq_one_iff.2 (UInt32.le_trans h.2 hascii)

theorem utf8Size_cases (c : Char) :
    c.utf8Size = 1 ∨ c.utf8Size = 2 ∨ c.utf8Size = 3 ∨ c.utf8Size = 4 := by
  have hpos := c.utf8Size_pos
  have hle := c.utf8Size_le_four
  omega

/-- A text ends or goes on with a character. -/
theorem byteCells_eq_nil_or_cons (cs : List Char) :
    byteCells cs = [] ∨ ∃ c cells, byteCells cs = some c :: cells := by
  cases cs with
  | nil => exact .inl rfl
  | cons c cs => exact .inr ⟨c, _, byteCells_cons c cs⟩

/-- A window that ends where a character starts, or with the text, is kept if it starts whole. -/
theorem byteWindows_kept (a : Char) (b : Option Char) (cs : List Char) :
    byteWindows (some a :: b :: byteCells cs) = (a :: b.toList) :: byteWindows (byteCells cs) := by
  obtain h | ⟨c, cells, h⟩ := byteCells_eq_nil_or_cons cs
  · rw [h]
    rfl
  · rw [h]
    rfl

theorem byteWindows_pair {a b : Char} (cs : List Char) (ha : a.utf8Size = 1)
    (hb : b.utf8Size = 1) :
    byteWindows (byteCells (a :: b :: cs)) = [a, b] :: byteWindows (byteCells cs) := by
  rw [byteCells_cons, byteCells_cons, ha, hb]
  exact byteWindows_kept a (some b) cs

/-- Within a character, the next one goes on to its end or leaves off within it. -/
theorem byteWindows_none_cons (c : Char) (cs : List Char) :
    byteWindows (none :: byteCells (c :: cs)) =
      if c.utf8Size % 2 = 1 then byteWindows (byteCells cs) else byteWindows (none :: byteCells cs) := by
  rcases utf8Size_cases c with h | h | h | h <;> rw [byteCells_cons, h] <;> rfl

/-- What lies between a cut within a character and the next character that ends it is dropped. -/
theorem byteWindows_between {between : List Char} {b : Char} (cs : List Char)
    (hbetween : ∀ c ∈ between, c.utf8Size % 2 = 0) (hb : b.utf8Size % 2 = 1) :
    byteWindows (none :: byteCells (between ++ b :: cs)) = byteWindows (byteCells cs) := by
  induction between with
  | nil => rw [List.nil_append, byteWindows_none_cons, if_pos hb]
  | cons c between ih =>
    obtain ⟨hc, hrest⟩ := List.forall_mem_cons.1 hbetween
    rw [List.cons_append, byteWindows_none_cons, if_neg (by omega), ih hrest]

/-- A character of an odd number of bytes takes the next one with it, unless both have one byte. -/
theorem byteWindows_odd_cons {a b : Char} (cs : List Char) (ha : a.utf8Size % 2 = 1)
    (long : a.utf8Size = 1 → b.utf8Size ≠ 1) :
    byteWindows (byteCells (a :: b :: cs)) = byteWindows (none :: byteCells (b :: cs)) := by
  -- one byte takes the first byte of a longer character with it, and of three bytes the last does
  rcases utf8Size_cases a with h | h | h | h
  · have hlong := long h
    rcases utf8Size_cases b with h' | h' | h' | h'
    · exact absurd h' hlong
    all_goals
      rw [byteCells_cons, byteCells_cons, h, h']
      rfl
  · omega
  · rw [byteCells_cons, h]
    rfl
  · omega

theorem byteWindows_within {a b : Char} {between : List Char} (cs : List Char)
    (ha : a.utf8Size % 2 = 1) (hbetween : ∀ c ∈ between, c.utf8Size % 2 = 0)
    (hb : b.utf8Size % 2 = 1) (long : 2 < a.utf8Size + b.utf8Size + between.length) :
    byteWindows (byteCells (a :: between ++ b :: cs)) = byteWindows (byteCells cs) := by
  rw [← byteWindows_between cs hbetween hb, List.cons_append]
  cases between with
  | nil => exact byteWindows_odd_cons cs ha (by simp only [List.length_nil] at long; omega)
  | cons c between =>
    have hc := hbetween c List.mem_cons_self
    exact byteWindows_odd_cons _ ha (by omega)

/-- A text of an odd number of bytes has a first character of an odd number of bytes. -/
theorem exists_odd_of_length_byteCells {cs : List Char} (h : (byteCells cs).length % 2 = 1) :
    ∃ between b rest, cs = between ++ b :: rest ∧ (∀ c ∈ between, c.utf8Size % 2 = 0) ∧
      b.utf8Size % 2 = 1 ∧ (byteCells rest).length % 2 = 0 := by
  induction cs with
  | nil => simp [byteCells] at h
  | cons c cs ih =>
    rw [length_byteCells_cons] at h
    rcases Nat.mod_two_eq_zero_or_one c.utf8Size with hc | hc
    · obtain ⟨between, b, rest, rfl, hbetween, hb, hrest⟩ := ih (by omega)
      exact ⟨c :: between, b, rest, rfl, List.forall_mem_cons.2 ⟨hc, hbetween⟩, hb, hrest⟩
    · exact ⟨[], c, cs, rfl, by simp, hc, by omega⟩

theorem byteCells_length_append (xs ys : List Char) :
    (byteCells (xs ++ ys)).length = (byteCells xs).length + (byteCells ys).length := by
  simp [byteCells]

theorem byteCells_length_even {cs : List Char} (h : ∀ c ∈ cs, c.utf8Size % 2 = 0) :
    (byteCells cs).length % 2 = 0 := by
  induction cs with
  | nil => rfl
  | cons c cs ih =>
    obtain ⟨hc, hcs⟩ := List.forall_mem_cons.1 h
    have hrest := ih hcs
    rw [length_byteCells_cons]
    omega

/-- What is cut from a text is made of digits. -/
theorem CutsTo.windows {cs : List Char} {parts : List (List Char)} (h : CutsTo cs parts) :
    (byteCells cs).length % 2 = 0 ∧ byteWindows (byteCells cs) = parts := by
  induction h with
  | nil => exact ⟨rfl, rfl⟩
  | @pair a b cs parts ha hb _ ih =>
    have hsize := utf8Size_of_isDigit ha
    have hsize' := utf8Size_of_isDigit hb
    refine ⟨?_, ?_⟩
    · rw [length_byteCells_cons, length_byteCells_cons]
      omega
    · rw [byteWindows_pair cs hsize hsize', ih.2]
  | @wide c cs parts hc _ ih =>
    refine ⟨?_, ?_⟩
    · rw [length_byteCells_cons]
      omega
    · rw [← ih.2, byteCells_cons, hc]
      rfl
  | @within a b between cs parts ha hbetween hb long _ ih =>
    have heven := byteCells_length_even hbetween
    refine ⟨?_, (byteWindows_within cs ha hbetween hb long).trans ih.2⟩
    rw [List.cons_append, length_byteCells_cons, byteCells_length_append, length_byteCells_cons]
    omega

theorem cutsTo_byteWindows {cs : List Char} (heven : (byteCells cs).length % 2 = 0)
    (hdigits : ∀ part ∈ byteWindows (byteCells cs), part.length = 2 ∧ IsDigits part) :
    CutsTo cs (byteWindows (byteCells cs)) := by
  -- the induction is on the number of characters, since a cut may drop many of them at once
  induction hn : cs.length using Nat.strong_induction_on generalizing cs with
  | _ n ih =>
  subst hn
  cases cs with
  | nil => exact .nil
  | cons a cs =>
    rw [length_byteCells_cons] at heven
    rcases Nat.mod_two_eq_zero_or_one a.utf8Size with ha | ha
    · obtain h | h : a.utf8Size = 2 ∨ a.utf8Size = 4 := by
        have hcases := utf8Size_cases a
        omega
      -- two bytes are a window of their own, but not one of two digits
      · have hkept : byteWindows (byteCells (a :: cs)) = [a] :: byteWindows (byteCells cs) := by
          rw [byteCells_cons, h]
          exact byteWindows_kept a none cs
        have hlength := (hdigits [a] (by simp [hkept])).1
        simp at hlength
      · have hdropped : byteWindows (byteCells (a :: cs)) = byteWindows (byteCells cs) := by
          rw [byteCells_cons, h]
          rfl
        rw [hdropped] at hdigits ⊢
        exact .wide h (ih _ (by simp) (by omega) hdigits rfl)
    -- the bytes of the text are even in number, so that the cut ends with another odd character
    · have hodd : (byteCells cs).length % 2 = 1 := by omega
      obtain ⟨between, b, rest, rfl, hbetween, hb, hrest⟩ := exists_odd_of_length_byteCells hodd
      have hshorter : rest.length < (a :: (between ++ b :: rest)).length := by
        simp only [List.length_cons, List.length_append]
        omega
      by_cases long : 2 < a.utf8Size + b.utf8Size + between.length
      · have hdropped := byteWindows_within rest ha hbetween hb long
        rw [List.cons_append] at hdropped
        rw [hdropped] at hdigits ⊢
        exact .within ha hbetween hb long (ih _ hshorter hrest hdigits rfl)
      · obtain ⟨hsize, hsize', hnil⟩ :
            a.utf8Size = 1 ∧ b.utf8Size = 1 ∧ between.length = 0 := by omega
        obtain rfl := List.length_eq_zero_iff.1 hnil
        rw [List.nil_append, byteWindows_pair rest hsize hsize'] at hdigits ⊢
        obtain ⟨⟨-, hpair⟩, hdigits'⟩ := List.forall_mem_cons.1 hdigits
        exact .pair (hpair a (by simp)) (hpair b (by simp)) (ih _ hshorter hrest hdigits' rfl)

/-! ## The parts of a clock -/

theorem ne_of_isDigit {c mark : Char} (h : c.isDigit = true) (hmark : mark.isDigit = false) :
    c ≠ mark := by
  rintro rfl
  exact Bool.false_ne_true (hmark.symm.trans h)

theorem notMem_of_isDigits {ds : List Char} (h : IsDigits ds) {mark : Char}
    (hmark : mark.isDigit = false) : mark ∉ ds :=
  fun hmem => ne_of_isDigit (h mark hmem) hmark rfl

theorem IsClock.isDigits {parts : List (List Char)} (h : IsClock parts) :
    ∀ part ∈ parts, part.length = 2 ∧ IsDigits part := by
  cases h with
  | hour hh => simp [hh.length_eq, hh.digits]
  | minute hh _ hm => simp [hh.length_eq, hh.digits, hm.length_eq, hm.digits]
  | second hh _ hm _ hs =>
    simp [hh.length_eq, hh.digits, hm.length_eq, hm.digits, hs.length_eq, hs.digits]

theorem split_joined {parts : List (List Char)} (h : IsClock parts) :
    Text.split ':' (joined ':' true parts) = parts := by
  have hcolon {part : List Char} {n : ℕ} (hpart : IsNumber 2 part n) : ':' ∉ part :=
    notMem_of_isDigits hpart.digits rfl
  cases h with
  | hour hh => exact (congrArg _ (List.append_nil _)).trans (Text.split_of_notMem (hcolon hh))
  | @minute h m _ _ hh _ hm =>
    have hjoined : joined ':' true [h, m] = h ++ ':' :: m := by simp [joined]
    rw [hjoined, Text.split_append (hcolon hh), Text.split_of_notMem (hcolon hm)]
  | @second h m s _ _ _ hh _ hm _ hs =>
    have hjoined : joined ':' true [h, m, s] = h ++ ':' :: (m ++ ':' :: s) := by simp [joined]
    rw [hjoined, Text.split_append (hcolon hh), Text.split_append (hcolon hm),
      Text.split_of_notMem (hcolon hs)]

/-- What a text without marks of a fraction is read as. -/
theorem readsAsClock_iff {cs : List Char} {parts : List (List Char)}
    (plain : ∀ c ∈ cs, c ≠ '.' ∧ c ≠ ',') :
    ReadsAsClock cs parts ↔ clockParts? cs = some parts ∧ IsClock parts := by
  unfold clockParts?
  constructor
  · intro h
    cases h with
    | colons clock several =>
      have hcolon : ':' ∈ joined ':' true parts := by
        cases clock <;> simp_all [joined]
      rw [if_pos (List.contains_iff_mem.2 hcolon), split_joined clock]
      exact ⟨rfl, clock⟩
    | cut clock cuts plain =>
      have hcolon : ':' ∉ cs := fun hmem => (plain _ hmem).1 rfl
      obtain ⟨heven, hwindows⟩ := cuts.windows
      rw [if_neg (by simpa using hcolon), if_pos heven, hwindows]
      exact ⟨rfl, clock⟩
  · rintro ⟨hparts, clock⟩
    split at hparts
    · rename_i hcolon
      obtain rfl := Option.some.inj hparts
      have hjoined : joined ':' true (Text.split ':' cs) = cs := Text.intercalate_split ':' cs
      -- a single part would be the whole text, and that has a colon
      have several : 1 < (Text.split ':' cs).length := by
        by_contra hone
        obtain ⟨part, hpart⟩ : ∃ part, Text.split ':' cs = [part] := by
          have hpos := List.length_pos_of_ne_nil (Text.split_ne_nil ':' cs)
          exact List.length_eq_one_iff.1 (by omega)
        rw [hpart] at hjoined clock
        obtain rfl : part = cs := by simpa [joined] using hjoined
        exact notMem_of_isDigits (clock.isDigits part (by simp)).2 rfl
          (List.contains_iff_mem.1 hcolon)
      have hread := ReadsAsClock.colons clock several
      rwa [hjoined] at hread
    · rename_i hcolon
      dsimp only at hparts
      split at hparts
      · rename_i heven
        obtain rfl := Option.some.inj hparts
        have cuts := cutsTo_byteWindows heven clock.isDigits
        refine .cut clock cuts fun c hc => ⟨?_, plain c hc⟩
        rintro rfl
        exact hcolon (List.contains_iff_mem.2 hc)
      · cases hparts

/-! ## Reading times -/

theorem span_append {p : Char → Bool} {before behind : List Char}
    (hbefore : ∀ c ∈ before, p c = true) (hbehind : ∀ c ∈ behind.head?, p c = false) :
    (before ++ behind).span p = (before, behind) := by
  rw [List.span_eq_takeWhile_dropWhile, List.takeWhile_append_of_pos hbefore,
    List.dropWhile_append_of_pos hbefore]
  cases behind with
  | nil => simp
  | cons c behind => simp [hbehind c rfl]

/-- A text falls apart at the first character that a condition fails for. -/
theorem exists_span (p : Char → Bool) (cs : List Char) :
    ∃ before behind, cs = before ++ behind ∧ (∀ c ∈ before, p c = true) ∧
      ∀ c ∈ behind.head?, p c = false := by
  induction cs with
  | nil => exact ⟨[], [], rfl, by simp, by simp⟩
  | cons c cs ih =>
    cases hc : p c with
    | false => exact ⟨[], c :: cs, rfl, by simp, by simp [hc]⟩
    | true =>
      obtain ⟨before, behind, rfl, hbefore, hbehind⟩ := ih
      exact ⟨c :: before, behind, rfl, List.forall_mem_cons.2 ⟨hc, hbefore⟩, hbehind⟩

/-- Whether a character is none of the marks before a fraction. -/
theorem ne_mark_iff {c : Char} : (c != '.' && c != ',') = true ↔ c ≠ '.' ∧ c ≠ ',' := by
  simp

theorem isClock_hour_iff {h : List Char} :
    IsClock [h] ↔ ∃ hour, IsNumber 2 h hour ∧ hour < 24 := by
  constructor
  · rintro ⟨hh, hlt⟩
    exact ⟨_, hh, hlt⟩
  · rintro ⟨hour, hh, hlt⟩
    exact .hour hh hlt

theorem isClock_minute_iff {h m : List Char} :
    IsClock [h, m] ↔
      ∃ hour, IsNumber 2 h hour ∧ ∃ minute, IsNumber 2 m minute ∧ hour < 24 ∧ minute < 60 := by
  constructor
  · intro clock
    cases clock with
    | minute hh hour_lt hm minute_lt => exact ⟨_, hh, _, hm, hour_lt, minute_lt⟩
  · rintro ⟨hour, hh, minute, hm, hour_lt, minute_lt⟩
    exact .minute hh hour_lt hm minute_lt

theorem isClock_second_iff {h m s : List Char} :
    IsClock [h, m, s] ↔
      ∃ hour, IsNumber 2 h hour ∧ ∃ minute, IsNumber 2 m minute ∧ ∃ second, IsNumber 2 s second ∧
        hour < 24 ∧ minute < 60 ∧ second < 60 := by
  constructor
  · intro clock
    cases clock with
    | second hh hour_lt hm minute_lt hs second_lt =>
      exact ⟨_, hh, _, hm, _, hs, hour_lt, minute_lt, second_lt⟩
  · rintro ⟨hour, hh, minute, hm, second, hs, hour_lt, minute_lt, second_lt⟩
    exact .second hh hour_lt hm minute_lt hs second_lt

theorem isSome_readTime?_whole {cs : List Char} (plain : ∀ c ∈ cs, c ≠ '.' ∧ c ≠ ',') :
    (readTime? cs).isSome ↔ ∃ parts, ReadsAsClock cs parts := by
  have hspan : (cs ++ []).span (fun c => c != '.' && c != ',') = (cs, []) :=
    span_append (fun c hc => ne_mark_iff.2 (plain c hc)) (by simp)
  rw [List.append_nil] at hspan
  simp only [readTime?, hspan, Option.bind_eq_bind, Option.isSome_bind, Option.any_eq_true,
    readsAsClock_iff plain]
  -- with the parts given, the rest is about them and no longer about the text
  refine exists_congr fun parts => and_congr_right fun hparts => ?_
  clear hparts
  split
  · simp only [Option.isSome_bind, Option.any_eq_true, twoDigits?_eq_some_iff,
      TimeOfDay.isSome_of?_iff, isClock_hour_iff]
    simp
  · simp only [Option.isSome_bind, Option.any_eq_true, twoDigits?_eq_some_iff,
      TimeOfDay.isSome_of?_iff, isClock_minute_iff]
    simp
  · simp only [Option.isSome_bind, Option.any_eq_true, twoDigits?_eq_some_iff,
      TimeOfDay.isSome_of?_iff, isClock_second_iff]
    simp
  · rename_i heq
    cases heq
  · rename_i hone htwo hthree _
    refine iff_of_false nofun fun clock => ?_
    cases clock with
    | hour => exact hone _ rfl rfl
    | minute => exact htwo _ _ rfl rfl
    | second => exact hthree _ _ _ rfl rfl

theorem isSome_readTime?_fraction {clock f : List Char} {mark : Char}
    (plain : ∀ c ∈ clock, c ≠ '.' ∧ c ≠ ',') (hmark : mark = '.' ∨ mark = ',') :
    (readTime? (clock ++ mark :: f)).isSome ↔
      ∃ h m s, ReadsAsClock clock [h, m, s] ∧ f ≠ [] ∧ IsDigits f := by
  have hspan : (clock ++ mark :: f).span (fun c => c != '.' && c != ',') = (clock, mark :: f) := by
    refine span_append (fun c hc => ne_mark_iff.2 (plain c hc)) fun c hc => ?_
    obtain rfl := Option.some.inj hc
    rcases hmark with rfl | rfl <;> rfl
  simp only [readTime?, hspan, Option.bind_eq_bind, Option.isSome_bind, Option.any_eq_true,
    readsAsClock_iff plain, ← exists_nanoseconds?_iff, List.tail?_cons]
  constructor
  · rintro ⟨parts, hparts, htime⟩
    split at htime
    · rename_i heq
      cases heq
    · rename_i heq
      cases heq
    · rename_i heq
      cases heq
    · rename_i h m s f' heq
      obtain rfl : f = f' := Option.some.inj heq
      simp only [Option.isSome_bind, Option.any_eq_true, twoDigits?_eq_some_iff,
        TimeOfDay.isSome_of?_iff] at htime
      obtain ⟨hour, hh, minute, hm, second, hs, n, hn, hour_lt, minute_lt, second_lt, n_lt⟩ := htime
      exact ⟨h, m, s, ⟨hparts, .second hh hour_lt hm minute_lt hs second_lt⟩, n, n_lt, hn⟩
    · cases htime
  · rintro ⟨h, m, s, ⟨hparts, clock⟩, n, n_lt, hn⟩
    refine ⟨_, hparts, ?_⟩
    cases clock with
    | second hh hour_lt hm minute_lt hs second_lt =>
      simp only [twoDigits?_eq_some_iff.2 hh, twoDigits?_eq_some_iff.2 hm,
        twoDigits?_eq_some_iff.2 hs, hn, Option.bind_some, TimeOfDay.isSome_of?_iff]
      exact ⟨hour_lt, minute_lt, second_lt, n_lt⟩

/-- The parts of a clock are digits, with colons between them or nothing. -/
theorem IsClock.of_mem_joined {parts : List (List Char)} (clock : IsClock parts) {colons : Bool}
    {c : Char} (hc : c ∈ joined ':' colons parts) : c = ':' ∨ c.isDigit = true := by
  have hdigits := clock.isDigits
  have hmem : c = ':' ∨ ∃ part ∈ parts, c ∈ part := by
    cases colons <;> cases clock <;> simp [joined] at hc ⊢ <;> tauto
  exact hmem.imp_right fun ⟨part, hpart, hc⟩ => (hdigits part hpart).2 c hc

theorem ReadsAsClock.plain {cs : List Char} {parts : List (List Char)} (h : ReadsAsClock cs parts) :
    ∀ c ∈ cs, c ≠ '.' ∧ c ≠ ',' := by
  cases h with
  | colons clock several =>
    intro c hc
    rcases clock.of_mem_joined hc with rfl | hdigit
    · decide
    · exact ⟨ne_of_isDigit hdigit rfl, ne_of_isDigit hdigit rfl⟩
  | cut clock cuts plain => exact fun c hc => (plain c hc).2

/-- **Which texts are read as times.** -/
theorem isSome_readTime?_iff {cs : List Char} : (readTime? cs).isSome ↔ ReadsAsTime cs := by
  constructor
  · intro h
    obtain ⟨clock, rest, rfl, hplain, hrest⟩ := exists_span (fun c => c != '.' && c != ',') cs
    have plain (c : Char) (hc : c ∈ clock) := ne_mark_iff.1 (hplain c hc)
    cases rest with
    | nil =>
      rw [List.append_nil] at h ⊢
      obtain ⟨parts, hclock⟩ := (isSome_readTime?_whole plain).1 h
      exact .whole hclock
    | cons mark f =>
      have hmark : mark = '.' ∨ mark = ',' := by
        by_contra hne
        exact Bool.false_ne_true ((hrest mark rfl).symm.trans (ne_mark_iff.2 (not_or.1 hne)))
      obtain ⟨h, m, s, hclock, hne, hdigits⟩ := (isSome_readTime?_fraction plain hmark).1 h
      exact .fraction hclock hmark hne hdigits
  · intro h
    cases h with
    | whole clock => exact (isSome_readTime?_whole clock.plain).2 ⟨_, clock⟩
    | fraction clock hmark ne digits =>
      exact (isSome_readTime?_fraction clock.plain hmark).2 ⟨_, _, _, clock, ne, digits⟩

/-! ## The texts of times among them -/

theorem joined_false {parts : List (List Char)} (clock : IsClock parts) :
    joined ':' false parts = parts.flatten := by
  cases clock <;> simp [joined]

theorem cutsTo_flatten {parts : List (List Char)}
    (h : ∀ part ∈ parts, part.length = 2 ∧ IsDigits part) : CutsTo parts.flatten parts := by
  induction parts with
  | nil => exact .nil
  | cons part parts ih =>
    obtain ⟨⟨hlength, hpart⟩, hparts⟩ := List.forall_mem_cons.1 h
    obtain ⟨a, b, rfl⟩ := List.length_eq_two.1 hlength
    exact .pair (hpart a (by simp)) (hpart b (by simp)) (ih hparts)

/-- Of a text of one-byte characters nothing is dropped. -/
theorem CutsTo.flatten_eq {cs : List Char} {parts : List (List Char)} (h : CutsTo cs parts)
    (hsize : ∀ c ∈ cs, c.utf8Size = 1) : parts.flatten = cs := by
  induction h with
  | nil => rfl
  | @pair a b cs parts _ _ _ ih =>
    have hrest : parts.flatten = cs := ih fun c hc => hsize c (by simp [hc])
    rw [List.flatten_cons, hrest]
    rfl
  | @wide c cs parts hc _ _ =>
    have hone := hsize c (by simp)
    omega
  | @within a b between cs parts _ hbetween _ long _ _ =>
    have hone := hsize a (by simp)
    have hone' := hsize b (by simp)
    obtain ⟨c, hc⟩ : ∃ c, c ∈ between := List.exists_mem_of_length_pos (by omega)
    have hone'' := hsize c (by simp [hc])
    have heven := hbetween c hc
    omega

theorem IsClock.readsAsClock {parts : List (List Char)} (clock : IsClock parts) (colons : Bool) :
    ReadsAsClock (joined ':' colons parts) parts := by
  have hcut : ReadsAsClock parts.flatten parts := by
    refine .cut clock (cutsTo_flatten clock.isDigits) fun c hc => ?_
    obtain ⟨part, hpart, hc⟩ := List.mem_flatten.1 hc
    have hdigit := (clock.isDigits part hpart).2 c hc
    exact ⟨ne_of_isDigit hdigit rfl, ne_of_isDigit hdigit rfl, ne_of_isDigit hdigit rfl⟩
  cases colons with
  | false => rwa [joined_false clock]
  | true =>
    cases clock with
    -- a lone hour is the same text with colons and without
    | @hour h _ hh hour_lt =>
      have hjoined : joined ':' true [h] = [h].flatten := by simp [joined]
      rwa [hjoined]
    | minute hh hour_lt hm minute_lt => exact .colons (.minute hh hour_lt hm minute_lt) (by simp)
    | second hh hour_lt hm minute_lt hs second_lt =>
      exact .colons (.second hh hour_lt hm minute_lt hs second_lt) (by simp)

/-- **The texts of times are read as times.** -/
theorem TimeText.readsAsTime {cs : List Char} (h : TimeText cs) : ReadsAsTime cs := by
  cases h with
  | whole colons clock => exact .whole (clock.readsAsClock colons)
  | fraction colons clock hmark ne digits =>
    exact .fraction (clock.readsAsClock colons) hmark ne digits

theorem ReadsAsClock.exists_joined {cs : List Char} {parts : List (List Char)}
    (h : ReadsAsClock cs parts) (hsize : ∀ c ∈ cs, c.utf8Size = 1) :
    IsClock parts ∧ ∃ colons, cs = joined ':' colons parts := by
  cases h with
  | colons clock several => exact ⟨clock, true, rfl⟩
  | cut clock cuts plain =>
    exact ⟨clock, false, (cuts.flatten_eq hsize).symm.trans (joined_false clock).symm⟩

/-- **A text of one-byte characters that is read as a time is the text of a time.** -/
theorem ReadsAsTime.timeText {cs : List Char} (h : ReadsAsTime cs)
    (hsize : ∀ c ∈ cs, c.utf8Size = 1) : TimeText cs := by
  cases h with
  | whole clock =>
    obtain ⟨hclock, colons, rfl⟩ := clock.exists_joined hsize
    exact .whole colons hclock
  | fraction clock hmark ne digits =>
    obtain ⟨hclock, colons, rfl⟩ := clock.exists_joined fun c hc => hsize c (by simp [hc])
    exact .fraction colons hclock hmark ne digits

/-- The characters of a time are digits, colons and the mark of a fraction. -/
theorem TimeText.of_mem {cs : List Char} (h : TimeText cs) {c : Char} (hc : c ∈ cs) :
    c = ':' ∨ c = '.' ∨ c = ',' ∨ c.isDigit = true := by
  cases h with
  | whole colons clock => rcases clock.of_mem_joined hc with h | h <;> simp [h]
  | fraction colons clock hmark _ digits =>
    rcases List.mem_append.1 hc with hc | hc
    · rcases clock.of_mem_joined hc with h | h <;> simp [h]
    · rcases List.mem_cons.1 hc with rfl | hc
      · rcases hmark with h | h <;> simp [h]
      · simp [digits c hc]

theorem TimeText.utf8Size_eq {cs : List Char} (h : TimeText cs) : ∀ c ∈ cs, c.utf8Size = 1 := by
  intro c hc
  rcases h.of_mem hc with rfl | rfl | rfl | hdigit
  · rfl
  · rfl
  · rfl
  · exact utf8Size_of_isDigit hdigit

/-- A time has at least the two digits of its hour. -/
theorem TimeText.two_le_length {cs : List Char} (h : TimeText cs) : 2 ≤ cs.length := by
  have hclock {parts : List (List Char)} (clock : IsClock parts) (colons : Bool) :
      2 ≤ (joined ':' colons parts).length := by
    cases clock with
    | hour hh => simp [joined, hh.length_eq]
    | minute hh => simp [joined, hh.length_eq]
    | second hh => simp [joined, hh.length_eq]
  cases h with
  | whole colons clock => exact hclock clock colons
  | fraction colons clock =>
    rw [List.length_append]
    exact Nat.le_add_right_of_le (hclock clock colons)

/-- What is cut from a text has two characters for each part. -/
theorem CutsTo.two_mul_length_le {cs : List Char} {parts : List (List Char)} (h : CutsTo cs parts) :
    2 * parts.length ≤ cs.length := by
  induction h with
  | nil => exact Nat.le_refl _
  | pair _ _ _ ih =>
    simp only [List.length_cons]
    omega
  | wide _ _ ih =>
    rw [List.length_cons]
    exact Nat.le_succ_of_le ih
  -- what is dropped shows in the length only
  | within _ _ _ _ _ ih =>
    simp only [List.length_cons, List.length_append]
    omega

theorem ReadsAsClock.two_le_length {cs : List Char} {parts : List (List Char)}
    (h : ReadsAsClock cs parts) : 2 ≤ cs.length := by
  cases h with
  | colons clock several => exact (TimeText.whole true clock).two_le_length
  | cut clock cuts _ =>
    have hlength := cuts.two_mul_length_le
    have hpos : 0 < parts.length := by cases clock <;> exact Nat.succ_pos _
    omega

theorem ReadsAsTime.two_le_length {cs : List Char} (h : ReadsAsTime cs) : 2 ≤ cs.length := by
  cases h with
  | whole clock => exact clock.two_le_length
  | fraction clock _ _ _ =>
    have hclock := clock.two_le_length
    rw [List.length_append]
    omega

end CustomFields.Calendar
