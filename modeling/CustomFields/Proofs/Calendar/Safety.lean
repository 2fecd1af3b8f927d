import CustomFields.Proofs.Calendar.CheckedDates

/-!
# The reader of dates is safe

The reader of `Calendar.Checked` has no fault, whatever the text is, and finds what is found on the
characters of the text. What an operation relies on has been looked at before: a mark that was found is
a character of one byte, so that a text may be cut before and behind it; a clock without parts is none;
of the digits of a fraction nine are taken, and scaled to nine.

## Main results

* `Calendar.Checked.nanoseconds_answers`, `Calendar.Checked.time_answers`,
  `Calendar.Checked.isTimeWithOffset_eq`: times and offsets are read without a fault
* `Calendar.Checked.parse_answers`: and so are texts of dates and times
* `Calendar.parseIsoDate?_isSafe`: the reader is safe
-/

namespace CustomFields.Calendar

-- Powers are those of the core library, whatever else is imported.
attribute [local instance (high)] instPowNat

open Decimal (IsDigits ofDigitChars_lt)
open Reader

namespace Checked

/-! ## Times -/

/-- **Digits of a fraction are scaled** without a fault: the power and the product are at most
`10 ^ 9`. -/
theorem nanoseconds_answers (f : List Char) : (nanoseconds f).Answers (nanoseconds? f) := by
  by_cases h : isDigits f = true
  · obtain ⟨hne, hf⟩ := isDigits_iff.1 h
    have hfirst : IsDigits (f.take 9) := fun c hc => hf c (List.mem_of_mem_take hc)
    have hne' : f.take 9 ≠ [] := by simp [hne]
    have hlength : (f.take 9).length ≤ 9 := List.length_take_le 9 f
    have hbytes := byteLength_of_isDigits hfirst
    have hslice : slice? f 0 (min (byteLength f) 9) = some (f.take 9) := by
      refine slice?_front_iff.2 ⟨f.drop 9, (List.take_append_drop 9 f).symm, ?_⟩
      rw [hbytes, List.length_take, byteLength_of_isDigits hf, Nat.min_comm]
    have hread := digits?_eq_some_iff.2 ⟨hne', hfirst, rfl⟩
    have hnumber : number? (f.take 9) = some (Nat.ofDigitChars 10 (f.take 9) 0) :=
      (number?_eq (hbytes.trans_le hlength)).trans hread
    have hpower : 10 ^ (9 - (f.take 9).length) ≤ 10 ^ (9 : ℕ) :=
      Nat.pow_le_pow_right (by decide) (Nat.sub_le _ _)
    have hscale : 10 ^ (f.take 9).length * 10 ^ (9 - (f.take 9).length) = 10 ^ (9 : ℕ) := by
      rw [← Nat.pow_add, Nat.add_sub_cancel' hlength]
    have hproduct : Nat.ofDigitChars 10 (f.take 9) 0 * 10 ^ (9 - (f.take 9).length) <
        10 ^ (9 : ℕ) := by
      rw [← hscale]
      exact Nat.mul_lt_mul_of_pos_right (ofDigitChars_lt hfirst) (Nat.pow_pos (by decide))
    have hword : (10 : ℕ) ^ (9 : ℕ) < 2 ^ (32 : ℕ) := by decide
    have hall := digits?_eq_some_iff.2 ⟨hne, hf, rfl⟩
    have hfound : nanoseconds? f = some
        (Nat.ofDigitChars 10 (f.take 9) 0 * 10 ^ (9 - (f.take 9).length)) := by
      simp [nanoseconds?, hall, hread]
    rw [nanoseconds, if_pos h, hfound, hslice, ask_some, pure_bind, hnumber, ask_some, pure_bind,
      hbytes, subtract_eq hlength, pure_bind, power, word_eq (hpower.trans_lt hword), pure_bind,
      multiply, word_eq (hproduct.trans hword)]
    exact answers_pure _
  · have hdigits : digits? f = none := by rw [digits?, ← isDigits_eq, if_neg h]
    have hfound : nanoseconds? f = none := by simp [nanoseconds?, hdigits]
    rw [nanoseconds, if_neg h, hfound]
    exact answers_failure

theorem parts?_eq (clock : List Char) : parts? clock = clockParts? clock := by
  rw [parts?, clockParts?]
  split
  · rfl
  · rw [byteLength]
    split
    · rename_i heven
      simp only [heven, if_true, slice?]
      rw [filterMap_windows heven]
    · rename_i hodd
      simp only [hodd, if_false]

/-- The mark of a fraction is found where the clock ends. -/
theorem splitFraction?_append {clock rest : List Char} (plain : ∀ c ∈ clock, c ≠ '.' ∧ c ≠ ',')
    (hmark : ∀ c ∈ rest.head?, c = '.' ∨ c = ',') :
    splitFraction? (clock ++ rest) = some (clock, rest.tail?) := by
  have hplain : ∀ c ∈ clock, (c == '.' || c == ',') = false := by simpa using plain
  cases rest with
  | nil =>
    rw [List.append_nil, splitFraction?, findByte?_eq_none hplain]
    rfl
  | cons mark f =>
    have hmark := hmark mark rfl
    have hsize : mark.utf8Size = 1 := by rcases hmark with rfl | rfl <;> rfl
    have hfront : slice? (clock ++ mark :: f) 0 (byteLength clock) = some clock :=
      slice?_front_iff.2 ⟨_, rfl, rfl⟩
    have hback : slice? (clock ++ mark :: f) (byteLength clock + 1)
        (byteLength (clock ++ mark :: f)) = some f := by
      refine slice?_back_iff.2 ⟨clock ++ [mark], List.append_cons clock mark f, ?_⟩
      rw [byteLength_append, byteLength_cons, hsize]
      rfl
    rw [splitFraction?, findByte?_append f hplain (by simpa using hmark)]
    simp only [hfront, hback]
    rfl

/-- A part of a clock has two bytes, and they are digits. -/
theorem twoDigits?_eq (part : List Char) :
    twoDigits? part = if byteLength part = 2 then number? part else none := by
  ext n
  rw [twoDigits?_eq_some_iff]
  split
  · rename_i h
    exact (number?_iff h (by decide)).symm
  · rename_i h
    exact iff_of_false (fun hn => h hn.byteLength_eq) nofun

/-- The time that the parts of a clock show, with or without digits of a fraction. -/
def readParts? : List (List Char) → Option (List Char) → Option TimeOfDay
  | [h], none => do TimeOfDay.of? (← twoDigits? h) 0 0 0
  | [h, m], none => do TimeOfDay.of? (← twoDigits? h) (← twoDigits? m) 0 0
  | [h, m, s], none => do TimeOfDay.of? (← twoDigits? h) (← twoDigits? m) (← twoDigits? s) 0
  | [h, m, s], some f => do
    TimeOfDay.of? (← twoDigits? h) (← twoDigits? m) (← twoDigits? s) (← nanoseconds? f)
  | _, _ => none

theorem readTime?_append {clock rest : List Char}
    (hclock : ∀ c ∈ clock, (c != '.' && c != ',') = true)
    (hrest : ∀ c ∈ rest.head?, (c != '.' && c != ',') = false) :
    readTime? (clock ++ rest) =
      (clockParts? clock).bind fun parts => readParts? parts rest.tail? := by
  rw [readTime?, span_append hclock hrest]
  rfl

/-- A part that is no number of two digits leaves nothing to be read. -/
theorem readParts?_of_mem {parts : List (List Char)} {part : List Char} (hmem : part ∈ parts)
    (hpart : twoDigits? part = none) (fraction : Option (List Char)) :
    readParts? parts fraction = none := by
  unfold readParts?
  split
  · obtain rfl := List.mem_singleton.1 hmem
    simp [hpart]
  · rw [List.mem_pair] at hmem
    rcases hmem with rfl | rfl <;> simp [hpart]
  · simp only [List.mem_cons, List.not_mem_nil, or_false] at hmem
    rcases hmem with rfl | rfl | rfl <;> simp [hpart]
  · simp only [List.mem_cons, List.not_mem_nil, or_false] at hmem
    rcases hmem with rfl | rfl | rfl <;> simp [hpart]
  · rfl

/-- A clock has one to three parts, and three if there is a fraction. -/
theorem readParts?_of_length {parts : List (List Char)} {fraction : Option (List Char)}
    (h : parts = [] ∨ 3 < parts.length ∨ fraction.isSome = true ∧ parts.length ≠ 3) :
    readParts? parts fraction = none := by
  unfold readParts?
  split <;> simp_all

/-- Parts that are left out are zero. -/
theorem readParts?_of_two {h : List Char} {rest : List (List Char)} {fraction : Option (List Char)}
    (htwo : ∀ part ∈ h :: rest, byteLength part = 2) (hfew : rest.length ≤ 2)
    (hwhole : fraction.isSome = true → rest.length = 2) :
    readParts? (h :: rest) fraction = number? h >>= fun hour =>
      part? (h :: rest) 1 >>= fun minute => part? (h :: rest) 2 >>= fun second =>
      fraction.elim (some 0) nanoseconds? >>= fun nanosecond =>
      TimeOfDay.of? hour minute second nanosecond := by
  have hdigits : ∀ part ∈ h :: rest, twoDigits? part = number? part := fun part hpart =>
    (twoDigits?_eq part).trans (if_pos (htwo part hpart))
  match rest, fraction with
  | [], none => simp_all [readParts?, part?]
  | [m], none => simp_all [readParts?, part?]
  | [m, s], none => simp_all [readParts?, part?]
  | [m, s], some f => simp_all [readParts?, part?]
  | [], some f => simp at hwhole
  | [m], some f => simp at hwhole
  | _ :: _ :: _ :: _, _ => simp at hfew

/-- **The parts of a clock are read** without a fault: there is one, and each of them has two
bytes. -/
theorem timeOfParts_answers (parts : List (List Char)) (fraction : Option (List Char)) :
    (timeOfParts parts fraction).Answers (readParts? parts fraction) := by
  have hfraction : (fraction.elim (pure 0) nanoseconds).Answers
      (fraction.elim (some 0) nanoseconds?) := by
    cases fraction with
    | none => exact answers_pure 0
    | some f => exact nanoseconds_answers f
  rw [timeOfParts]
  split
  · rename_i h
    have hnone : readParts? parts fraction = none := by
      simp only [Bool.or_eq_true, List.isEmpty_iff, decide_eq_true_eq, List.any_eq_true,
        bne_iff_ne] at h
      rcases h with (hnil | hmany) | ⟨part, hmem, hpart⟩
      · exact readParts?_of_length (.inl hnil)
      · exact readParts?_of_length (.inr (.inl hmany))
      · exact readParts?_of_mem hmem ((twoDigits?_eq part).trans (if_neg hpart)) fraction
    rw [hnone]
    exact answers_failure
  · rename_i hparts
    simp only [Bool.or_eq_true, List.isEmpty_iff, decide_eq_true_eq, List.any_eq_true, bne_iff_ne,
      not_or, not_exists, not_and, not_not] at hparts
    obtain ⟨⟨hne, hfew⟩, htwo⟩ := hparts
    split
    · rename_i h
      simp only [Bool.and_eq_true, bne_iff_ne] at h
      rw [readParts?_of_length (.inr (.inr h))]
      exact answers_failure
    · rename_i hwhole
      obtain ⟨h, rest, rfl⟩ := List.exists_cons_of_ne_nil hne
      have hthree : fraction.isSome = true → rest.length = 2 := by
        intro hsome
        simpa [hsome] using hwhole
      have hlength : rest.length ≤ 2 := by
        rw [List.length_cons] at hfew
        omega
      rw [readParts?_of_two htwo hlength hthree]
      exact (answers_ask _).bind fun hour _ => (answers_ask _).bind fun minute _ =>
        (answers_ask _).bind fun second _ => hfraction.bind fun n _ => answers_ask _

theorem time_answers (cs : List Char) : (time cs).Answers (readTime? cs) := by
  obtain ⟨clock, rest, rfl, hplain, hrest⟩ := exists_span (fun c => c != '.' && c != ',') cs
  have hsplit : splitFraction? (clock ++ rest) = some (clock, rest.tail?) := by
    refine splitFraction?_append (fun c hc => ne_mark_iff.1 (hplain c hc)) fun c hc => ?_
    by_contra hne
    exact Bool.false_ne_true ((hrest c hc).symm.trans (ne_mark_iff.2 (not_or.1 hne)))
  rw [time, readTime?_append hplain hrest, hsplit, ask_some, pure_bind]
  dsimp only
  rw [parts?_eq]
  exact (answers_ask _).bind fun parts _ => timeOfParts_answers parts _

theorem isTime_eq (cs : List Char) : isTime cs = .ok (readTime? cs).isSome := by
  have h : (time cs).run = .ok (readTime? cs) := time_answers cs
  rw [isTime, h]
  rfl

/-! ## Date-times -/

/-- A text is cut before the first character of an offset. -/
theorem splitAt_append (before behind : List Char) :
    splitAt (before ++ behind) (byteLength before) = .ok (before, behind) := by
  obtain ⟨hfront, hback⟩ := (@cut_iff (before ++ behind) before behind _).2 ⟨rfl, rfl⟩
  rw [splitAt, hfront, hback]

theorem splitOffset_append {clock offset : List Char} (plain : ∀ c ∈ clock, ¬StartsOffset c)
    (hstarts : ∀ c ∈ offset.head?, StartsOffset c) :
    splitOffset (clock ++ offset) = .ok (clock, offset) := by
  have hnone : ∀ c ∈ clock, (c == '+' || c == '-' || c == 'Z') = false := by
    simpa [StartsOffset, and_assoc] using plain
  cases offset with
  | nil =>
    rw [List.append_nil, splitOffset, findByte?_eq_none hnone]
    rfl
  | cons mark rest =>
    have hmark := hstarts mark rfl
    rw [splitOffset, findByte?_append rest hnone (by simpa [StartsOffset, or_assoc] using hmark)]
    exact splitAt_append clock (mark :: rest)

/-- Whether a text is read as an offset. -/
def readsOffset : List Char → Bool
  | [] => true
  | ['Z'] => true
  | _ :: rest => (readTime? rest).isSome

/-- Behind a first character of one byte the rest of an offset is a slice. -/
theorem isOffset_eq {offset : List Char} (hstarts : ∀ c ∈ offset.head?, StartsOffset c) :
    isOffset offset = .ok (readsOffset offset) := by
  cases offset with
  | nil => rfl
  | cons mark rest =>
    by_cases hzulu : mark :: rest = ['Z']
    · rw [hzulu]
      rfl
    · have hsize : mark.utf8Size = 1 := by
        rcases hstarts mark rfl with rfl | rfl | rfl <;> rfl
      have hslice : slice? (mark :: rest) 1 (byteLength (mark :: rest)) = some rest :=
        slice?_back_iff.2 ⟨[mark], rfl, by rw [byteLength_cons, hsize, byteLength_nil]⟩
      rw [isOffset.eq_3 _ (List.cons_ne_nil _ _) hzulu, hslice, Option.elim_some, isTime_eq,
        readsOffset.eq_3 _ _ (by simpa using hzulu)]

/-- **A time and an offset are told apart** without a fault. -/
theorem isTimeWithOffset_eq (cs : List Char) :
    isTimeWithOffset cs = .ok (Calendar.isTimeWithOffset cs) := by
  obtain ⟨clock, offset, rfl, hplain, hmark⟩ :=
    exists_span (fun c => c != '+' && c != '-' && c != 'Z') cs
  have plain : ∀ c ∈ clock, ¬StartsOffset c := fun c hc => not_startsOffset_iff.1 (hplain c hc)
  have hstarts : ∀ c ∈ offset.head?, StartsOffset c := fun c hc =>
    not_not.1 (mt not_startsOffset_iff.2 (Bool.eq_false_iff.1 (hmark c hc)))
  have hread : Calendar.isTimeWithOffset (clock ++ offset) =
      ((readTime? clock).isSome && readsOffset offset) := by
    rw [Calendar.isTimeWithOffset, span_append hplain hmark]
    rfl
  rw [hread, isTimeWithOffset, splitOffset_append plain hstarts]
  show (isTime clock >>= fun b => if b = true then isOffset offset else pure false) = _
  rw [isTime_eq, isOffset_eq hstarts]
  cases (readTime? clock).isSome <;> rfl

section DateTimes

variable (range : DayRange)

/-- **What stands behind a date part is a time, or nothing.** -/
theorem withDatePart_answers (cs : List Char) (length : ℕ) :
    (withDatePart range cs length).Answers (readWithDatePart? cs length) := by
  have hanswer : (withDatePart range cs length).Answers
      (slice? cs 0 length >>= fun part => readDatePart? part >>= fun date =>
        slice? cs length (byteLength cs) >>= fun rest =>
        if rest.isEmpty || Calendar.isTimeWithOffset rest.tail then some date else none) := by
    refine (answers_ask _).bind fun part _ => (datePart_answers range part).bind fun date _ =>
      (answers_ask _).bind fun rest _ => ?_
    cases rest with
    | nil => exact answers_pure date
    | cons separator time =>
      dsimp only
      rw [isTimeWithOffset_eq, List.isEmpty_cons, Bool.false_or, List.tail_cons]
      cases Calendar.isTimeWithOffset time
      · exact answers_failure
      · exact answers_pure date
  suffices heq : _ = readWithDatePart? cs length from heq ▸ hanswer
  ext date
  simp only [Option.bind_eq_bind, Option.bind_eq_some_iff, readWithDatePart?_eq_some_iff,
    readDatePart?_eq_some_iff]
  constructor
  · rintro ⟨part, hpart, date', hdate, rest, hrest, hfound⟩
    obtain ⟨rfl, hlength⟩ := cut_iff.1 ⟨hpart, hrest⟩
    rw [hdate.byteLength_eq] at hlength
    cases rest with
    | nil =>
      obtain rfl := Option.some.inj hfound
      exact ⟨part, hlength, hdate, [], rfl, .absent⟩
    | cons separator time =>
      rw [List.isEmpty_cons, Bool.false_or, List.tail_cons] at hfound
      split at hfound
      · rename_i htime
        obtain rfl := Option.some.inj hfound
        exact ⟨part, hlength, hdate, _, rfl, rest_cons_iff.2 htime⟩
      · cases hfound
  · rintro ⟨part, rfl, hdate, rest, rfl, hrest⟩
    obtain ⟨hfront, hback⟩ := (@cut_iff (part ++ rest) part rest _).2 ⟨rfl, hdate.byteLength_eq⟩
    refine ⟨part, hfront, date, hdate, rest, hback, ?_⟩
    cases rest with
    | nil => rfl
    | cons separator time => exact if_pos (rest_cons_iff.1 hrest)

theorem firstM_answers {α β : Type} {f : α → Reader β} {g : α → Option β}
    (h : ∀ a, (f a).Answers (g a)) (as : List α) : (as.firstM f).Answers (as.findSome? g) := by
  induction as with
  | nil => exact answers_failure
  | cons a as ih =>
    have hor : (a :: as).findSome? g = (g a <|> as.findSome? g) := by
      rw [List.findSome?_cons]
      cases g a <;> rfl
    rw [hor]
    exact (h a).orElse ih

/-- **The date of a text is read** without a fault. -/
theorem parse_answers (s : String) : (parse range s.toList).Answers (parseIsoDate? s) :=
  firstM_answers (withDatePart_answers range s.toList) datePartLengths

end DateTimes

end Checked

/-- **The reader of dates is safe.** With all its operations as they are, on the bytes of any text,
the reader has no fault, nor has any of those that it is made of, and they find what is found on the
characters: no text is cut within a character or behind its end, the list of the parts of a clock is
not empty where the first one is taken, no difference is negative, no number has more than 32 bits, and
the days of a week are days of the calendar. The digits of a fraction give less than a second. The
dates that are found lie between 1 January of the year 0 and 2 January of the year 10000. -/
theorem parseIsoDate?_isSafe (range : DayRange) :
    (∀ s : String, (Checked.parse range s.toList).run = .ok (parseIsoDate? s)) ∧
    (∀ cs length, (Checked.withDatePart range cs length).run =
      .ok (readWithDatePart? cs length)) ∧
    (∀ cs, (Checked.datePart range cs).run = .ok (readDatePart? cs)) ∧
    (∀ cs, (Checked.weekDate range cs).run = .ok (readWeekDate? cs)) ∧
    (∀ cs, Checked.isTimeWithOffset cs = .ok (isTimeWithOffset cs)) ∧
    (∀ cs, (Checked.time cs).run = .ok (readTime? cs)) ∧
    (∀ fraction, (Checked.nanoseconds fraction).run = .ok (nanoseconds? fraction)) ∧
    (∀ fraction n, nanoseconds? fraction = some n → n < 10 ^ (9 : ℕ)) ∧
    ∀ s date, parseIsoDate? s = some date →
      (Date.compare ⟨0, 1, 1⟩ date).isLE = true ∧ (date.compare ⟨10000, 1, 2⟩).isLE = true := by
  refine ⟨Checked.parse_answers range, Checked.withDatePart_answers range,
    Checked.datePart_answers range, Checked.weekDate_answers range, Checked.isTimeWithOffset_eq,
    Checked.time_answers, Checked.nanoseconds_answers, fun f n hn => ?_, fun s date hdate => ?_⟩
  · obtain ⟨v, hv, -⟩ := Option.bind_eq_some_iff.1 hn
    obtain ⟨hne, hf, -⟩ := digits?_eq_some_iff.1 hv
    obtain ⟨n', hlt, hn'⟩ := exists_nanoseconds? hne hf
    obtain rfl := Option.some.inj (hn.symm.trans hn')
    exact hlt
  · obtain ⟨part, hpart, -⟩ := parseIsoDate?_eq_some_iff.1 hdate
    exact hpart.names.mem

/-- A calendar of more than 500000 years. -/
def longRange : DayRange where
  first := Date.daysBeforeYear (-262143)
  last := Date.daysBeforeYear 262143 - 1
  first_le := by decide
  le_last := by decide

/-- The last week of the year 9999 ends with the last date of all, and more than nine digits of a
fraction are no more than nine of them. -/
theorem parseIsoDate?_isSafe_lastWeek :
    (Checked.parse longRange "9999-W52-7T23:59:59.99999999999Z".toList).run =
        .ok (some ⟨10000, 1, 2⟩) ∧
      nanoseconds? "99999999999".toList = some 999999999 ∧ 999999999 < 10 ^ (9 : ℕ) ∧
      (Date.compare ⟨0, 1, 1⟩ ⟨10000, 1, 2⟩).isLE = true ∧
      (Date.compare ⟨10000, 1, 2⟩ ⟨10000, 1, 2⟩).isLE = true := by
  have hdate : parseIsoDate? "9999-W52-7T23:59:59.99999999999Z" = some ⟨10000, 1, 2⟩ := by decide
  have hnumber : nanoseconds? "99999999999".toList = some 999999999 := by decide
  obtain ⟨hparse, -, -, -, -, -, -, hlt, hmem⟩ := parseIsoDate?_isSafe longRange
  exact ⟨(hparse _).trans (congrArg Except.ok hdate), hnumber, hlt _ _ hnumber, hmem _ _ hdate⟩

end CustomFields.Calendar
