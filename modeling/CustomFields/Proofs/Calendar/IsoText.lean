import CustomFields.Calendar.IsoText
import CustomFields.Proofs.Calendar.Clock
import CustomFields.Proofs.Calendar.Week

/-!
# Reading dates in ISO 8601 texts

A text of a date and a time can be read in several ways: the character behind a week may be a
separator or start the weekday, and a digit of the time may stand as a separator itself. The reading
with the longest date part is taken. It is one of the texts of dates and times wherever any reading
is: a longer date part takes at most two digits of the time, and what it leaves of the time is cut as
before, since all of it is of one-byte characters.

A text that has no such reading may be read still. What is read as a time is more than the texts of
times, and what is read as an offset is any time behind a sign or a `Z`.

## Main definitions

* `Calendar.DateText`: the texts of dates
* `Calendar.IsIsoText`: the texts of dates and times, with their date part
* `Calendar.ReadsAsIsoText`: the texts that are read as such

## Main results

* `Calendar.readDatePart?_eq_some_iff`: the date parts are the texts of dates
* `Calendar.parseIsoDate?_eq_some_iff`: which texts have a date, and which it is
* `Calendar.IsIsoText.of_longer`: a longer date part of a text of a date and a time
* `Calendar.parseIsoDate?_of_isIsoText`: texts of dates and times are read
-/

namespace CustomFields.Calendar

open Decimal (IsDigits)

/-! ## Date parts -/

/-- The texts of dates: a day of a month, the Monday of a week or a day of a week. -/
inductive DateText : List Char → Date → Prop
  | day (hyphens : Bool) {y m d : List Char} {year month day : ℕ} (hy : IsNumber 4 y year)
    (hm : IsNumber 2 m month) (hd : IsNumber 2 d day) (isDate : Date.IsDate ⟨year, month, day⟩) :
    DateText (joined '-' hyphens [y, m, d]) ⟨year, month, day⟩
  | week (hyphens : Bool) {y w : List Char} {year week : ℕ} {date : Date} (hy : IsNumber 4 y year)
    (hw : IsNumber 2 w week) (hdate : date.IsWeekDate year week 1) :
    DateText (joined '-' hyphens [y, 'W' :: w]) date
  | weekday (hyphens : Bool) {y w d : List Char} {year week weekday : ℕ} {date : Date}
    (hy : IsNumber 4 y year) (hw : IsNumber 2 w week) (hd : IsNumber 1 d weekday)
    (hdate : date.IsWeekDate year week weekday) :
    DateText (joined '-' hyphens [y, 'W' :: w, d]) date

theorem IsNumber.eq_single {cs : List Char} {n : ℕ} (h : IsNumber 1 cs n) :
    ∃ a, cs = [a] ∧ a.isDigit = true := by
  obtain ⟨a, rfl⟩ := List.length_eq_one_iff.1 h.length_eq
  exact ⟨a, rfl, h.digits a (by simp)⟩

theorem IsNumber.eq_four {cs : List Char} {n : ℕ} (h : IsNumber 4 cs n) :
    ∃ a b c d, cs = [a, b, c, d] := by
  match cs, h.length_eq with
  | [a, b, c, d], _ => exact ⟨a, b, c, d, rfl⟩

theorem dateText_of_readWeekDate? {cs : List Char} {date : Date}
    (h : readWeekDate? cs = some date) : DateText cs date := by
  unfold readWeekDate? at h
  split at h
  · simp only [Option.bind_eq_bind, Option.bind_eq_some_iff, Prod.exists] at h
    obtain ⟨year, hy, week, weekday, hrest, hdate⟩ := h
    have hy := isNumber_of_digits? hy
    have hdate := Date.ofWeek?_eq_some_iff.1 hdate
    -- with hyphens first, then without, and each of them without a weekday and with one
    unfold readWeekAndDay? at hrest
    split at hrest
    · simp [Option.bind_eq_some_iff] at hrest
      obtain ⟨hw, rfl⟩ := hrest
      exact .week true hy (isNumber_of_digits? hw) hdate
    · simp [Option.bind_eq_some_iff] at hrest
      exact .weekday true hy (isNumber_of_digits? hrest.1) (isNumber_of_digits? hrest.2) hdate
    · simp [Option.bind_eq_some_iff] at hrest
      obtain ⟨hw, rfl⟩ := hrest
      exact .week false hy (isNumber_of_digits? hw) hdate
    · simp [Option.bind_eq_some_iff] at hrest
      exact .weekday false hy (isNumber_of_digits? hrest.1) (isNumber_of_digits? hrest.2) hdate
    · cases hrest
  · cases h

theorem dateText_of_readDatePart? {cs : List Char} {date : Date}
    (h : readDatePart? cs = some date) : DateText cs date := by
  unfold readDatePart? at h
  split at h
  · simp only [Option.bind_eq_bind, Option.bind_eq_some_iff] at h
    obtain ⟨year, hy, month, hm, day, hd, hdate⟩ := h
    obtain ⟨rfl, isDate⟩ := Date.of?_eq_some_iff.1 hdate
    exact .day true (isNumber_of_digits? hy) (isNumber_of_digits? hm) (isNumber_of_digits? hd)
      isDate
  · split at h
    · simp only [Option.bind_eq_bind, Option.bind_eq_some_iff] at h
      obtain ⟨year, hy, month, hm, day, hd, hdate⟩ := h
      obtain ⟨rfl, isDate⟩ := Date.of?_eq_some_iff.1 hdate
      exact .day false (isNumber_of_digits? hy) (isNumber_of_digits? hm) (isNumber_of_digits? hd)
        isDate
    · exact dateText_of_readWeekDate? h
  · exact dateText_of_readWeekDate? h

/-- A text with a `W` is read as a week date, unless it has the hyphen before a day. -/
theorem readDatePart?_eq_readWeekDate? {cs : List Char} (hweek : 'W' ∈ cs)
    (hhyphen : cs[7]? ≠ some '-') : readDatePart? cs = readWeekDate? cs := by
  unfold readDatePart?
  split
  · exact absurd rfl hhyphen
  · refine if_neg fun hall => ?_
    exact Bool.false_ne_true (List.all_eq_true.1 hall _ hweek)
  · rfl

/-- A week date is read with its weekday, which is Monday where none is written. -/
theorem readWeekDate?_append {y rest : List Char} {year week weekday : ℕ}
    (hy : IsNumber 4 y year) (hrest : readWeekAndDay? rest = some (week, weekday)) :
    readWeekDate? (y ++ rest) = Date.ofWeek? year week weekday := by
  have hyear := hy.digits?_eq four_pos
  obtain ⟨a, b, c, d, rfl⟩ := hy.eq_four
  simp only [List.cons_append, List.nil_append, readWeekDate?, hyear, hrest]
  rfl

theorem readDatePart?_day {hyphens : Bool} {y m d : List Char} {year month day : ℕ}
    (hy : IsNumber 4 y year) (hm : IsNumber 2 m month) (hd : IsNumber 2 d day) :
    readDatePart? (joined '-' hyphens [y, m, d]) = Date.of? year month day := by
  have hall : ∀ c ∈ y ++ (m ++ d), c.isDigit = true := by
    simp only [List.mem_append]
    rintro c (hc | hc | hc)
    exacts [hy.digits c hc, hm.digits c hc, hd.digits c hc]
  have hyear := hy.digits?_eq four_pos
  have hmonth := hm.digits?_eq two_pos
  have hday := hd.digits?_eq two_pos
  obtain ⟨a, b, c, d, rfl⟩ := hy.eq_four
  obtain ⟨e, f, rfl, -⟩ := hm.eq_pair
  obtain ⟨g, h, rfl, -⟩ := hd.eq_pair
  cases hyphens with
  | true =>
    show (do Date.of? (← digits? [a, b, c, d]) (← digits? [e, f]) (← digits? [g, h])) = _
    rw [hyear, hmonth, hday]
    rfl
  | false =>
    have hjoined : joined '-' false [[a, b, c, d], [e, f], [g, h]] = [a, b, c, d, e, f, g, h] := rfl
    have hdigits : [a, b, c, d, e, f, g, h].all Char.isDigit = true := List.all_eq_true.2 hall
    rw [hjoined, readDatePart?, if_pos hdigits, hyear, hmonth, hday]
    rfl

theorem readDatePart?_week {hyphens : Bool} {y w : List Char} {year week : ℕ}
    (hy : IsNumber 4 y year) (hw : IsNumber 2 w week) :
    readDatePart? (joined '-' hyphens [y, 'W' :: w]) = Date.ofWeek? year week 1 := by
  have hweek := hw.digits?_eq two_pos
  have hlength := hy.length_eq
  obtain ⟨e, f, rfl, -, hf⟩ := hw.eq_pair
  have hend : f ≠ '-' := ne_of_isDigit hf rfl
  cases hyphens with
  | true =>
    have hjoined : joined '-' true [y, 'W' :: [e, f]] = y ++ ['-', 'W', e, f] := rfl
    rw [hjoined, readDatePart?_eq_readWeekDate? (by simp) (by simp [hlength, hend])]
    exact readWeekDate?_append hy (by simp [readWeekAndDay?, hweek])
  | false =>
    have hjoined : joined '-' false [y, 'W' :: [e, f]] = y ++ ['W', e, f] := rfl
    rw [hjoined, readDatePart?_eq_readWeekDate? (by simp) (by simp [hlength])]
    exact readWeekDate?_append hy (by simp [readWeekAndDay?, hweek])

theorem readDatePart?_weekday {hyphens : Bool} {y w d : List Char} {year week weekday : ℕ}
    (hy : IsNumber 4 y year) (hw : IsNumber 2 w week) (hd : IsNumber 1 d weekday) :
    readDatePart? (joined '-' hyphens [y, 'W' :: w, d]) = Date.ofWeek? year week weekday := by
  have hweek := hw.digits?_eq two_pos
  have hday := hd.digits?_eq one_pos
  have hlength := hy.length_eq
  obtain ⟨e, f, rfl, -, hf⟩ := hw.eq_pair
  obtain ⟨g, rfl, hg⟩ := hd.eq_single
  have hend : f ≠ '-' := ne_of_isDigit hf rfl
  have hend' : g ≠ '-' := ne_of_isDigit hg rfl
  cases hyphens with
  | true =>
    have hjoined : joined '-' true [y, 'W' :: [e, f], [g]] = y ++ ['-', 'W', e, f, '-', g] := rfl
    rw [hjoined, readDatePart?_eq_readWeekDate? (by simp) (by simp [hlength, hend])]
    exact readWeekDate?_append hy (by simp [readWeekAndDay?, hweek, hday])
  | false =>
    have hjoined : joined '-' false [y, 'W' :: [e, f], [g]] = y ++ ['W', e, f, g] := rfl
    rw [hjoined, readDatePart?_eq_readWeekDate? (by simp) (by simp [hlength, hend'])]
    exact readWeekDate?_append hy (by simp [readWeekAndDay?, hweek, hday])

theorem DateText.readDatePart?_eq {cs : List Char} {date : Date} (h : DateText cs date) :
    readDatePart? cs = some date := by
  cases h with
  | day hyphens hy hm hd isDate =>
    exact (readDatePart?_day hy hm hd).trans (Date.of?_eq_some_iff.2 ⟨rfl, isDate⟩)
  | week hyphens hy hw hdate =>
    exact (readDatePart?_week hy hw).trans (Date.ofWeek?_eq_some_iff.2 hdate)
  | weekday hyphens hy hw hd hdate =>
    exact (readDatePart?_weekday hy hw hd).trans (Date.ofWeek?_eq_some_iff.2 hdate)

/-- **The date parts** are the texts of dates. -/
theorem readDatePart?_eq_some_iff {cs : List Char} {date : Date} :
    readDatePart? cs = some date ↔ DateText cs date :=
  ⟨dateText_of_readDatePart?, DateText.readDatePart?_eq⟩

/-- A text of a date names no other date. -/
theorem DateText.unique {cs : List Char} {a b : Date} (ha : DateText cs a) (hb : DateText cs b) :
    a = b :=
  Option.some.inj (ha.readDatePart?_eq.symm.trans hb.readDatePart?_eq)

/-- What stands behind the year tells the lengths of dates apart. -/
theorem DateText.length_and_mark {cs : List Char} {date : Date} (h : DateText cs date) :
    (cs.length = 10 ∧ cs[4]? = some '-') ∨ cs.length = 8 ∨ (cs.length = 7 ∧ cs[4]? = some 'W') := by
  cases h with
  | day hyphens hy hm hd _ =>
    cases hyphens <;> simp [joined, hy.length_eq, hm.length_eq, hd.length_eq]
  | week hyphens hy hw _ => cases hyphens <;> simp [joined, hy.length_eq, hw.length_eq]
  | weekday hyphens hy hw hd _ =>
    cases hyphens <;> simp [joined, hy.length_eq, hw.length_eq, hd.length_eq]

theorem DateText.length_mem {cs : List Char} {date : Date} (h : DateText cs date) :
    cs.length ∈ datePartLengths := by
  rcases h.length_and_mark with ⟨h, -⟩ | h | ⟨h, -⟩ <;> simp [datePartLengths, h]

/-! ## What stands behind them -/

/-- The characters that an offset starts with. -/
def StartsOffset (c : Char) : Prop := c = '+' ∨ c = '-' ∨ c = 'Z'

/-- The texts of offsets: none, `Z`, or a sign before hours or hours and minutes. -/
inductive OffsetText : List Char → Prop
  | absent : OffsetText []
  | zulu : OffsetText ['Z']
  | signed {sign : Char} (hsign : sign = '+' ∨ sign = '-') (colons : Bool)
    {parts : List (List Char)} (clock : IsClock parts) (short : parts.length ≤ 2) :
    OffsetText (sign :: joined ':' colons parts)

/-- The texts that are read as offsets: behind a sign or a `Z` any time of day is read. -/
inductive ReadsAsOffset : List Char → Prop
  | absent : ReadsAsOffset []
  | zulu : ReadsAsOffset ['Z']
  | time {mark : Char} (hmark : StartsOffset mark) {cs : List Char} (time : ReadsAsTime cs) :
    ReadsAsOffset (mark :: cs)

/-- Nothing, or one character whichever it is, a time and an offset. -/
inductive Rest (Time Offset : List Char → Prop) : List Char → Prop
  | absent : Rest Time Offset []
  | time (separator : Char) {time offset : List Char} (htime : Time time)
    (hoffset : Offset offset) : Rest Time Offset (separator :: (time ++ offset))

/-- A time ends before the first character that an offset starts with. -/
def ReadsAsUnsignedTime (cs : List Char) : Prop :=
  ReadsAsTime cs ∧ ∀ c ∈ cs, ¬ StartsOffset c

/-- A text is a date part, which names a date, and something behind it. -/
structure IsReading (Behind : List Char → Prop) (cs part : List Char) (date : Date) : Prop where
  names : DateText part date
  behind : ∃ rest, cs = part ++ rest ∧ Behind rest

/-- A text of a date, or of a date and a time, with the date part that it is read with. -/
def IsIsoText : List Char → List Char → Date → Prop :=
  IsReading (Rest TimeText OffsetText)

/-- A text that is read as such a text. -/
def ReadsAsIsoText : List Char → List Char → Date → Prop :=
  IsReading (Rest ReadsAsUnsignedTime ReadsAsOffset)

theorem not_startsOffset_iff {c : Char} :
    (c != '+' && c != '-' && c != 'Z') = true ↔ ¬ StartsOffset c := by
  simp [StartsOffset, and_assoc]

theorem ReadsAsOffset.head {offset : List Char} (h : ReadsAsOffset offset) :
    ∀ c ∈ offset.head?, (c != '+' && c != '-' && c != 'Z') = false := by
  cases h with
  | absent => simp
  | zulu => simp
  | time hmark _ =>
    intro c hc
    obtain rfl := Option.some.inj hc
    exact Bool.eq_false_iff.2 (mt not_startsOffset_iff.1 (not_not.2 hmark))

theorem span_offset {time offset : List Char} (htime : ∀ c ∈ time, ¬ StartsOffset c)
    (hoffset : ReadsAsOffset offset) :
    (time ++ offset).span (fun c => c != '+' && c != '-' && c != 'Z') = (time, offset) :=
  span_append (fun c hc => not_startsOffset_iff.2 (htime c hc)) hoffset.head

theorem isTimeWithOffset_iff {cs : List Char} :
    isTimeWithOffset cs = true ↔
      ∃ time offset, cs = time ++ offset ∧ ReadsAsUnsignedTime time ∧ ReadsAsOffset offset := by
  constructor
  · intro h
    obtain ⟨time, offset, rfl, hplain, hmark⟩ :=
      exists_span (fun c => c != '+' && c != '-' && c != 'Z') cs
    simp only [isTimeWithOffset, span_append hplain hmark, Bool.and_eq_true,
      isSome_readTime?_iff] at h
    obtain ⟨htime, hoffset⟩ := h
    refine ⟨time, offset, rfl, ⟨htime, fun c hc => not_startsOffset_iff.1 (hplain c hc)⟩, ?_⟩
    split at hoffset
    · exact .absent
    · exact .zulu
    · rename_i mark rest _
      have hstarts : StartsOffset mark :=
        not_not.1 (mt not_startsOffset_iff.2 (Bool.eq_false_iff.1 (hmark mark rfl)))
      exact .time hstarts (isSome_readTime?_iff.1 hoffset)
  · rintro ⟨time, offset, rfl, ⟨htime, hplain⟩, hoffset⟩
    simp only [isTimeWithOffset, span_offset hplain hoffset, Bool.and_eq_true]
    refine ⟨isSome_readTime?_iff.2 htime, ?_⟩
    split
    · rfl
    · rfl
    · rename_i hlone
      cases hoffset with
      | zulu => exact (hlone rfl rfl).elim
      | time _ htime => exact isSome_readTime?_iff.2 htime

/-- One character is dropped before a time. -/
theorem rest_cons_iff {separator : Char} {cs : List Char} :
    Rest ReadsAsUnsignedTime ReadsAsOffset (separator :: cs) ↔ isTimeWithOffset cs = true := by
  rw [isTimeWithOffset_iff]
  constructor
  · rintro ⟨⟩
    exact ⟨_, _, rfl, ‹_›, ‹_›⟩
  · rintro ⟨time, offset, rfl, htime, hoffset⟩
    exact .time separator htime hoffset

theorem readWithDatePart?_eq_some_iff {cs : List Char} {length : ℕ} {date : Date} :
    readWithDatePart? cs length = some date ↔
      ∃ part, part.length = length ∧ ReadsAsIsoText cs part date := by
  unfold readWithDatePart?
  constructor
  · intro h
    split at h
    · cases h
    · rename_i hlong
      obtain ⟨date', hdate, hrest⟩ := Option.bind_eq_some_iff.1 h
      have hnames := dateText_of_readDatePart? hdate
      have hcs := List.take_append_drop length cs
      refine ⟨cs.take length, List.length_take_of_le (not_lt.1 hlong), ?_⟩
      split at hrest
      · rename_i hdrop
        obtain rfl := Option.some.inj hrest
        exact ⟨hnames, _, (hdrop ▸ hcs).symm, .absent⟩
      · rename_i separator time hdrop
        split at hrest
        · rename_i htime
          obtain rfl := Option.some.inj hrest
          exact ⟨hnames, _, (hdrop ▸ hcs).symm, rest_cons_iff.2 htime⟩
        · cases hrest
  · rintro ⟨part, rfl, hnames, rest, rfl, hrest⟩
    rw [if_neg (by simp), List.take_left, List.drop_left, hnames.readDatePart?_eq]
    cases rest with
    | nil => rfl
    | cons separator time => exact if_pos (rest_cons_iff.1 hrest)

/-! ## The longest date part -/

theorem IsReading.part_eq {Behind Behind' : List Char → Prop} {cs part part' : List Char}
    {date date' : Date} (h : IsReading Behind cs part date) (h' : IsReading Behind' cs part' date')
    (hlength : part.length = part'.length) : part = part' := by
  obtain ⟨rest, rfl, -⟩ := h.behind
  obtain ⟨rest', hcs, -⟩ := h'.behind
  exact List.append_inj_left hcs hlength

/-- The reader goes from the longest date parts to the shortest. -/
theorem parseIsoDate?_of_longest {s : String} {part : List Char} {date : Date}
    (hpart : ReadsAsIsoText s.toList part date)
    (hlongest : ∀ part' date', ReadsAsIsoText s.toList part' date' → part'.length ≤ part.length) :
    parseIsoDate? s = some date := by
  have hsorted : datePartLengths.Pairwise (· > ·) := by decide
  obtain ⟨longer, shorter, hlengths⟩ := List.append_of_mem hpart.names.length_mem
  refine List.findSome?_eq_some_iff.2 ⟨longer, _, shorter, hlengths,
    readWithDatePart?_eq_some_iff.2 ⟨part, rfl, hpart⟩, fun length hlength => ?_⟩
  rw [Option.eq_none_iff_forall_ne_some]
  intro date' hfound
  obtain ⟨part', rfl, hpart'⟩ := readWithDatePart?_eq_some_iff.1 hfound
  -- what is tried before the longest reading is longer, so that nothing is read with it
  rw [hlengths] at hsorted
  have hlt := (List.pairwise_append.1 hsorted).2.2 _ hlength _ List.mem_cons_self
  exact absurd (hlongest part' date' hpart') (not_le.2 hlt)

/-- Of the readings of a text one has the longest date part. -/
theorem exists_longest_reading {cs part : List Char} {date : Date}
    (h : ReadsAsIsoText cs part date) :
    ∃ part date, ReadsAsIsoText cs part date ∧
      ∀ part' date', ReadsAsIsoText cs part' date' → part'.length ≤ part.length := by
  let lengths : Set ℕ := {n | ∃ part date, part.length = n ∧ ReadsAsIsoText cs part date}
  have hbounded : BddAbove lengths := by
    refine ⟨10, ?_⟩
    rintro n ⟨part, date, rfl, hpart⟩
    rcases hpart.names.length_and_mark with h | h | h <;> omega
  have hnonempty : lengths.Nonempty := ⟨_, part, date, rfl, h⟩
  obtain ⟨part, date, hlength, hpart⟩ := Nat.sSup_mem hnonempty hbounded
  refine ⟨part, date, hpart, fun part' date' hpart' => ?_⟩
  rw [hlength]
  exact le_csSup hbounded ⟨part', date', rfl, hpart'⟩

/-- **The texts with a date** are those that can be read as a date part with a time behind it, and
the date is the one of the longest such part. -/
theorem parseIsoDate?_eq_some_iff {s : String} {date : Date} :
    parseIsoDate? s = some date ↔
      ∃ part, ReadsAsIsoText s.toList part date ∧
        ∀ part' date', ReadsAsIsoText s.toList part' date' → part'.length ≤ part.length := by
  constructor
  · intro h
    obtain ⟨length, -, hfound⟩ := List.exists_of_findSome?_eq_some h
    obtain ⟨_, -, hread⟩ := readWithDatePart?_eq_some_iff.1 hfound
    obtain ⟨part, date', hpart, hlongest⟩ := exists_longest_reading hread
    obtain rfl := Option.some.inj (h.symm.trans (parseIsoDate?_of_longest hpart hlongest))
    exact ⟨part, hpart, hlongest⟩
  · rintro ⟨part, hpart, hlongest⟩
    exact parseIsoDate?_of_longest hpart hlongest

/-! ## The texts of dates and times -/

theorem OffsetText.readsAsOffset {cs : List Char} (h : OffsetText cs) : ReadsAsOffset cs := by
  cases h with
  | absent => exact .absent
  | zulu => exact .zulu
  | signed hsign colons clock =>
    exact .time (hsign.imp_right .inl) (TimeText.whole colons clock).readsAsTime

theorem TimeText.readsAsUnsignedTime {cs : List Char} (h : TimeText cs) :
    ReadsAsUnsignedTime cs := by
  refine ⟨h.readsAsTime, fun c hc => ?_⟩
  rcases h.of_mem hc with rfl | rfl | rfl | hdigit
  · simp [StartsOffset]
  · simp [StartsOffset]
  · simp [StartsOffset]
  · rintro (rfl | rfl | rfl) <;> exact Bool.false_ne_true hdigit

theorem IsIsoText.readsAsIsoText {cs part : List Char} {date : Date}
    (h : IsIsoText cs part date) : ReadsAsIsoText cs part date := by
  obtain ⟨hnames, rest, rfl, hrest⟩ := h
  refine ⟨hnames, rest, rfl, ?_⟩
  cases hrest with
  | absent => exact .absent
  | time separator htime hoffset =>
    exact .time separator htime.readsAsUnsignedTime hoffset.readsAsOffset

/-- A time and an offset fall apart in one way. -/
theorem time_and_offset_unique {time offset time' offset' : List Char}
    (htime : ∀ c ∈ time, ¬ StartsOffset c) (hoffset : ReadsAsOffset offset)
    (htime' : ∀ c ∈ time', ¬ StartsOffset c) (hoffset' : ReadsAsOffset offset')
    (h : time ++ offset = time' ++ offset') : time = time' ∧ offset = offset' := by
  have hspan := span_offset htime hoffset
  rw [h, span_offset htime' hoffset'] at hspan
  simpa [eq_comm] using hspan

/-- A date part that starts with another one is at most two characters longer. One of them is the
separator of the shorter reading. -/
theorem DateText.length_le_of_append {part more : List Char} {date date' : Date}
    (h : DateText part date) (h' : DateText (part ++ more) date') : more.length ≤ 2 := by
  have hlength : (part ++ more).length = part.length + more.length := List.length_append
  rcases h.length_and_mark with ⟨h, -⟩ | h | ⟨h, hmark⟩ <;>
    rcases h'.length_and_mark with ⟨h', hmark'⟩ | h' | ⟨h', -⟩
  all_goals try omega
  rw [List.getElem?_append_left (by omega), hmark] at hmark'
  cases hmark'

/-- **A longer date part is read from the texts of dates and times only as one of them.** What it
takes from the time is digits at most, so that what is left is a time without them. -/
theorem IsIsoText.of_longer {cs part part' : List Char} {date date' : Date}
    (h : IsIsoText cs part date) (h' : ReadsAsIsoText cs part' date')
    (hlt : part.length < part'.length) : IsIsoText cs part' date' := by
  obtain ⟨hnames, rest, rfl, hrest⟩ := h
  obtain ⟨hnames', rest', hcs, hrest'⟩ := h'
  obtain ⟨more, rfl⟩ : ∃ more, part' = part ++ more := by
    obtain ⟨more, hmore⟩ := List.prefix_of_prefix_length_le ⟨rest, rfl⟩ ⟨rest', hcs.symm⟩ hlt.le
    exact ⟨more, hmore.symm⟩
  have hshort := hnames.length_le_of_append hnames'
  rw [List.append_assoc, List.append_cancel_left_eq] at hcs
  refine ⟨hnames', rest', by rw [hcs, List.append_assoc], ?_⟩
  cases hrest' with
  | absent => exact .absent
  | @time separator' time' offset' htime' hoffset' =>
    cases hrest with
    | absent => simp at hcs
    | @time separator time offset htime hoffset =>
      obtain ⟨first, taken, rfl⟩ := List.exists_cons_of_length_pos (by simpa using hlt : 0 < more.length)
      obtain ⟨-, hcs⟩ := List.cons.inj hcs
      -- the characters that the longer date part and its separator take are of the time
      have hprefix : taken ++ [separator'] <+: time := by
        refine List.prefix_of_prefix_length_le ⟨time' ++ offset', ?_⟩ ⟨offset, rfl⟩ ?_
        · rw [hcs, List.append_assoc, List.singleton_append]
          rfl
        · have hlong := htime.two_le_length
          simp only [List.length_cons, List.length_append, List.length_nil] at hshort ⊢
          omega
      obtain ⟨left, rfl⟩ := hprefix
      have hleft : left ++ offset = time' ++ offset' := by simpa using hcs
      have hunsigned (c : Char) (hc : c ∈ left) :=
        htime.readsAsUnsignedTime.2 c (List.mem_append_right _ hc)
      obtain ⟨rfl, rfl⟩ :=
        time_and_offset_unique hunsigned hoffset.readsAsOffset htime'.2 hoffset' hleft
      have hsize (c : Char) (hc : c ∈ left) := htime.utf8Size_eq c (List.mem_append_right _ hc)
      exact .time separator' (htime'.1.timeText hsize) hoffset

/-- **Texts of dates and times are read** with the longest of their date parts, which alone names the
date: nothing else that they may be read as has a longer one. -/
theorem parseIsoDate?_of_isIsoText {s : String} (h : ∃ part date, IsIsoText s.toList part date) :
    ∃ part date, IsIsoText s.toList part date ∧
      (∀ part' date', IsIsoText s.toList part' date' → part'.length ≤ part.length) ∧
      parseIsoDate? s = some date ∧ parseIsoDate? (String.ofList part) = some date := by
  obtain ⟨part₀, date₀, h₀⟩ := h
  obtain ⟨part, date, hread, hlongest⟩ := exists_longest_reading h₀.readsAsIsoText
  have hpart : IsIsoText s.toList part date := by
    rcases (hlongest _ _ h₀.readsAsIsoText).eq_or_lt with heq | hlt
    · obtain rfl := h₀.part_eq hread heq
      rwa [← h₀.names.unique hread.names]
    · exact h₀.of_longer hread hlt
  refine ⟨part, date, hpart, fun part' date' h' => hlongest _ _ h'.readsAsIsoText,
    parseIsoDate?_of_longest hread hlongest, ?_⟩
  have halone : ReadsAsIsoText (String.ofList part).toList part date :=
    ⟨hpart.names, [], by simp, .absent⟩
  refine parseIsoDate?_of_longest halone ?_
  rintro part' date' ⟨-, rest, hrest, -⟩
  have hlength := congrArg List.length hrest
  rw [String.toList_ofList, List.length_append] at hlength
  omega

/-- A hyphen behind a week may be the separator before a time, or start the weekday, which leaves a
digit as the separator. -/
theorem parseIsoDate?_of_isIsoText_weekday :
    IsIsoText "2024-W05-2012".toList "2024-W05".toList ⟨2024, 1, 29⟩ ∧
      IsIsoText "2024-W05-2012".toList "2024-W05-2".toList ⟨2024, 1, 30⟩ ∧
      parseIsoDate? "2024-W05-2012" = some ⟨2024, 1, 30⟩ := by
  have htwelve : IsNumber 2 ['1', '2'] 12 := twoDigits?_eq_some_iff.1 (by decide)
  have htwenty : IsNumber 2 ['2', '0'] 20 := twoDigits?_eq_some_iff.1 (by decide)
  have hmonday : IsIsoText "2024-W05-2012".toList "2024-W05".toList ⟨2024, 1, 29⟩ := by
    refine ⟨readDatePart?_eq_some_iff.1 (by decide), "-2012".toList, by decide, ?_⟩
    have hclock := IsClock.minute htwenty (by decide) htwelve (by decide)
    exact .time '-' (TimeText.whole false hclock) OffsetText.absent
  have htuesday : IsIsoText "2024-W05-2012".toList "2024-W05-2".toList ⟨2024, 1, 30⟩ := by
    refine ⟨readDatePart?_eq_some_iff.1 (by decide), "012".toList, by decide, ?_⟩
    have hclock := IsClock.hour htwelve (by decide)
    exact .time '0' (TimeText.whole false hclock) OffsetText.absent
  refine ⟨hmonday, htuesday, ?_⟩
  obtain ⟨part, date, hpart, hlongest, hdate, -⟩ := parseIsoDate?_of_isIsoText ⟨_, _, hmonday⟩
  have hlength : part.length = "2024-W05-2".toList.length := by
    refine le_antisymm ?_ (hlongest _ _ htuesday)
    have hten : "2024-W05-2".toList.length = 10 := by decide
    rcases hpart.names.length_and_mark with h | h | h <;> omega
  obtain rfl := hpart.part_eq htuesday hlength
  rw [hdate, hpart.names.unique htuesday.names]

/-! ## What else is read -/

/-- Where no shorter part of a text is a date, what stands behind its first ten characters is a
time. -/
theorem IsIsoText.rest_of_drop {cs part : List Char} {date : Date} (h : IsIsoText cs part date)
    (hshort : ∀ n ∈ [8, 7], readDatePart? (cs.take n) = none) :
    Rest TimeText OffsetText (cs.drop 10) := by
  obtain ⟨hnames, rest, rfl, hrest⟩ := h
  have hnone {n : ℕ} (hn : n ∈ [8, 7]) (hlength : part.length = n) : False := by
    have hread := hnames.readDatePart?_eq
    have hpart : part = (part ++ rest).take n := by rw [← hlength, List.take_left]
    rw [hpart, hshort n hn] at hread
    cases hread
  rcases hnames.length_and_mark with ⟨h, -⟩ | h | ⟨h, -⟩
  · rwa [← h, List.drop_left]
  · exact (hnone (by simp) h).elim
  · exact (hnone (by simp) h).elim

theorem Rest.of_append {separator : Char} {time offset : List Char}
    (h : Rest TimeText OffsetText (separator :: (time ++ offset)))
    (htime : ∀ c ∈ time, ¬ StartsOffset c) (hoffset : ReadsAsOffset offset) :
    TimeText time ∧ OffsetText offset := by
  obtain ⟨rest, hrest⟩ : ∃ rest, rest = separator :: (time ++ offset) := ⟨_, rfl⟩
  rw [← hrest] at h
  cases h with
  | absent => cases hrest
  | @time _ time' offset' htime' hoffset' =>
    have htexts : time' ++ offset' = time ++ offset := (List.cons.inj hrest).2
    obtain ⟨rfl, rfl⟩ := time_and_offset_unique htime'.readsAsUnsignedTime.2
      hoffset'.readsAsOffset htime hoffset htexts
    exact ⟨htime', hoffset'⟩

/-- Behind a `Z` nothing follows, and behind a sign hours and minutes at most. -/
theorem OffsetText.of_cons {mark : Char} {cs : List Char} (h : OffsetText (mark :: cs)) :
    if mark = 'Z' then cs = [] else cs.length ≤ 5 := by
  obtain ⟨offset, hoffset⟩ : ∃ offset, offset = mark :: cs := ⟨_, rfl⟩
  rw [← hoffset] at h
  cases h with
  | absent => cases hoffset
  | zulu =>
    obtain ⟨rfl, rfl⟩ := List.cons.inj hoffset
    rw [if_pos rfl]
  | signed hsign colons clock short =>
    obtain ⟨rfl, rfl⟩ := List.cons.inj hoffset
    rw [if_neg (by rintro rfl; simp at hsign)]
    cases clock with
    | hour hh => simp [joined, hh.length_eq]
    | minute hh _ hm => cases colons <;> simp [joined, hh.length_eq, hm.length_eq]
    | second => simp at short

/-- A time may be read from more than the texts of times: from characters that no cut falls between,
from a time behind a `Z`, and from an offset with seconds. -/
theorem parseIsoDate?_not_isIsoText :
    (parseIsoDate? "2024-01-31T10😀" = some ⟨2024, 1, 31⟩ ∧
      ¬ ∃ part date, IsIsoText "2024-01-31T10😀".toList part date) ∧
    (parseIsoDate? "2024-01-31T10:20Z05" = some ⟨2024, 1, 31⟩ ∧
      ¬ ∃ part date, IsIsoText "2024-01-31T10:20Z05".toList part date) ∧
    parseIsoDate? "2024-01-31T10+05:00:30" = some ⟨2024, 1, 31⟩ ∧
      ¬ ∃ part date, IsIsoText "2024-01-31T10+05:00:30".toList part date := by
  have hoffset {mark : Char} {cs : List Char} (hmark : StartsOffset mark)
      (h : (readTime? cs).isSome) : ReadsAsOffset (mark :: cs) :=
    .time hmark (isSome_readTime?_iff.1 h)
  refine ⟨⟨by decide, fun ⟨part, date, h⟩ => ?_⟩, ⟨by decide, fun ⟨part, date, h⟩ => ?_⟩,
    by decide, fun ⟨part, date, h⟩ => ?_⟩
  · have hrest : Rest TimeText OffsetText ('T' :: (['1', '0', '😀'] ++ [])) :=
      h.rest_of_drop (by decide)
    have htime := (hrest.of_append (by simp [StartsOffset]) .absent).1
    -- this is no character of a time
    have hemoji : '😀' = ':' ∨ '😀' = '.' ∨ '😀' = ',' ∨ '😀'.isDigit = true :=
      htime.of_mem (by simp)
    exact absurd hemoji (by decide)
  · have hrest : Rest TimeText OffsetText ('T' :: (['1', '0', ':', '2', '0'] ++ ['Z', '0', '5'])) :=
      h.rest_of_drop (by decide)
    have hzulu : ReadsAsOffset ['Z', '0', '5'] := hoffset (by simp [StartsOffset]) (by decide)
    have hcons := (hrest.of_append (by simp [StartsOffset]) hzulu).2.of_cons
    exact absurd hcons (by decide)
  · have hrest : Rest TimeText OffsetText ('T' :: (['1', '0'] ++ '+' :: "05:00:30".toList)) :=
      h.rest_of_drop (by decide)
    have hseconds : ReadsAsOffset ('+' :: "05:00:30".toList) :=
      hoffset (by simp [StartsOffset]) (by decide)
    have hcons := (hrest.of_append (by simp [StartsOffset]) hseconds).2.of_cons
    exact absurd hcons (by decide)

end CustomFields.Calendar
