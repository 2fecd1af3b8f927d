import CustomFields.Proofs.Json.Printer

/-!
# Reading compact JSON texts

A compact text is read in full, and what is read is the tree of its value. Numbers are the only
thing that may change on the way: a numeral is read by rules of its own, so the tree has the number
that its reader makes of it, or none where that is too large.

## Main definitions

* `Number.tree`, `Value.tree`: what the texts of numbers and values are read as

## Main results

* `readString_quoted`, `NumberLiteral.exists_read`, `Value.readValue_chars`: the text of a string,
  a number or a value is read up to its end
* `Value.parse?_compact`: what a compact text is parsed as
-/

namespace CustomFields.Json

open Decimal (IsNumeral IsNumeralChar IsDigits IsWhole IsWholePart exponentSign exponentValue)

/-! ## Strings -/

/-- The piece of a quoted string that a character is written as. -/
def StringPart.of (c : Char) : StringPart :=
  if c.toNat < 0x20 ∧ c ≠ '\x08' ∧ c ≠ '\x0c' ∧ c ≠ '\n' ∧ c ≠ '\r' ∧ c ≠ '\t' then
    .codeUnit c.toNat
  else .char c

theorem readParts_escapeChar (c : Char) (rest : List Char) :
    readParts (escapeChar c ++ rest) =
      (readParts rest).map fun (ps, r) => (StringPart.of c :: ps, r) := by
  unfold escapeChar
  split_ifs with hquote hslash h8 hc hn hr ht hcontrol
  · subst hquote; rfl
  · subst hslash; rfl
  · subst h8; rfl
  · subst hc; rfl
  · subst hn; rfl
  · subst hr; rfl
  · subst ht; rfl
  -- a control character without an escape of its own is read as a code unit
  · have hpart : StringPart.of c = .codeUnit c.toNat := if_pos ⟨hcontrol, h8, hc, hn, hr, ht⟩
    simp only [List.cons_append, List.nil_append, readParts, codeUnit?_hexDigit hcontrol, hpart]
  · have hpart : StringPart.of c = .char c := if_neg fun h => hcontrol h.1
    rw [hpart]
    show readParts (c :: rest) = _
    rw [readParts.eq_def]
    split <;> simp_all

theorem joinParts_of (c : Char) (ps : List StringPart) :
    joinParts (StringPart.of c :: ps) = (joinParts ps).map (c :: ·) := by
  unfold StringPart.of
  split
  · -- a control character is no half of a pair
    rename_i h
    have hlow : ¬ (0xD800 ≤ c.toNat ∧ c.toNat < 0xDC00) := by omega
    have hhigh : ¬ (0xDC00 ≤ c.toNat ∧ c.toNat < 0xE000) := by omega
    have hany : ¬ (0xD800 ≤ c.toNat ∧ c.toNat < 0xE000) := by omega
    match ps with
    | [] => simp [joinParts, hany]
    | .char _ :: _ => simp [joinParts, hany]
    | .codeUnit _ :: _ => simp only [joinParts, hlow, hhigh, if_false, Char.ofNat_toNat]
  · rfl

theorem readString_quoted (s : String) (rest : List Char) :
    readString (s.toList.flatMap escapeChar ++ '"' :: rest) = some (some s, rest) := by
  have hparts (cs : List Char) :
      readParts (cs.flatMap escapeChar ++ '"' :: rest) = some (cs.map StringPart.of, rest) := by
    induction cs with
    | nil => rfl
    | cons c cs ih =>
      rw [List.flatMap_cons, List.append_assoc, readParts_escapeChar, ih]
      rfl
  have hjoin (cs : List Char) : joinParts (cs.map StringPart.of) = some cs := by
    induction cs with
    | nil => rfl
    | cons c cs ih =>
      rw [List.map_cons, joinParts_of, ih]
      rfl
  simp only [readString, hparts, Option.map_some, hjoin, String.ofList_toList]

/-! ## Numbers -/

theorem Stops.not_isDigit {rest : List Char} (h : Stops rest) :
    ∀ c ∈ rest.head?, c.isDigit = false := by
  intro c hc
  exact Bool.eq_false_iff.2 fun hd => h c hc (Or.inl hd)

theorem Stops.not_point {rest : List Char} (h : Stops rest) : ∀ c ∈ rest.head?, c ≠ '.' := by
  rintro _ hc rfl
  exact h '.' hc (by simp [IsNumeralChar])

theorem Stops.not_letter {rest : List Char} (h : Stops rest) :
    ∀ c ∈ rest.head?, c ≠ 'e' ∧ c ≠ 'E' := by
  refine fun c hc => ⟨?_, ?_⟩
  · rintro rfl
    exact h 'e' hc (by simp [IsNumeralChar])
  · rintro rfl
    exact h 'E' hc (by simp [IsNumeralChar])

theorem spanDigits_append {ds rest : List Char} (hd : IsDigits ds)
    (hr : ∀ c ∈ rest.head?, c.isDigit = false) : spanDigits (ds ++ rest) = (ds, rest) :=
  Decimal.span_digits rest hd hr

namespace NumberLiteral

theorem readFraction_of_stops {rest : List Char} (h : ∀ c ∈ rest.head?, c ≠ '.') :
    readFraction rest = some (none, rest) := by
  unfold readFraction
  split
  · exact absurd rfl (h '.' rfl)
  · rfl

theorem readFraction_point {ds rest : List Char} (hd : IsDigits ds) (hne : ds ≠ [])
    (hr : ∀ c ∈ rest.head?, c.isDigit = false) :
    readFraction ('.' :: (ds ++ rest)) = some (some ds, rest) := by
  obtain ⟨c, cs, rfl⟩ := List.exists_cons_of_ne_nil hne
  simp only [readFraction, spanDigits_append hd hr]

theorem readExponent_of_stops {rest : List Char} (h : ∀ c ∈ rest.head?, c ≠ 'e' ∧ c ≠ 'E') :
    readExponent rest = some (none, rest) := by
  unfold readExponent
  split
  · exact absurd rfl (h 'e' rfl).1
  · exact absurd rfl (h 'E' rfl).2
  · rfl

theorem readExponentDigits_append {es rest : List Char} (negative : Bool) (he : IsDigits es)
    (hne : es ≠ []) (hr : ∀ c ∈ rest.head?, c.isDigit = false) :
    readExponentDigits negative (es ++ rest) = some (some (negative, es), rest) := by
  obtain ⟨c, cs, rfl⟩ := List.exists_cons_of_ne_nil hne
  simp only [readExponentDigits, spanDigits_append he hr]

theorem readExponent_letter {es rest : List Char} (negative : Bool) (he : IsDigits es)
    (hne : es ≠ []) (hr : ∀ c ∈ rest.head?, c.isDigit = false) :
    readExponent ('e' :: exponentSign negative :: (es ++ rest)) =
      some (some (negative, es), rest) := by
  cases negative <;> exact readExponentDigits_append _ he hne hr

theorem readUnsigned_append {whole rest : List Char} (negative : Bool) (hw : IsWhole whole)
    (hr : ∀ c ∈ rest.head?, c.isDigit = false) :
    readUnsigned negative (whole ++ rest) = do
      let (fraction, rest) ← readFraction rest
      let (exponent, rest) ← readExponent rest
      return (⟨negative, whole, fraction, exponent⟩, rest) := by
  unfold readUnsigned
  rw [spanDigits_append hw.digits hr]
  split
  -- digits are missing, or start with a zero that is not the only one
  · rename_i h
    exact absurd (Prod.mk.inj h).1 hw.ne_nil
  · rename_i h
    exact absurd (Prod.mk.inj h).1 (hw.no_leading_zero _ _)
  · rename_i h
    obtain ⟨rfl, rfl⟩ := Prod.mk.inj h
    rfl

/-- A literal with a point or an exponent stands for a rational number, apart from its sign. Its whole
part is short, and the power of ten of an exponent without a minus sign does not exceed the number. -/
structure StandsFor (l : NumberLiteral) (q : ℚ) : Prop where
  integer_lt : Nat.ofDigitChars 10 l.integer 0 < 10 ^ 16
  isSome : (l.fraction.isSome || l.exponent.isSome) = true
  value_eq : Nat.ofDigitChars 10 (l.integer ++ l.fraction.getD []) 0 *
    (10 : ℚ) ^ (l.exponent.elim 0 (fun e => exponentValue e.1 e.2) - (l.fraction.getD []).length) = q
  pow_le : ∀ es, l.exponent = some (false, es) → (10 : ℚ) ^ Nat.ofDigitChars 10 es 0 ≤ q

/-- **A numeral is read up to its end,** as a literal that stands for its number. -/
theorem exists_readUnsigned_numeral {cs : List Char} {q : ℚ} (negative : Bool)
    (h : IsNumeral cs q) :
    ∃ l : NumberLiteral, l.StandsFor q ∧
      ∀ rest, Stops rest → readUnsigned negative (cs ++ rest) = some (l, rest) := by
  have hshort {whole : List Char} (hw : IsWholePart whole) :
      Nat.ofDigitChars 10 whole 0 < 10 ^ 16 :=
    (Decimal.ofDigitChars_lt hw.digits).trans_le (Nat.pow_le_pow_right (by decide) hw.length_le)
  -- the literal has the parts of the numeral; what stops the numeral stops its last part
  cases h with
  | @point whole fraction hw ne hf =>
    refine ⟨⟨negative, whole, some fraction, none⟩, ⟨hshort hw, rfl, ?value, nofun⟩,
      fun rest hr => ?_⟩
    case value => simp only [Option.elim_none, Option.getD_some, zero_sub]
    rw [List.append_assoc, List.cons_append, readUnsigned_append negative hw.toIsWhole (by simp)]
    simp only [readFraction_point hf ne hr.not_isDigit, readExponent_of_stops hr.not_letter,
      Option.bind_eq_bind, Option.bind_some, Option.pure_def]
  | @exponent whole es n hw hz ne he =>
    refine ⟨⟨negative, whole, none, some (n, es)⟩, ⟨hshort hw, rfl, ?value, ?pow⟩,
      fun rest hr => ?_⟩
    case value => simp
    case pow =>
      rintro _ ⟨⟩
      rw [exponentValue, if_neg Bool.false_ne_true, zpow_natCast]
      exact le_mul_of_one_le_left (by positivity) (by exact_mod_cast hw.one_le hz)
    rw [List.append_assoc, List.cons_append, List.cons_append,
      readUnsigned_append negative hw.toIsWhole (by simp)]
    have hpoint : ∀ c ∈ ('e' :: exponentSign n :: (es ++ rest)).head?, c ≠ '.' := by simp
    simp only [readFraction_of_stops hpoint, readExponent_letter n he ne hr.not_isDigit,
      Option.bind_eq_bind, Option.bind_some, Option.pure_def]
  | @pointExponent whole fraction es n hw hz nf hf ne he =>
    refine ⟨⟨negative, whole, some fraction, some (n, es)⟩, ⟨hshort hw, rfl, rfl, ?pow⟩,
      fun rest hr => ?_⟩
    case pow =>
      rintro _ ⟨⟩
      -- the digits in front of the point are worth a power of ten for each one behind it
      have hlead : 10 ^ fraction.length ≤ Nat.ofDigitChars 10 (whole ++ fraction) 0 := by
        rw [Nat.ofDigitChars_append, Nat.ofDigitChars_eq_ofDigitChars_zero]
        exact le_add_right (Nat.le_mul_of_pos_right _ (hw.one_le hz))
      rw [exponentValue, if_neg Bool.false_ne_true, zpow_sub₀ (by norm_num), zpow_natCast,
        zpow_natCast, mul_div_assoc', le_div_iff₀ (by positivity), mul_comm]
      exact mul_le_mul_of_nonneg_right (by exact_mod_cast hlead) (by positivity)
    rw [List.append_assoc, List.cons_append, List.append_assoc, List.cons_append,
      List.cons_append, readUnsigned_append negative hw.toIsWhole (by simp)]
    have hletter : ∀ c ∈ ('e' :: exponentSign n :: (es ++ rest)).head?, c.isDigit = false := by
      simp
    simp only [readFraction_point hf nf hletter, readExponent_letter n he ne hr.not_isDigit,
      Option.bind_eq_bind, Option.bind_some, Option.pure_def]

/-- A whole number is read up to its end. -/
theorem readUnsigned_whole {cs rest : List Char} (negative : Bool) (hw : IsWhole cs)
    (hr : Stops rest) :
    readUnsigned negative (cs ++ rest) = some (⟨negative, cs, none, none⟩, rest) := by
  simp only [readUnsigned_append negative hw hr.not_isDigit, readFraction_of_stops hr.not_point,
    readExponent_of_stops hr.not_letter, Option.bind_eq_bind, Option.bind_some, Option.pure_def]

/-- A sign is told from the digits behind it. -/
theorem read_signed {cs : List Char} (negative : Bool)
    (hcs : ∃ c ds, cs = c :: ds ∧ c.isDigit = true) :
    read ((if negative then ['-'] else []) ++ cs) = readUnsigned negative cs := by
  obtain ⟨c, ds, rfl, hc⟩ := hcs
  cases negative with
  | true => rfl
  | false =>
    rw [if_neg Bool.false_ne_true, List.nil_append]
    unfold read
    split
    · rename_i heq
      rw [(List.cons.inj heq).1] at hc
      cases hc
    · rfl

theorem isWhole_toDigits (n : ℕ) : IsWhole (Nat.toDigits 10 n) := by
  by_cases hn : n = 0
  · rw [hn]
    exact Decimal.isWhole_singleton rfl
  · exact Decimal.isWhole_of_head (Decimal.isDigits_toDigits n) Nat.toDigits_ne_nil
      (Decimal.head?_toDigits_ne_zero hn)

/-- **The text of a binary64 number is read up to its end,** as a literal that stands for its
shortest decimal. -/
theorem exists_read_float (x : Binary64) :
    ∃ l : NumberLiteral,
      l.StandsFor (if x.magnitude = 0 then 0
        else (Decimal.shortest x).1 * (10 : ℚ) ^ (Decimal.shortest x).2) ∧
      ∀ rest, Stops rest → read (Number.chars (.float x) ++ rest) = some (l, rest) := by
  have hnumeral := Decimal.isNumeral_unsigned x
  obtain ⟨l, hl, hread⟩ := exists_readUnsigned_numeral x.negative hnumeral
  refine ⟨l, hl, fun rest hr => ?_⟩
  obtain ⟨c, ds, hc, hdigit⟩ := hnumeral.exists_cons
  rw [Number.chars, Decimal.toList_compact, ← hread rest hr, ← read_signed x.negative
    ⟨c, ds ++ rest, by rw [hc, List.cons_append], hdigit⟩]
  cases x.negative <;> rfl

/-- **The text of a number is read up to its end.** -/
theorem exists_read (n : Number) :
    ∃ l, ∀ rest, Stops rest → read (n.chars ++ rest) = some (l, rest) := by
  cases n with
  | float x =>
    obtain ⟨l, -, hread⟩ := exists_read_float x
    exact ⟨l, hread⟩
  | integer i =>
    have hw := isWhole_toDigits i.natAbs
    obtain ⟨c, ds, hc⟩ := List.exists_cons_of_ne_nil hw.ne_nil
    have hdigit : c.isDigit = true := hw.digits c (hc ▸ List.mem_cons_self)
    refine ⟨⟨decide (i < 0), Nat.toDigits 10 i.natAbs, none, none⟩, fun rest hr => ?_⟩
    rw [← readUnsigned_whole (decide (i < 0)) hw hr, ← read_signed (decide (i < 0))
      ⟨c, ds ++ rest, by rw [hc, List.cons_append], hdigit⟩, Number.chars, List.append_assoc]
    by_cases hi : i < 0 <;> simp [hi]

end NumberLiteral

/-- What the text of a number is read as. -/
def Number.tree (n : Number) : Tree :=
  ((NumberLiteral.read n.chars).bind fun l => l.1.number?).elim .unreadable .number

/-! ## Values -/

namespace Value

/-- What the text of a value is read as. -/
def tree : Value → Tree
  | .null => .null
  | .bool b => .bool b
  | .number n => n.tree
  | .string s => .string s
  | .array items => .array (itemTrees items) true
  | .object members => .object (memberTrees members) true
where
  itemTrees : List Value → List Tree
    | [] => []
    | v :: vs => v.tree :: itemTrees vs
  memberTrees : List (String × Value) → List (Option String × Tree)
    | [] => []
    | (k, v) :: ms => (some k, v.tree) :: memberTrees ms

theorem kindOfFirst_of_isSpace {c : Char} (h : isSpace c = true) : kindOfFirst c = "" := by
  simp only [isSpace, Bool.or_eq_true, beq_iff_eq] at h
  obtain ((rfl | rfl) | rfl) | rfl := h <;> rfl

theorem kindName_ne_empty (v : Value) : v.kindName ≠ "" := by
  cases v <;> simp [kindName]

/-- The text of a value starts with no blank. -/
theorem skipSpace_chars_append (v : Value) (rest : List Char) :
    skipSpace (v.chars ++ rest) = v.chars ++ rest := by
  obtain ⟨c, cs, hc, hkind⟩ := v.exists_chars
  have hspace : isSpace c = false := by
    by_contra h
    rw [kindOfFirst_of_isSpace (Bool.not_eq_false _ ▸ h)] at hkind
    exact v.kindName_ne_empty hkind.symm
  rw [hc, List.cons_append, skipSpace, List.dropWhile_cons, hspace]
  rfl

/-- What the text of a number is read as does not depend on what stops it. -/
theorem readValue_number (n : Number) {fuel : ℕ} {rest : List Char} (hr : Stops rest) :
    readValue (fuel + 1) (n.chars ++ rest) = (n.tree, some rest) := by
  obtain ⟨l, hl⟩ := NumberLiteral.exists_read n
  have htree : n.tree = l.number?.elim .unreadable .number := by
    have h := hl [] (by simp [Stops])
    rw [List.append_nil] at h
    rw [Number.tree, h]
    rfl
  obtain ⟨d, ds, hd, hkind⟩ := (Value.number n).exists_chars
  rw [chars] at hd
  have hfirst : ∀ c cs, n.chars ++ rest = c :: cs → kindOfFirst c = "number" := by
    intro c cs h
    rw [hd] at h
    rw [← (List.cons.inj h).1, hkind, kindName]
  have hskip : skipSpace (n.chars ++ rest) = n.chars ++ rest :=
    skipSpace_chars_append (.number n) rest
  rw [readValue, hskip]
  split
  case h_1 h =>
    rw [hd] at h
    cases h
  case h_8 => rw [hl rest hr, htree]
  -- no other value starts as a number does
  all_goals
    rename_i h
    exact absurd (hfirst _ _ h) (by decide)

theorem chars_length_pos (v : Value) : 0 < v.chars.length := by
  obtain ⟨c, cs, hc, -⟩ := v.exists_chars
  rw [hc]
  exact Nat.succ_pos _

theorem itemChars_length_pos (vs : List Value) : 0 < (chars.itemChars vs).length := by
  cases vs <;> exact Nat.succ_pos _

theorem memberChars_length_pos (ms : List (String × Value)) :
    0 < (chars.memberChars ms).length := by
  cases ms <;> exact Nat.succ_pos _

/-! ## One step of the reader -/

theorem readValue_quote {fuel : ℕ} {cs rest : List Char} {s : Option String}
    (h : readString cs = some (s, rest)) :
    readValue (fuel + 1) ('"' :: cs) = (s.elim .unreadable .string, some rest) := by
  have hskip : skipSpace ('"' :: cs) = '"' :: cs := rfl
  rw [readValue, hskip]
  simp only [h]

theorem readValue_bracket {fuel : ℕ} {cs : List Char} {items : List Tree}
    {rest : Option (List Char)} (hskip : skipSpace cs = cs) (hne : ∀ ds, cs ≠ ']' :: ds)
    (h : readItems fuel cs = (items, rest)) :
    readValue (fuel + 1) ('[' :: cs) = (.array items rest.isSome, rest) := by
  have hbracket : skipSpace ('[' :: cs) = '[' :: cs := rfl
  rw [readValue, hbracket]
  -- that the items do not start with a bracket decides the match
  simp only [hskip, h]

theorem readValue_brace {fuel : ℕ} {cs : List Char} {members : List (Option String × Tree)}
    {rest : Option (List Char)} (h : readMembers fuel ('"' :: cs) = (members, rest)) :
    readValue (fuel + 1) ('{' :: '"' :: cs) = (.object members rest.isSome, rest) := by
  have hbrace : skipSpace ('{' :: '"' :: cs) = '{' :: '"' :: cs := rfl
  have hquote : skipSpace ('"' :: cs) = '"' :: cs := rfl
  rw [readValue, hbrace]
  simp only [hquote]
  exact congrArg (fun p => (Tree.object p.1 p.2.isSome, p.2)) h

theorem readItems_comma {fuel : ℕ} {cs ds : List Char} {t : Tree} {ts : List Tree}
    {rest : Option (List Char)} (ht : readValue fuel cs = (t, some (',' :: ds)))
    (h : readItems fuel ds = (ts, rest)) : readItems (fuel + 1) cs = (t :: ts, rest) := by
  have hcomma : skipSpace (',' :: ds) = ',' :: ds := rfl
  rw [readItems, ht]
  simp only [hcomma, h]

/-! ## Whole texts -/

/-- Texts that are not too long for some fuel are read up to their ends. -/
structure ReadsTexts (fuel : ℕ) : Prop where
  value (v : Value) (rest : List Char) (hfuel : 2 * v.chars.length ≤ fuel) (hr : Stops rest) :
    readValue fuel (v.chars ++ rest) = (v.tree, some rest)
  items (v : Value) (vs : List Value) (rest : List Char)
    (hfuel : 2 * (v.chars.length + (chars.itemChars vs).length) ≤ fuel) :
    readItems fuel (v.chars ++ (chars.itemChars vs ++ rest)) =
      (v.tree :: tree.itemTrees vs, some rest)
  members (k : String) (v : Value) (ms : List (String × Value)) (rest : List Char)
    (hfuel : 2 * (v.chars.length + (chars.memberChars ms).length) ≤ fuel) :
    readMembers fuel (quoted k ++ ':' :: (v.chars ++ (chars.memberChars ms ++ rest))) =
      ((some k, v.tree) :: tree.memberTrees ms, some rest)

section Step

variable {fuel : ℕ} (h : ReadsTexts fuel)

include h

/-- A value is read with one unit of fuel more than its items or members need. -/
theorem ReadsTexts.value_succ (v : Value) (rest : List Char)
    (hfuel : 2 * v.chars.length ≤ fuel + 1) (hr : Stops rest) :
    readValue (fuel + 1) (v.chars ++ rest) = (v.tree, some rest) := by
  cases v with
  | null => rfl
  | bool b => cases b <;> rfl
  | number n => exact readValue_number n hr
  | string s =>
    simp only [chars, quoted, List.cons_append, List.append_assoc, List.nil_append]
    exact readValue_quote (readString_quoted s rest)
  | array vs =>
    cases vs with
    | nil => rfl
    | cons v vs =>
      simp only [chars, List.cons_append, List.append_assoc, List.length_cons,
        List.length_append] at hfuel ⊢
      exact readValue_bracket (skipSpace_chars_append v _) (fun _ => chars_append_ne_bracket)
        (h.items v vs rest (by omega))
  | object ms =>
    cases ms with
    | nil => rfl
    | cons m ms =>
      simp only [chars, List.cons_append, List.append_assoc, List.length_cons,
        List.length_append] at hfuel ⊢
      exact readValue_brace (h.members m.1 m.2 ms rest (by omega))

theorem ReadsTexts.items_succ (v : Value) (vs : List Value) (rest : List Char)
    (hfuel : 2 * (v.chars.length + (chars.itemChars vs).length) ≤ fuel + 1) :
    readItems (fuel + 1) (v.chars ++ (chars.itemChars vs ++ rest)) =
      (v.tree :: tree.itemTrees vs, some rest) := by
  -- the mark behind an item pays for reading the next one
  have hpos := itemChars_length_pos vs
  have hvalue := h.value v _ (by omega) (stops_itemChars vs rest)
  cases vs with
  | nil =>
    rw [readItems, hvalue]
    rfl
  | cons w ws =>
    simp only [chars.itemChars, List.cons_append, List.append_assoc, List.length_append,
      List.length_cons] at hfuel hvalue ⊢
    exact readItems_comma hvalue (h.items w ws rest (by omega))

theorem ReadsTexts.members_succ (k : String) (v : Value) (ms : List (String × Value))
    (rest : List Char)
    (hfuel : 2 * (v.chars.length + (chars.memberChars ms).length) ≤ fuel + 1) :
    readMembers (fuel + 1) (quoted k ++ ':' :: (v.chars ++ (chars.memberChars ms ++ rest))) =
      ((some k, v.tree) :: tree.memberTrees ms, some rest) := by
  have hpos := memberChars_length_pos ms
  have hkey := readString_quoted k (':' :: (v.chars ++ (chars.memberChars ms ++ rest)))
  have hvalue := h.value v _ (by omega) (stops_memberChars ms rest)
  have hquote (cs : List Char) : skipSpace ('"' :: cs) = '"' :: cs := rfl
  have hcolon (cs : List Char) : skipSpace (':' :: cs) = ':' :: cs := rfl
  -- a key, a colon and a value are read, and nothing is skipped between them
  simp only [quoted, List.cons_append, List.append_assoc, List.nil_append]
  rw [readMembers]
  simp only [hquote, hkey, hcolon, hvalue]
  cases ms with
  | nil => rfl
  | cons m ns =>
    have hcomma (cs : List Char) : skipSpace (',' :: cs) = ',' :: cs := rfl
    simp only [chars.memberChars, List.cons_append, List.append_assoc, List.length_append,
      List.length_cons] at hfuel ⊢
    rw [hcomma]
    simp only [h.members m.1 m.2 ns rest (by omega)]
    rfl

end Step

/-- **The text of a value is read up to its end**, given twice its length as fuel. -/
theorem readsTexts (fuel : ℕ) : ReadsTexts fuel := by
  induction fuel with
  | zero =>
    refine ⟨fun v _ hfuel => ?_, fun v vs _ hfuel => ?_, fun k v ms _ hfuel => ?_⟩ <;>
      have := v.chars_length_pos <;> omega
  | succ fuel ih => exact ⟨ih.value_succ, ih.items_succ, ih.members_succ⟩

/-- What the compact text of a value is parsed as. -/
theorem parse?_compact (v : Value) :
    Value.parse? v.compact = (v.tree.cut Tree.maxNesting).toValue? := by
  have hread := (readsTexts (2 * v.chars.length + 2)).value v [] (by omega) (by simp [Stops])
  rw [List.append_nil] at hread
  simp only [parse?, compact, String.toList_ofList, readTree, hread]
  rfl

end Value

end CustomFields.Json
