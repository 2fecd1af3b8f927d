import CustomFields.Json.Printer
import CustomFields.Json.Reader
import CustomFields.Proofs.Decimal.Notation

/-!
# Compact JSON texts determine their values

Two values with the same compact text are equal. What makes this an induction is a stronger
statement: where two texts of values are continued, and neither continuation can be taken for more
of a number, the values are equal and so are the continuations. Strings, arrays and objects end
with a mark of their own, so nothing is asked of what follows them.

## Main definitions

* `Stops`: what follows does not go on with a character of a numeral
* `unescape`: takes one character from the inside of a quoted string

## Main results

* `quoted_append_inj`, `Number.chars_append_inj`, `Value.chars_append_inj`: a text determines what
  it starts with
* `Value.compact_injective`: different values have different texts
-/

namespace CustomFields.Json

open Decimal (IsNumeralChar)

/-! ## Quoted strings -/

/-- Takes one character, escaped or not, from the inside of a quoted string. -/
def unescape : List Char → Option (Char × List Char)
  | '\\' :: 'u' :: a :: b :: c :: d :: rest =>
    (codeUnit? a b c d).map fun u => (Char.ofNat u, rest)
  | '\\' :: c :: rest => (unescape? c).map fun c => (c, rest)
  | c :: rest => if c = '"' then none else some (c, rest)
  | [] => none

theorem codeUnit?_hexDigit {n : ℕ} (h : n < 32) :
    codeUnit? '0' '0' (hexDigit (n / 16)) (hexDigit (n % 16)) = some n := by
  revert n
  decide

theorem unescape_escapeChar (c : Char) (rest : List Char) :
    unescape (escapeChar c ++ rest) = some (c, rest) := by
  unfold escapeChar
  -- seven characters have escapes of their own
  split_ifs with hquote hslash h8 hc hn hr ht hcontrol
  · subst hquote; rfl
  · subst hslash; rfl
  · subst h8; rfl
  · subst hc; rfl
  · subst hn; rfl
  · subst hr; rfl
  · subst ht; rfl
  -- a control character is written as its number
  · simp only [List.cons_append, List.nil_append, unescape, codeUnit?_hexDigit hcontrol,
      Option.map_some, Char.ofNat_toNat]
  -- any other one as it is, and it is neither a quote nor a backslash
  · show unescape (c :: rest) = some (c, rest)
    unfold unescape
    split <;> simp_all

theorem flatMap_escapeChar_append_inj {cs ds r r' : List Char}
    (h : cs.flatMap escapeChar ++ '"' :: r = ds.flatMap escapeChar ++ '"' :: r') :
    cs = ds ∧ r = r' := by
  -- the quote at the end is no character of the inside
  have hquote (r : List Char) : unescape ('"' :: r) = none := rfl
  induction cs generalizing ds with
  | nil =>
    cases ds with
    | nil => exact ⟨rfl, (List.cons.inj h).2⟩
    | cons d ds =>
      have hu := congrArg unescape h
      rw [List.flatMap_cons, List.append_assoc, unescape_escapeChar] at hu
      exact absurd (hquote r ▸ hu) (by simp)
  | cons c cs ih =>
    cases ds with
    | nil =>
      have hu := congrArg unescape h
      rw [List.flatMap_cons, List.append_assoc, unescape_escapeChar] at hu
      exact absurd (hu.trans (hquote r')) (by simp)
    | cons d ds =>
      have hu := congrArg unescape h
      rw [List.flatMap_cons, List.flatMap_cons, List.append_assoc, List.append_assoc,
        unescape_escapeChar, unescape_escapeChar] at hu
      obtain ⟨rfl, hrest⟩ := Prod.mk.inj (Option.some.inj hu)
      obtain ⟨rfl, hr⟩ := ih hrest
      exact ⟨rfl, hr⟩

theorem quoted_append_inj {s t : String} {r r' : List Char}
    (h : quoted s ++ r = quoted t ++ r') : s = t ∧ r = r' := by
  simp only [quoted, List.cons_append, List.append_assoc, List.nil_append] at h
  obtain ⟨hs, hr⟩ := flatMap_escapeChar_append_inj (List.cons.inj h).2
  exact ⟨String.toList_injective hs, hr⟩

/-! ## Numbers -/

/-- What follows does not go on with a character of a numeral. -/
def Stops (cs : List Char) : Prop :=
  ∀ c ∈ cs.head?, ¬ IsNumeralChar c

/-- A prefix of characters of one class is determined by what stops it. -/
theorem append_inj_of_stops {cs ds r r' : List Char} (hcs : ∀ c ∈ cs, IsNumeralChar c)
    (hds : ∀ c ∈ ds, IsNumeralChar c) (hr : Stops r) (hr' : Stops r')
    (h : cs ++ r = ds ++ r') : cs = ds ∧ r = r' := by
  induction cs generalizing ds with
  | nil =>
    cases ds with
    | nil => exact ⟨rfl, h⟩
    | cons d ds =>
      rw [List.nil_append] at h
      exact absurd (hds d (by simp)) (hr d (by simp [h]))
  | cons c cs ih =>
    cases ds with
    | nil =>
      rw [List.nil_append] at h
      -- the longer prefix would go on with a character that stops the other one
      exact absurd (hcs c (by simp)) (hr' c (by simp [← h]))
    | cons d ds =>
      obtain ⟨rfl, htail⟩ := List.cons.inj h
      obtain ⟨rfl, hrest⟩ := ih (fun c hc => hcs c (List.mem_cons_of_mem _ hc))
        (fun c hc => hds c (List.mem_cons_of_mem _ hc)) htail
      exact ⟨rfl, hrest⟩

namespace Number

/-- The text of a number is a minus sign, perhaps, and a text that starts with a digit. -/
theorem exists_chars (n : Number) :
    ∃ c cs, c.isDigit = true ∧ (∀ d ∈ c :: cs, IsNumeralChar d) ∧
      (n.chars = c :: cs ∨ n.chars = '-' :: c :: cs) := by
  cases n with
  | integer i =>
    obtain ⟨c, cs, hc⟩ := List.exists_cons_of_ne_nil (Nat.toDigits_ne_nil (n := i.natAbs) (b := 10))
    have hd := Decimal.isDigits_toDigits i.natAbs
    rw [hc] at hd
    refine ⟨c, cs, hd c (by simp), fun d hm => Or.inl (hd d hm), ?_⟩
    simp only [chars, hc]
    split
    · exact Or.inr rfl
    · exact Or.inl rfl
  | float x =>
    have hx := Decimal.isNumeral_unsigned x
    obtain ⟨c, cs, hc, hd⟩ := hx.exists_cons
    refine ⟨c, cs, hd, fun d hm => hx.isNumeralChar d (hc ▸ hm), ?_⟩
    rw [chars, Decimal.toList_compact, hc]
    cases x.negative
    · exact Or.inl rfl
    · exact Or.inr rfl

theorem isNumeralChar_of_mem_chars {n : Number} : ∀ c ∈ n.chars, IsNumeralChar c := by
  obtain ⟨c, cs, -, hall, h | h⟩ := n.exists_chars
  · exact h ▸ hall
  · rw [h, List.forall_mem_cons]
    exact ⟨by simp [IsNumeralChar], hall⟩

/-- An integer and a float have different texts. -/
theorem integer_chars_ne_float_chars (i : ℤ) (x : Binary64) :
    (integer i).chars ≠ (float x).chars := by
  intro h
  have hx := Decimal.isNumeral_unsigned x
  obtain ⟨c, cs, hc, hcd⟩ := hx.exists_cons
  obtain ⟨d, ds, hd⟩ := List.exists_cons_of_ne_nil (Nat.toDigits_ne_nil (n := i.natAbs) (b := 10))
  have hdigits := Decimal.isDigits_toDigits i.natAbs
  rw [chars, chars, Decimal.toList_compact, hc] at h
  -- the signs are the same, for both of what follows start with digits
  have key : Nat.toDigits 10 i.natAbs = c :: cs := by
    rw [hd] at h hdigits ⊢
    have hdd := hdigits d (by simp)
    split at h <;> split at h
    · exact (List.cons.inj h).2
    · obtain rfl := (List.cons.inj h).1
      cases hcd
    · obtain rfl := (List.cons.inj h).1
      cases hdd
    · exact h
  -- but a float has a point or an exponent behind its digits
  exact hx.not_isDigits (hc ▸ key ▸ hdigits)

theorem toDigits_injective : Function.Injective (Nat.toDigits 10) := by
  intro m n h
  rw [← Nat.ofDigitChars_ten_toDigits (n := m), h, Nat.ofDigitChars_ten_toDigits]

theorem integer_chars_injective {i j : ℤ} (h : (integer i).chars = (integer j).chars) :
    i = j := by
  have hminus : ∀ {n : ℕ} {l : List Char}, Nat.toDigits 10 n ≠ '-' :: l := fun hn =>
    absurd (Decimal.isDigits_toDigits _ '-' (hn ▸ List.mem_cons_self)) (by decide)
  simp only [chars] at h
  split at h <;> split at h <;> rename_i hi hj
  · have habs := toDigits_injective (List.cons.inj h).2
    omega
  · exact absurd h.symm hminus
  · exact absurd h hminus
  · have habs := toDigits_injective h
    omega

theorem chars_injective : Function.Injective chars := by
  intro m n h
  cases m with
  | integer i =>
    cases n with
    | integer j => exact congrArg integer (integer_chars_injective h)
    | float x => exact absurd h (integer_chars_ne_float_chars i x)
  | float x =>
    cases n with
    | integer j => exact absurd h.symm (integer_chars_ne_float_chars j x)
    | float y => exact congrArg float (Decimal.compact_injective (String.toList_injective h))

theorem chars_append_inj {m n : Number} {r r' : List Char} (hr : Stops r) (hr' : Stops r')
    (h : m.chars ++ r = n.chars ++ r') : m = n ∧ r = r' := by
  obtain ⟨hn, hrest⟩ :=
    append_inj_of_stops isNumeralChar_of_mem_chars isNumeralChar_of_mem_chars hr hr' h
  exact ⟨chars_injective hn, hrest⟩

end Number

/-! ## Values -/

namespace Value

/-- The kind that a value has whose text starts with a character. -/
def kindOfFirst (c : Char) : String :=
  if c = 'n' then "null"
  else if c = 't' ∨ c = 'f' then "boolean"
  else if c = '"' then "string"
  else if c = '[' then "array"
  else if c = '{' then "object"
  else if c = '-' ∨ c.isDigit then "number"
  else ""

theorem exists_chars (v : Value) : ∃ c cs, v.chars = c :: cs ∧ kindOfFirst c = v.kindName := by
  match v with
  | .null => exact ⟨_, _, rfl, rfl⟩
  | .bool true => exact ⟨_, _, rfl, rfl⟩
  | .bool false => exact ⟨_, _, rfl, rfl⟩
  | .string s => exact ⟨_, _, rfl, rfl⟩
  | .array [] => exact ⟨_, _, rfl, rfl⟩
  | .array (v :: vs) => exact ⟨_, _, by rw [chars]; rfl, rfl⟩
  | .object [] => exact ⟨_, _, rfl, rfl⟩
  | .object ((k, v) :: ms) => exact ⟨_, _, by rw [chars]; rfl, rfl⟩
  | .number n =>
    obtain ⟨c, cs, hc, -, h | h⟩ := n.exists_chars
    · refine ⟨c, cs, h, ?_⟩
      have hne : ∀ d : Char, d.isDigit = false → c ≠ d := by
        rintro d hd rfl
        rw [hc] at hd
        cases hd
      simp only [kindOfFirst, hne 'n' rfl, hne 't' rfl, hne 'f' rfl, hne '"' rfl, hne '[' rfl,
        hne '{' rfl, hc, or_self, or_true, if_false, if_true, kindName]
    · exact ⟨'-', c :: cs, h, rfl⟩

/-- Two values with the same constructor. -/
inductive SameKind : Value → Value → Prop
  | null : SameKind .null .null
  | bool (a b : Bool) : SameKind (.bool a) (.bool b)
  | number (m n : Number) : SameKind (.number m) (.number n)
  | string (s t : String) : SameKind (.string s) (.string t)
  | array (vs ws : List Value) : SameKind (.array vs) (.array ws)
  | object (ms ns : List (String × Value)) : SameKind (.object ms) (.object ns)

theorem SameKind.of_kindName_eq {v w : Value} (h : v.kindName = w.kindName) : SameKind v w := by
  cases v <;> cases w <;> first | constructor | exact absurd h (by simp [kindName])

/-- Texts that agree at their start are texts of values of one kind. -/
theorem SameKind.of_chars_append {v w : Value} {r r' : List Char}
    (h : v.chars ++ r = w.chars ++ r') : SameKind v w := by
  -- the first character tells the kind
  obtain ⟨c, cs, hv, hc⟩ := v.exists_chars
  obtain ⟨d, ds, hw, hd⟩ := w.exists_chars
  rw [hv, hw] at h
  exact .of_kindName_eq (by rw [← hc, ← hd, (List.cons.inj h).1])

theorem chars_append_ne_bracket {v : Value} {r r' : List Char} : v.chars ++ r ≠ ']' :: r' := by
  intro h
  obtain ⟨c, cs, hv, hc⟩ := v.exists_chars
  rw [hv] at h
  rw [(List.cons.inj h).1] at hc
  cases v <;> exact absurd hc (by simp [kindOfFirst, kindName])

theorem stops_itemChars (vs : List Value) (r : List Char) : Stops (chars.itemChars vs ++ r) := by
  cases vs <;> simp [chars.itemChars, Stops, IsNumeralChar]

theorem stops_memberChars (ms : List (String × Value)) (r : List Char) :
    Stops (chars.memberChars ms ++ r) := by
  cases ms <;> simp [chars.memberChars, Stops, IsNumeralChar]

mutual

/-- **The text of a value determines it**, and what comes behind it. -/
theorem chars_append_inj (v : Value) {w : Value} {r r' : List Char} (hr : Stops r)
    (hr' : Stops r') (h : v.chars ++ r = w.chars ++ r') : v = w ∧ r = r' := by
  have hk := SameKind.of_chars_append h
  -- values of one kind are compared part by part, and what follows a part stops it
  match v, w, h, hk with
  | .null, .null, h, .null => exact ⟨rfl, List.append_cancel_left h⟩
  | .bool a, .bool b, h, .bool _ _ =>
    cases a <;> cases b
    · exact ⟨rfl, List.append_cancel_left h⟩
    · exact absurd (List.cons.inj h).1 (by decide)
    · exact absurd (List.cons.inj h).1 (by decide)
    · exact ⟨rfl, List.append_cancel_left h⟩
  | .number m, .number n, h, .number _ _ =>
    obtain ⟨rfl, hrest⟩ := Number.chars_append_inj hr hr' h
    exact ⟨rfl, hrest⟩
  | .string s, .string t, h, .string _ _ =>
    obtain ⟨rfl, hrest⟩ := quoted_append_inj h
    exact ⟨rfl, hrest⟩
  | .array [], .array [], h, .array _ _ => exact ⟨rfl, List.append_cancel_left h⟩
  | .array [], .array (w :: ws), h, .array _ _ =>
    simp only [chars, List.cons_append, List.append_assoc, List.cons.injEq, true_and] at h
    exact absurd h.symm chars_append_ne_bracket
  | .array (v :: vs), .array [], h, .array _ _ =>
    simp only [chars, List.cons_append, List.append_assoc, List.cons.injEq, true_and] at h
    exact absurd h chars_append_ne_bracket
  | .array (v :: vs), .array (w :: ws), h, .array _ _ =>
    simp only [chars, List.cons_append, List.append_assoc, List.cons.injEq, true_and] at h
    obtain ⟨rfl, hitems⟩ := chars_append_inj v (stops_itemChars _ _) (stops_itemChars _ _) h
    obtain ⟨rfl, hrest⟩ := itemChars_append_inj vs hitems
    exact ⟨rfl, hrest⟩
  | .object [], .object [], h, .object _ _ => exact ⟨rfl, List.append_cancel_left h⟩
  | .object [], .object ((l, w) :: ns), h, .object _ _ =>
    exact absurd (List.cons.inj (List.cons.inj h).2).1 (by decide)
  | .object ((k, v) :: ms), .object [], h, .object _ _ =>
    exact absurd (List.cons.inj (List.cons.inj h).2).1 (by decide)
  | .object ((k, v) :: ms), .object ((l, w) :: ns), h, .object _ _ =>
    simp only [chars, List.cons_append, List.append_assoc, List.cons.injEq, true_and] at h
    obtain ⟨rfl, hmember⟩ := quoted_append_inj h
    simp only [List.cons.injEq, true_and] at hmember
    obtain ⟨rfl, hmembers⟩ :=
      chars_append_inj v (stops_memberChars _ _) (stops_memberChars _ _) hmember
    obtain ⟨rfl, hrest⟩ := memberChars_append_inj ms hmembers
    exact ⟨rfl, hrest⟩

theorem itemChars_append_inj (vs : List Value) {ws : List Value} {r r' : List Char}
    (h : chars.itemChars vs ++ r = chars.itemChars ws ++ r') : vs = ws ∧ r = r' := by
  match vs, ws, h with
  | [], [], h => exact ⟨rfl, List.append_cancel_left h⟩
  | [], w :: ws, h => exact absurd (List.cons.inj h).1 (by decide)
  | v :: vs, [], h => exact absurd (List.cons.inj h).1 (by decide)
  | v :: vs, w :: ws, h =>
    simp only [chars.itemChars, List.cons_append, List.append_assoc, List.cons.injEq,
      true_and] at h
    obtain ⟨rfl, hitems⟩ := chars_append_inj v (stops_itemChars _ _) (stops_itemChars _ _) h
    obtain ⟨rfl, hrest⟩ := itemChars_append_inj vs hitems
    exact ⟨rfl, hrest⟩

theorem memberChars_append_inj (ms : List (String × Value)) {ns : List (String × Value)}
    {r r' : List Char} (h : chars.memberChars ms ++ r = chars.memberChars ns ++ r') :
    ms = ns ∧ r = r' := by
  match ms, ns, h with
  | [], [], h => exact ⟨rfl, List.append_cancel_left h⟩
  | [], (l, w) :: ns, h => exact absurd (List.cons.inj h).1 (by decide)
  | (k, v) :: ms, [], h => exact absurd (List.cons.inj h).1 (by decide)
  | (k, v) :: ms, (l, w) :: ns, h =>
    simp only [chars.memberChars, List.cons_append, List.append_assoc, List.cons.injEq,
      true_and] at h
    obtain ⟨rfl, hmember⟩ := quoted_append_inj h
    simp only [List.cons.injEq, true_and] at hmember
    obtain ⟨rfl, hmembers⟩ :=
      chars_append_inj v (stops_memberChars _ _) (stops_memberChars _ _) hmember
    obtain ⟨rfl, hrest⟩ := memberChars_append_inj ms hmembers
    exact ⟨rfl, hrest⟩

end

/-- Different values have different texts. -/
theorem compact_injective : Function.Injective compact := by
  intro v w h
  have hchars : v.chars ++ [] = w.chars ++ [] := by
    rw [List.append_nil, List.append_nil, ← String.toList_ofList (l := v.chars),
      ← String.toList_ofList (l := w.chars)]
    exact congrArg String.toList h
  exact (chars_append_inj v (by simp [Stops]) (by simp [Stops]) hchars).1

end Value

end CustomFields.Json
