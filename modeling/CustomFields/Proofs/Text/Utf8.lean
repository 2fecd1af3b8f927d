import Mathlib.Data.List.Basic
import CustomFields.Text.Utf8

/-!
# The order of texts as bytes

The bytes of texts in UTF-8 are in the order of the texts, and one text starts another if its bytes
start those of the other. Both come from one fact about two characters: the bytes of the smaller
one are the smaller bytes, whatever follows either of them.

## Main results

* `utf8EncodeChar_append_lt`: the bytes of the smaller character are smaller
* `encodeChars_lt_iff`, `encodeChars_prefix_iff`: order and beginnings of texts are those of their
  bytes
* `exists_char_of_ascii`: an ASCII byte is a character of its own
-/

namespace CustomFields.Utf8

/-! ## Two characters -/

theorem toNat_val_lt (c : Char) : c.val.toNat < 0x110000 := by
  rcases c.valid with h | h <;> simp only [UInt32.toNat] at * <;> omega

theorem cons_lt_cons_of_lt {a b : ℕ} {l l' : List UInt8} (hab : a < b) (hb : b < 256) :
    UInt8.ofNat a :: l < UInt8.ofNat b :: l' := by
  rw [List.cons_lt_cons_iff, UInt8.lt_iff_toNat_lt, UInt8.toNat_ofNat', UInt8.toNat_ofNat',
    Nat.mod_eq_of_lt (Nat.lt_trans hab hb), Nat.mod_eq_of_lt hb]
  exact Or.inl hab

/-- Of two numbers, the one with the smaller digit at a place comes first, and where the digits are
equal the places below decide. -/
theorem cons_digit_lt {x y m k p : ℕ} {l l' : List UInt8} (hm : 0 < m) (hk : 0 < k)
    (hp : k + p ≤ 256) (h : x % (m * k) < y % (m * k)) (hrest : x % m < y % m → l < l') :
    UInt8.ofNat (x / m % k + p) :: l < UInt8.ofNat (y / m % k + p) :: l' := by
  rw [Nat.mod_mul, Nat.mod_mul] at h
  -- the digit at the place decides, or the places below it
  rcases Nat.lt_trichotomy (x / m % k) (y / m % k) with hlt | heq | hgt
  · have hy : y / m % k < k := Nat.mod_lt _ hk
    exact cons_lt_cons_of_lt (Nat.add_lt_add_right hlt p) (by omega)
  · rw [heq] at h ⊢
    exact List.cons_lt_cons_iff.2 (Or.inr ⟨rfl, hrest (Nat.lt_of_add_lt_add_right h)⟩)
  · have hlow : y % m < m := Nat.mod_lt y hm
    have hhigh := Nat.mul_le_mul_left m hgt
    rw [Nat.mul_succ] at hhigh
    omega

/-- **The bytes of the smaller character are the smaller bytes**, whatever follows. -/
theorem utf8EncodeChar_append_lt {c d : Char} (h : c < d) (r r' : List UInt8) :
    String.utf8EncodeChar c ++ r < String.utf8EncodeChar d ++ r' := by
  have hcd : c.val.toNat < d.val.toNat := h
  have hd := toNat_val_lt d
  unfold String.utf8EncodeChar
  generalize c.val.toNat = x at *
  generalize d.val.toNat = y at *
  simp only [apply_ite (· ++ r), apply_ite (· ++ r'), List.cons_append, List.nil_append]
  -- an encoding that is longer starts with a larger byte; two of one length differ in a digit
  split_ifs
  · exact cons_lt_cons_of_lt hcd (by omega)
  · exact cons_lt_cons_of_lt (by omega) (by omega)
  · exact cons_lt_cons_of_lt (by omega) (by omega)
  · exact cons_lt_cons_of_lt (by omega) (by omega)
  · omega
  · refine cons_digit_lt (by decide) (by decide) (by decide) (by omega) fun h => ?_
    exact cons_lt_cons_of_lt (Nat.add_lt_add_right h _) (by omega)
  · exact cons_lt_cons_of_lt (by omega) (by omega)
  · exact cons_lt_cons_of_lt (by omega) (by omega)
  · omega
  · omega
  · refine cons_digit_lt (by decide) (by decide) (by decide) (by omega) fun h => ?_
    refine cons_digit_lt (by decide) (by decide) (by decide) h fun h => ?_
    exact cons_lt_cons_of_lt (Nat.add_lt_add_right h _) (by omega)
  · exact cons_lt_cons_of_lt (by omega) (by omega)
  · omega
  · omega
  · omega
  · refine cons_digit_lt (by decide) (by decide) (by decide) (by omega) fun h => ?_
    refine cons_digit_lt (by decide) (by decide) (by decide) h fun h => ?_
    refine cons_digit_lt (by decide) (by decide) (by decide) h fun h => ?_
    exact cons_lt_cons_of_lt (Nat.add_lt_add_right h _) (by omega)

/-! ## Texts -/

/-- The bytes of characters. -/
def encodeChars (cs : List Char) : List UInt8 :=
  cs.flatMap String.utf8EncodeChar

theorem encodeChars_cons (c : Char) (cs : List Char) :
    encodeChars (c :: cs) = String.utf8EncodeChar c ++ encodeChars cs := rfl

theorem encodeChars_append (cs ds : List Char) :
    encodeChars (cs ++ ds) = encodeChars cs ++ encodeChars ds :=
  List.flatMap_append

theorem encodeChars_cons_ne_nil (c : Char) (cs : List Char) : encodeChars (c :: cs) ≠ [] := by
  rw [encodeChars_cons]
  exact List.append_ne_nil_of_left_ne_nil (String.utf8EncodeChar_ne_nil) _

theorem encodeChars_lt {cs ds : List Char} (h : cs < ds) : encodeChars cs < encodeChars ds := by
  induction cs generalizing ds with
  | nil =>
    cases ds with
    | nil => exact absurd h (List.lt_irrefl [])
    | cons d ds =>
      obtain ⟨b, bs, hb⟩ := List.exists_cons_of_ne_nil (encodeChars_cons_ne_nil d ds)
      rw [hb]
      exact List.nil_lt_cons b bs
  | cons c cs ih =>
    cases ds with
    | nil => exact absurd h (List.not_lt_nil _)
    | cons d ds =>
      rw [encodeChars_cons, encodeChars_cons]
      -- texts are compared at the first character in which they differ
      rcases List.cons_lt_cons_iff.1 h with hlt | ⟨rfl, hlt⟩
      · exact utf8EncodeChar_append_lt hlt _ _
      · exact List.append_left_lt (ih hlt)

theorem encodeChars_lt_iff {cs ds : List Char} : encodeChars cs < encodeChars ds ↔ cs < ds := by
  refine ⟨fun h => ?_, encodeChars_lt⟩
  rcases Std.lt_trichotomy cs ds with hlt | rfl | hgt
  · exact hlt
  · exact absurd h (List.lt_irrefl _)
  · exact absurd h (List.lt_asymm (encodeChars_lt hgt))

theorem encodeChars_prefix_iff {cs ds : List Char} :
    encodeChars cs <+: encodeChars ds ↔ cs <+: ds := by
  constructor
  · intro h
    induction cs generalizing ds with
    | nil => exact List.nil_prefix
    | cons c cs ih =>
      cases ds with
      | nil => exact absurd (List.prefix_nil.1 h) (encodeChars_cons_ne_nil c cs)
      | cons d ds =>
        obtain ⟨t, ht⟩ := h
        rw [encodeChars_cons, encodeChars_cons, List.append_assoc] at ht
        -- the same bytes begin with the same character, or one of them would be smaller
        rcases Std.lt_trichotomy c d with hlt | rfl | hgt
        · exact absurd (ht ▸ utf8EncodeChar_append_lt hlt _ _) (List.lt_irrefl _)
        · exact List.cons_prefix_cons.2 ⟨rfl, ih ⟨t, List.append_cancel_left ht⟩⟩
        · exact absurd (ht ▸ utf8EncodeChar_append_lt hgt _ _) (List.lt_irrefl _)
  · rintro ⟨t, rfl⟩
    exact ⟨encodeChars t, (encodeChars_append cs t).symm⟩

theorem encodeChars_injective : Function.Injective encodeChars := by
  intro cs ds h
  have hprefix : cs <+: ds := encodeChars_prefix_iff.1 (h ▸ List.prefix_refl _)
  have hprefix' : ds <+: cs := encodeChars_prefix_iff.1 (h ▸ List.prefix_refl _)
  exact hprefix.eq_of_length_le hprefix'.length_le

/-! ## ASCII bytes -/

/-- A character whose bytes have one below `0x80` among them is that byte. -/
theorem utf8EncodeChar_eq_of_mem {c : Char} {x : UInt8} (h : x ∈ String.utf8EncodeChar c)
    (hx : x.toNat < 0x80) : String.utf8EncodeChar c = [x] := by
  unfold String.utf8EncodeChar at h ⊢
  generalize c.val.toNat = n at h ⊢
  dsimp only at h ⊢
  split_ifs at h ⊢
  · rw [List.mem_singleton.1 h]
  -- the bytes of a longer character have their highest bit set
  all_goals
    simp only [List.mem_cons, List.not_mem_nil, or_false] at h
    rcases h with rfl | rfl | rfl | rfl <;> rw [UInt8.toNat_ofNat'] at hx <;> omega

/-- **An ASCII byte of a text is one of its characters**, and cuts the text where it cuts the
bytes. -/
theorem exists_char_of_ascii {cs : List Char} {before behind : List UInt8} {x : UInt8}
    (h : encodeChars cs = before ++ x :: behind) (hx : x.toNat < 0x80) :
    ∃ front c back, cs = front ++ c :: back ∧ encodeChars front = before ∧
      String.utf8EncodeChar c = [x] ∧ encodeChars back = behind := by
  induction cs generalizing before with
  | nil => simp [encodeChars] at h
  | cons c cs ih =>
    -- the byte stands behind the first character, or it is one of its bytes
    have hrest {before' : List UInt8} (hbefore : before = String.utf8EncodeChar c ++ before')
        (h' : encodeChars cs = before' ++ x :: behind) :
        ∃ front d back, c :: cs = front ++ d :: back ∧ encodeChars front = before ∧
          String.utf8EncodeChar d = [x] ∧ encodeChars back = behind := by
      obtain ⟨front, d, back, rfl, rfl, hd, rfl⟩ := ih h'
      exact ⟨c :: front, d, back, rfl, hbefore.symm, hd, rfl⟩
    rw [encodeChars_cons] at h
    rcases List.append_eq_append_iff.1 h with ⟨before', hbefore, h'⟩ | ⟨rest, hc, h'⟩
    · exact hrest hbefore h'
    · cases rest with
      | nil =>
        rw [List.append_nil] at hc
        exact @hrest [] (by rw [hc, List.append_nil]) h'.symm
      | cons y rest =>
        obtain ⟨rfl, hbehind⟩ := List.cons.inj h'
        have hsingle := utf8EncodeChar_eq_of_mem (hc ▸ List.mem_append_right before
          List.mem_cons_self) hx
        obtain ⟨rfl, rfl⟩ : before = [] ∧ rest = [] := by
          rw [hsingle] at hc
          simpa [List.append_eq_singleton_iff, eq_comm] using hc.symm
        exact ⟨[], c, cs, rfl, rfl, hsingle, hbehind.symm⟩

theorem toList_loop (b : ByteArray) (i : ℕ) (r : List UInt8) :
    ByteArray.toList.loop b i r = r.reverse ++ b.data.toList.drop i := by
  fun_induction ByteArray.toList.loop b i r with
  | case1 i r h ih =>
    have hdrop : b.data.toList.drop i = b.get! i :: b.data.toList.drop (i + 1) := by
      have hi : i < b.data.toList.length := h
      rw [List.drop_eq_getElem_cons hi]
      simp [ByteArray.get!, h]
    rw [ih, List.reverse_cons, List.append_assoc, List.singleton_append, ← hdrop]
  | case2 i r h =>
    rw [List.drop_eq_nil_of_le (by simpa using h), List.append_nil]

theorem toList_toUTF8 (s : String) : s.toUTF8.toList = encodeChars s.toList := by
  have hlist : s.toUTF8.toList = s.toByteArray.data.toList := by
    rw [ByteArray.toList, toList_loop, List.reverse_nil, List.nil_append, List.drop_zero]
    rfl
  rw [hlist, ← String.utf8Encode_toList, encodeChars]
  exact List.toList_data_toByteArray

end CustomFields.Utf8
