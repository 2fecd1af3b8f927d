import Mathlib.Data.List.ReduceOption
import CustomFields.Proofs.Calendar.Clock

/-!
# Slices of texts by bytes

A text may be cut at an offset among its bytes if the offset is a *boundary*: a character starts there,
or the text ends. Between two boundaries in order lies a slice of the text, and nowhere else. So a
slice is what is left of the text between two of its cuts, and offsets behind a part of the text are
those of the rest.

## Main definitions

* `Calendar.byteLength`: how many bytes a text has
* `Calendar.slice?`: the part of a text between two offsets
* `Calendar.findByte?`: the offset of the first character that a condition holds for

## Main results

* `Calendar.slice?_eq_some_iff`: which slices a text has
* `Calendar.cut_iff`: the two slices of a text at an offset
* `Calendar.filterMap_windows`: the slices of two bytes, from the front on
-/

namespace CustomFields.Calendar

open Decimal (IsDigits)

/-- How many bytes a text has. -/
def byteLength (cs : List Char) : ℕ := (byteCells cs).length

/-- Whether a character starts at an offset among bytes, or the text ends there. -/
def isBoundary (cells : List (Option Char)) (i : ℕ) : Bool :=
  decide (i = cells.length) || cells[i]?.join.isSome

/-- The characters of the bytes between two boundaries. -/
def cellSlice? (cells : List (Option Char)) (i j : ℕ) : Option (List Char) :=
  if i ≤ j ∧ isBoundary cells i = true ∧ isBoundary cells j = true then
    some ((cells.take j).drop i).reduceOption
  else none

/-- The part of a text between two offsets, if both are boundaries. -/
def slice? (cs : List Char) (i j : ℕ) : Option (List Char) :=
  cellSlice? (byteCells cs) i j

/-- The offset of the first character that a condition holds for. -/
def findByte? (p : Char → Bool) (cs : List Char) : Option ℕ :=
  (byteCells cs).findIdx? (Option.any p)

/-! ## Lengths -/

@[simp] theorem byteLength_nil : byteLength [] = 0 := rfl

@[simp] theorem byteLength_cons (c : Char) (cs : List Char) :
    byteLength (c :: cs) = c.utf8Size + byteLength cs :=
  length_byteCells_cons c cs

@[simp] theorem byteLength_append (cs ds : List Char) :
    byteLength (cs ++ ds) = byteLength cs + byteLength ds :=
  byteCells_length_append cs ds

theorem byteLength_eq_zero_iff {cs : List Char} : byteLength cs = 0 ↔ cs = [] := by
  cases cs with
  | nil => simp
  | cons c cs =>
    have hpos := c.utf8Size_pos
    simp only [byteLength_cons, reduceCtorEq, iff_false]
    omega

theorem length_le_byteLength (cs : List Char) : cs.length ≤ byteLength cs := by
  induction cs with
  | nil => exact Nat.le_refl _
  | cons c cs ih =>
    have hpos := c.utf8Size_pos
    rw [byteLength_cons, List.length_cons]
    omega

/-- Each character of some text is one byte. -/
theorem byteLength_eq_length {cs : List Char} (h : ∀ c ∈ cs, c.utf8Size = 1) :
    byteLength cs = cs.length := by
  induction cs with
  | nil => rfl
  | cons c cs ih =>
    obtain ⟨hc, hcs⟩ := List.forall_mem_cons.1 h
    rw [byteLength_cons, hc, ih hcs, List.length_cons, Nat.add_comm]

theorem byteLength_of_isDigits {ds : List Char} (h : IsDigits ds) : byteLength ds = ds.length :=
  byteLength_eq_length fun c hc => utf8Size_of_isDigit (h c hc)

theorem IsNumber.byteLength_eq {width : ℕ} {cs : List Char} {n : ℕ} (h : IsNumber width cs n) :
    byteLength cs = width :=
  (byteLength_of_isDigits h.digits).trans h.length_eq

/-! ## Bytes -/

theorem byteCells_append (cs ds : List Char) : byteCells (cs ++ ds) = byteCells cs ++ byteCells ds :=
  List.flatMap_append

/-- A character starts behind a part of a text if the rest starts with it. -/
theorem getElem?_byteCells_iff {before cs : List Char} {i : ℕ} {c : Char}
    (h : byteLength before = i) :
    (byteCells (before ++ cs))[i]? = some (some c) ↔ ∃ rest, cs = c :: rest := by
  rw [byteCells_append, ← h, byteLength, List.getElem?_append_right (Nat.le_refl _), Nat.sub_self]
  cases cs with
  | nil => simp [byteCells]
  | cons d rest => simp [byteCells_cons, eq_comm]

theorem reduceOption_byteCells (cs : List Char) : (byteCells cs).reduceOption = cs := by
  induction cs with
  | nil => rfl
  | cons c cs ih =>
    rw [byteCells_cons, List.reduceOption_cons_of_some, List.reduceOption_append,
      List.reduceOption_replicate_none, ih, List.nil_append]

/-- Texts that start a text in bytes of one length are the same. -/
theorem append_inj_of_byteLength {a a' b b' : List Char} (h : a ++ b = a' ++ b')
    (hlength : byteLength a = byteLength a') : a = a' ∧ b = b' := by
  have hmiddle {x y m : List Char} (hx : x = y ++ m) (hxy : byteLength x = byteLength y) :
      m = [] := by
    rw [hx, byteLength_append] at hxy
    exact byteLength_eq_zero_iff.1 (by omega)
  rcases List.append_eq_append_iff.1 h with ⟨m, ha, hb⟩ | ⟨m, ha, hb⟩
  · obtain rfl := hmiddle ha hlength.symm
    simp_all
  · obtain rfl := hmiddle ha hlength
    simp_all

/-! ## Boundaries -/

theorem isBoundary_append (cells cells' : List (Option Char)) (i : ℕ) :
    isBoundary (cells ++ cells') (cells.length + i) = isBoundary cells' i := by
  simp [isBoundary, List.getElem?_append_right]

theorem isBoundary_byteCells_zero (cs : List Char) : isBoundary (byteCells cs) 0 = true := by
  cases cs with
  | nil => rfl
  | cons c cs => rfl

/-- **The boundaries of a text** are where it can be cut in two. -/
theorem isBoundary_iff {cs : List Char} {i : ℕ} :
    isBoundary (byteCells cs) i = true ↔
      ∃ before behind, cs = before ++ behind ∧ byteLength before = i := by
  constructor
  · intro h
    induction cs generalizing i with
    | nil =>
      have hi : i = 0 := by simpa [isBoundary, byteCells] using h
      exact ⟨[], [], rfl, hi.symm⟩
    | cons c cs ih =>
      by_cases hlong : c.utf8Size ≤ i
      · -- the offset is one of the rest
        obtain ⟨i, rfl⟩ := Nat.exists_eq_add_of_le hlong
        have hsize : (byteCells [c]).length = c.utf8Size := byteLength_cons c []
        have hcells : byteCells (c :: cs) = byteCells [c] ++ byteCells cs := byteCells_append [c] cs
        rw [hcells, ← hsize, isBoundary_append] at h
        obtain ⟨before, behind, rfl, rfl⟩ := ih h
        exact ⟨c :: before, behind, rfl, byteLength_cons c before⟩
      · -- within the first character there is no boundary but its start
        obtain rfl : i = 0 := by
          by_contra hne
          obtain ⟨i, rfl⟩ := Nat.exists_eq_succ_of_ne_zero hne
          have hcell : (byteCells (c :: cs))[i + 1]? = some none := by
            rw [byteCells_cons, List.getElem?_cons_succ, List.getElem?_append_left
              (by rw [List.length_replicate]; omega), List.getElem?_replicate_of_lt (by omega)]
          have hlength : i + 1 ≠ (byteCells (c :: cs)).length := by
            rw [length_byteCells_cons]
            omega
          simp [isBoundary, hcell, hlength] at h
        exact ⟨[], c :: cs, rfl, rfl⟩
  · rintro ⟨before, behind, rfl, rfl⟩
    have hzero := isBoundary_byteCells_zero behind
    rwa [← isBoundary_append (byteCells before), ← byteCells_append] at hzero

/-! ## Slices -/

/-- **The slices of a text**: what stands between two of its cuts. -/
theorem slice?_eq_some_iff {cs m : List Char} {i j : ℕ} :
    slice? cs i j = some m ↔ ∃ before behind, cs = before ++ (m ++ behind) ∧
      byteLength before = i ∧ byteLength before + byteLength m = j := by
  -- what the bytes between the two cuts show is the part between them
  have hpart (before m behind : List Char) :
      (((byteCells (before ++ (m ++ behind))).take (byteLength before + byteLength m)).drop
        (byteLength before)).reduceOption = m := by
    rw [byteCells_append, byteCells_append, byteLength, byteLength, List.take_length_add_append,
      List.take_left, List.drop_left, reduceOption_byteCells]
  constructor
  · intro h
    rw [slice?, cellSlice?] at h
    split at h
    · rename_i hbounds
      obtain ⟨hle, hi, hj⟩ := hbounds
      obtain rfl := Option.some.inj h
      obtain ⟨before, rest, rfl, rfl⟩ := isBoundary_iff.1 hi
      obtain ⟨before', behind, hcut, rfl⟩ := isBoundary_iff.1 hj
      -- the second cut is not before the first one
      obtain ⟨m, rfl, rfl⟩ : ∃ m, before' = before ++ m ∧ rest = m ++ behind := by
        rcases List.append_eq_append_iff.1 hcut with ⟨m, hm, hrest⟩ | ⟨m, rfl, rfl⟩
        · exact ⟨m, hm, hrest⟩
        · rw [byteLength_append] at hle
          obtain rfl : m = [] := byteLength_eq_zero_iff.1 (by omega)
          exact ⟨[], by simp, by simp⟩
      rw [byteLength_append, hpart]
      exact ⟨before, behind, rfl, rfl, rfl⟩
    · cases h
  · rintro ⟨before, behind, rfl, rfl, rfl⟩
    have hi : isBoundary (byteCells (before ++ (m ++ behind))) (byteLength before) = true :=
      isBoundary_iff.2 ⟨before, m ++ behind, rfl, rfl⟩
    have hj : isBoundary (byteCells (before ++ (m ++ behind)))
        (byteLength before + byteLength m) = true :=
      isBoundary_iff.2 ⟨before ++ m, behind, by rw [List.append_assoc], byteLength_append before m⟩
    rw [slice?, cellSlice?, if_pos ⟨Nat.le_add_right _ _, hi, hj⟩, hpart]

/-- Offsets behind a part of a text are those of the rest. -/
theorem slice?_append {before cs : List Char} (i j : ℕ) :
    slice? (before ++ cs) (byteLength before + i) (byteLength before + j) = slice? cs i j := by
  rw [slice?, slice?, cellSlice?, cellSlice?, byteCells_append, byteLength, isBoundary_append,
    isBoundary_append, List.take_length_add_append, List.drop_length_add_append]
  simp only [Nat.add_le_add_iff_left]

theorem slice?_front_iff {cs m : List Char} {j : ℕ} :
    slice? cs 0 j = some m ↔ ∃ behind, cs = m ++ behind ∧ byteLength m = j := by
  rw [slice?_eq_some_iff]
  constructor
  · rintro ⟨before, behind, rfl, hbefore, rfl⟩
    obtain rfl := byteLength_eq_zero_iff.1 hbefore
    exact ⟨behind, rfl, by simp⟩
  · rintro ⟨behind, rfl, rfl⟩
    exact ⟨[], behind, rfl, rfl, by simp⟩

/-- The part of a text that starts at an offset and has some bytes. -/
theorem slice?_behind_iff {before cs m : List Char} {i : ℕ} (n : ℕ) (h : byteLength before = i) :
    slice? (before ++ cs) i (i + n) = some m ↔ ∃ behind, cs = m ++ behind ∧ byteLength m = n := by
  have hshift := @slice?_append before cs 0 n
  rw [Nat.add_zero, h] at hshift
  rw [hshift, slice?_front_iff]

theorem slice?_back_iff {cs m : List Char} {i : ℕ} :
    slice? cs i (byteLength cs) = some m ↔ ∃ before, cs = before ++ m ∧ byteLength before = i := by
  rw [slice?_eq_some_iff]
  constructor
  · rintro ⟨before, behind, rfl, hbefore, hlength⟩
    rw [byteLength_append, byteLength_append] at hlength
    obtain rfl : behind = [] := byteLength_eq_zero_iff.1 (by omega)
    exact ⟨before, by rw [List.append_nil], hbefore⟩
  · rintro ⟨before, rfl, rfl⟩
    exact ⟨before, [], by rw [List.append_nil], rfl, (byteLength_append before m).symm⟩

/-- The two slices of a text at an offset. -/
theorem cut_iff {cs a b : List Char} {i : ℕ} :
    (slice? cs 0 i = some a ∧ slice? cs i (byteLength cs) = some b) ↔
      cs = a ++ b ∧ byteLength a = i := by
  rw [slice?_front_iff, slice?_back_iff]
  constructor
  · rintro ⟨⟨behind, rfl, rfl⟩, before, hcut, hlength⟩
    obtain ⟨rfl, rfl⟩ := append_inj_of_byteLength hcut hlength.symm
    exact ⟨rfl, rfl⟩
  · rintro ⟨rfl, rfl⟩
    exact ⟨⟨b, rfl, rfl⟩, a, rfl, rfl⟩

/-- The offset that is found is that of the first character for which the condition holds. -/
theorem findByte?_append {p : Char → Bool} {before : List Char} {c : Char} (behind : List Char)
    (hbefore : ∀ d ∈ before, p d = false) (hc : p c = true) :
    findByte? p (before ++ c :: behind) = some (byteLength before) := by
  induction before with
  | nil => simp [findByte?, byteCells_cons, List.findIdx?_cons, hc]
  | cons d before ih =>
    obtain ⟨hd, hbefore⟩ := List.forall_mem_cons.1 hbefore
    have hcells : byteCells (d :: (before ++ c :: behind)) =
        byteCells [d] ++ byteCells (before ++ c :: behind) := byteCells_append [d] _
    have hsize : (byteCells [d]).length = d.utf8Size := byteLength_cons d []
    have hfirst : (byteCells [d]).findIdx? (Option.any p) = none := by
      simp [byteCells, List.findIdx?_eq_none_iff, hd]
    rw [List.cons_append, findByte?, hcells, List.findIdx?_append, hfirst, ← findByte?, ih hbefore,
      hsize, byteLength_cons, Nat.add_comm]
    rfl

theorem findByte?_eq_none {p : Char → Bool} {cs : List Char} (h : ∀ c ∈ cs, p c = false) :
    findByte? p cs = none := by
  rw [findByte?, List.findIdx?_eq_none_iff]
  intro cell hcell
  cases cell with
  | none => rfl
  | some c =>
    have hc : c ∈ (byteCells cs).reduceOption := List.reduceOption_mem_iff.2 hcell
    rw [reduceOption_byteCells] at hc
    exact h c hc

/-! ## Windows -/

theorem cellSlice?_cons_cons (a b : Option Char) (rest : List (Option Char)) (i j : ℕ) :
    cellSlice? (a :: b :: rest) (i + 2) (j + 2) = cellSlice? rest i j := by
  simp [cellSlice?, isBoundary]

/-- The first window, if it starts and ends at boundaries. -/
theorem cellSlice?_window (a b : Option Char) (rest : List (Option Char)) :
    cellSlice? (a :: b :: rest) 0 2 =
      if (a.isSome && isBoundary rest 0) = true then some (a.toList ++ b.toList) else none := by
  have hstart : isBoundary (a :: b :: rest) 0 = a.isSome := by simp [isBoundary]
  have hend : isBoundary (a :: b :: rest) 2 = isBoundary rest 0 :=
    isBoundary_append [a, b] rest 0
  have hpart : (((a :: b :: rest).take 2).drop 0).reduceOption = a.toList ++ b.toList := by
    cases a <;> cases b <;> rfl
  rw [cellSlice?, hstart, hend, hpart]
  simp

theorem byteWindows_cons_cons (a b : Option Char) (rest : List (Option Char)) :
    byteWindows (a :: b :: rest) =
      if (a.isSome && isBoundary rest 0) = true then (a.toList ++ b.toList) :: byteWindows rest
      else byteWindows rest := by
  cases rest <;> simp [byteWindows, isBoundary]

/-- **The windows of two bytes** are the slices at each second offset. -/
theorem filterMap_windows : ∀ {cells : List (Option Char)}, cells.length % 2 = 0 →
    (List.range' 0 (cells.length / 2) 2).filterMap (fun i => cellSlice? cells i (i + 2)) =
      byteWindows cells
  | [], _ => rfl
  | [_], h => absurd h (by simp)
  | a :: b :: rest, h => by
    have hrest : rest.length % 2 = 0 := by
      rw [List.length_cons, List.length_cons] at h
      omega
    have hhalf : (a :: b :: rest).length / 2 = rest.length / 2 + 1 := by
      rw [List.length_cons, List.length_cons]
      omega
    -- the offsets behind the first window are those of the rest, two further on
    have hshift : List.range' (0 + 2) (rest.length / 2) 2 =
        (List.range' 0 (rest.length / 2) 2).map (2 + ·) :=
      (List.map_add_range' 0 _ 2).symm
    have hbehind : ((fun i => cellSlice? (a :: b :: rest) i (i + 2)) ∘ (2 + ·)) =
        fun i => cellSlice? rest i (i + 2) := by
      funext i
      rw [Function.comp_apply, Nat.add_comm 2 i, cellSlice?_cons_cons]
    rw [hhalf, List.range'_succ, List.filterMap_cons, cellSlice?_window, hshift,
      List.filterMap_map, hbehind, filterMap_windows hrest, byteWindows_cons_cons]
    cases a.isSome && isBoundary rest 0 <;> rfl

end CustomFields.Calendar
