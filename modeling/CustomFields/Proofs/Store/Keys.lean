import CustomFields.Proofs.Text.Utf8
import CustomFields.Store.Persistent

/-!
# Keys of configs and records

The key of a config is the text of its tenant, a slash and its entity type. Entity types may hold
slashes of their own and may be empty; what keeps the keys apart is that the text of a tenant has
one length. For the same reason the keys of a tenant are those that start in its way, and they are
in the order of the entity types.

## Main results

* `Uuid.text_injective`, `Uuid.bytes_injective`: an id is known by its text and by its bytes
* `Uuid.parse?_text`: an id is read from its text
* `configKey_inj`: the key of a config tells its tenant and its entity type
* `tenantBytes_prefix_iff`, `configBytes_lt_iff`: what a scan for a tenant finds, and in which
  order
-/

namespace CustomFields

-- Powers are those of the core library, whatever else is imported.
attribute [local instance (high)] instPowNat

/-! ## Ids -/

theorem Digit.value?_digitChar : ∀ n < 16, Digit.value? 16 (Nat.digitChar n) = some n := by
  decide

theorem Digit.hexadecimal_add (width width' n : ℕ) :
    Digit.hexadecimal (width + width') n =
      Digit.hexadecimal width (n / 16 ^ width') ++ Digit.hexadecimal width' n := by
  induction width' generalizing n with
  | zero => simp [Digit.hexadecimal]
  | succ width' ih =>
    rw [← Nat.add_assoc, Digit.hexadecimal, ih, Digit.hexadecimal, List.append_assoc,
      Nat.div_div_eq_div_mul, ← Nat.pow_succ']

/-- What is read for the last digits of a number. -/
theorem Digit.number?_hexadecimal {width : ℕ} (hw : 0 < width) (n : ℕ) :
    Digit.number? 16 (Digit.hexadecimal width n) = some (n % 16 ^ width) := by
  have hfold (width n : ℕ) : (Digit.hexadecimal width n).foldlM
      (fun a c => (Digit.value? 16 c).map (a * 16 + ·)) 0 = some (n % 16 ^ width) := by
    induction width generalizing n with
    | zero => simp [Digit.hexadecimal, Nat.mod_one]
    | succ width ih =>
      rw [Digit.hexadecimal, List.foldlM_append, ih]
      simp only [Option.bind_eq_bind, Option.bind_some, List.foldlM_cons, List.foldlM_nil,
        Digit.value?_digitChar _ (Nat.mod_lt n (by decide : 0 < 16)), Option.map_some, pure]
      rw [Nat.pow_succ', Nat.mod_mul, Nat.mul_comm, Nat.add_comm]
  have hne : (Digit.hexadecimal width n).isEmpty = false := by
    rw [List.isEmpty_eq_false_iff, ne_eq, ← List.length_eq_zero_iff, Digit.length_hexadecimal]
    omega
  rw [Digit.number?, hne]
  exact hfold width n

namespace Uuid

/-- The form with hyphens is read group by group. -/
theorem readHyphenated?_groups {a b c d e : List Char} (ha : a.length = 8) (hb : b.length = 4)
    (hc : c.length = 4) (hd : d.length = 4) (he : e.length = 12) :
    readHyphenated? (a ++ '-' :: b ++ '-' :: c ++ '-' :: d ++ '-' :: e) =
      Digit.number? 16 (a ++ b ++ c ++ d ++ e) := by
  simp (disch := omega) [readHyphenated?, List.getElem?_append, List.getElem?_cons_zero,
    List.drop_append,
    List.drop_eq_nil_of_le, ha, hb, hc, hd, he]

/-- An id is read from its text. -/
theorem parse?_text (u : Uuid) : parse? u.text = some u := by
  obtain ⟨n, hn⟩ := u
  have hdigits : Digit.hexadecimal 8 (n / 2 ^ 96) ++ Digit.hexadecimal 4 (n / 2 ^ 80) ++
      Digit.hexadecimal 4 (n / 2 ^ 64) ++ Digit.hexadecimal 4 (n / 2 ^ 48) ++
      Digit.hexadecimal 12 (n / 2 ^ 0) = Digit.hexadecimal (8 + 4 + 4 + 4 + 12) n := by
    simp only [Digit.hexadecimal_add, Nat.div_div_eq_div_mul]
    simp
  have hread : readHyphenated? (chars ⟨n, hn⟩) = some n := by
    have hgroups := readHyphenated?_groups (Digit.length_hexadecimal 8 (n / 2 ^ 96))
      (Digit.length_hexadecimal 4 (n / 2 ^ 80)) (Digit.length_hexadecimal 4 (n / 2 ^ 64))
      (Digit.length_hexadecimal 4 (n / 2 ^ 48)) (Digit.length_hexadecimal 12 (n / 2 ^ 0))
    have hmod : n % 16 ^ (8 + 4 + 4 + 4 + 12) = n := Nat.mod_eq_of_lt hn
    rw [hdigits, Digit.number?_hexadecimal (by decide), hmod] at hgroups
    exact hgroups
  have hlength := length_chars ⟨n, hn⟩
  rw [text, parse?, String.toList_ofList]
  have hofNat : ofNat n = ⟨⟨n, hn⟩⟩ := congrArg mk (Fin.ext (Nat.mod_eq_of_lt hn))
  simp [hlength, hread, hofNat]

theorem text_injective : Function.Injective text := by
  intro u v h
  rw [← Option.some_inj, ← parse?_text u, ← parse?_text v, h]

theorem chars_injective : Function.Injective chars :=
  fun _ _ h => text_injective (congrArg String.ofList h)

theorem length_bytesOf (count n : ℕ) : (bytesOf count n).length = count := by
  induction count generalizing n with
  | zero => rfl
  | succ count ih => rw [bytesOf, List.length_append, ih, List.length_singleton]

theorem mod_eq_of_bytesOf_eq {count m n : ℕ} (h : bytesOf count m = bytesOf count n) :
    m % 256 ^ count = n % 256 ^ count := by
  induction count generalizing m n with
  | zero => rw [Nat.pow_zero, Nat.mod_one, Nat.mod_one]
  | succ count ih =>
    obtain ⟨hhigh, hlow⟩ := List.append_inj h (by simp only [length_bytesOf])
    have hbyte := congrArg UInt8.toNat (List.cons.inj hlow).1
    rw [UInt8.toNat_ofNat', UInt8.toNat_ofNat', Nat.mod_mod, Nat.mod_mod] at hbyte
    rw [Nat.pow_succ', Nat.mod_mul, Nat.mod_mul, ih hhigh, hbyte]

theorem bytes_injective : Function.Injective bytes := by
  rintro ⟨m, hm⟩ ⟨n, hn⟩ h
  have hmod : m % 2 ^ 128 = n % 2 ^ 128 := mod_eq_of_bytesOf_eq h
  rw [Nat.mod_eq_of_lt hm, Nat.mod_eq_of_lt hn] at hmod
  subst hmod
  rfl

end Uuid

/-! ## Keys of configs -/

theorem toList_configKey (t : Uuid) (e : String) :
    (configKey t e).toList = t.chars ++ '/' :: e.toList := by
  simp [configKey, Uuid.text]

theorem chars_append_inj {t u : Uuid} {r r' : List Char} (h : t.chars ++ r = u.chars ++ r') :
    t = u ∧ r = r' := by
  obtain ⟨hchars, hr⟩ := List.append_inj h (by rw [Uuid.length_chars, Uuid.length_chars])
  exact ⟨Uuid.chars_injective hchars, hr⟩

theorem configKey_inj {t u : Uuid} {e f : String} :
    configKey t e = configKey u f ↔ t = u ∧ e = f := by
  refine ⟨fun h => ?_, fun ⟨ht, he⟩ => by rw [ht, he]⟩
  have hlist := congrArg String.toList h
  rw [toList_configKey, toList_configKey] at hlist
  obtain ⟨rfl, hrest⟩ := chars_append_inj hlist
  exact ⟨rfl, String.toList_injective (List.cons.inj hrest).2⟩

namespace PersistentStore

theorem configBytes_eq (t : Uuid) (e : String) :
    configBytes t e = Utf8.encodeChars (t.chars ++ '/' :: e.toList) := by
  rw [configBytes, Utf8.toList_toUTF8, toList_configKey]

theorem tenantBytes_eq (t : Uuid) : tenantBytes t = Utf8.encodeChars (t.chars ++ ['/']) := by
  rw [tenantBytes, Utf8.toList_toUTF8]
  simp [Uuid.text]

/-- A key starts in the way of a tenant if it is a key of the tenant. -/
theorem tenantBytes_prefix_iff {t u : Uuid} {e : String} :
    tenantBytes t <+: configBytes u e ↔ t = u := by
  rw [tenantBytes_eq, configBytes_eq, Utf8.encodeChars_prefix_iff]
  constructor
  · rintro ⟨r, hr⟩
    rw [List.append_assoc] at hr
    exact (chars_append_inj hr).1
  · rintro rfl
    exact ⟨e.toList, by rw [List.append_assoc, List.singleton_append]⟩

/-- The keys of a tenant are in the order of the entity types. -/
theorem configBytes_lt_iff {t : Uuid} {e f : String} :
    configBytes t e < configBytes t f ↔ e < f := by
  rw [configBytes_eq, configBytes_eq, Utf8.encodeChars_lt_iff]
  have hmono {cs ds : List Char} (h : cs < ds) : t.chars ++ '/' :: cs < t.chars ++ '/' :: ds :=
    List.append_left_lt (List.cons_lt_cons_iff.2 (Or.inr ⟨rfl, h⟩))
  refine ⟨fun h => ?_, hmono⟩
  -- behind the id of the tenant the keys are the entity types, and their order is total
  rcases Std.lt_trichotomy e.toList f.toList with hlt | heq | hgt
  · exact hlt
  · exact absurd (heq ▸ h) (List.lt_irrefl _)
  · exact absurd h (List.lt_asymm (hmono hgt))

theorem configBytes_injective : Function.Injective fun key : String => key.toUTF8.toList := by
  intro k l h
  simp only [Utf8.toList_toUTF8] at h
  exact String.toList_injective (Utf8.encodeChars_injective h)

end PersistentStore

end CustomFields
