import CustomFields.Http.Route
import CustomFields.Proofs.Store.Keys
import Mathlib.Data.List.TakeDrop
import Mathlib.Data.List.TakeWhile

/-!
# Paths of configs and records

A config has a path that is built from its tenant and its entity type, and a record one that is built
from its id. The entity type is percent-encoded, so that no character of it ends the part that it
stands in, and all characters of the path may stand in a target. A request for such a path is
therefore one for the very config or record that the path was built for.

## Main definitions

* `Percent.text`: the percent-encoded form of a text
* `Http.pathOf`: the path with some parts
* `Http.configPath`, `Http.recordPath`: the paths of configs and records
* `Http.Resource.Offers`: the operations of the resources

## Main results

* `Percent.decode_encode`: decoding inverts encoding
* `Http.Target.parse?_pathOf`, `Http.Target.segments_pathOf`: a path is read as its parts
* `Http.Routing.find_configPath`, `Http.Routing.find_recordPath`: where requests for paths go
* `Http.Routing.offers_or_page_of_ofResource`: what is found for a request
-/

namespace CustomFields

/-! ## Percent encoding -/

namespace Percent

theorem forall_byte {P : UInt8 → Prop} (h : ∀ n < 256, P (UInt8.ofNat n)) (b : UInt8) : P b := by
  have hb := h b.toNat b.toNat_lt
  rwa [UInt8.ofNat_toNat] at hb

/-- The two digits of a byte are read as that byte. -/
theorem byte?_digit (b : UInt8) : byte? (digit (b / 16)) (digit (b % 16)) = some b :=
  forall_byte (P := fun b => byte? (digit (b / 16)) (digit (b % 16)) = some b) (by decide +kernel) b

theorem decode_cons_of_ne {b : UInt8} (h : b ≠ 0x25) (rest : List UInt8) :
    decode (b :: rest) = b :: decode rest := by
  rw [decode]
  exact fun _ _ _ hb => absurd hb h

theorem ne_percent_of_isUnreserved {b : UInt8} (h : isUnreserved b = true) : b ≠ 0x25 := by
  rintro rfl
  cases h

theorem decode_encodeByte_append (b : UInt8) (rest : List UInt8) :
    decode (encodeByte b ++ rest) = b :: decode rest := by
  unfold encodeByte
  split
  · rename_i h
    exact decode_cons_of_ne (ne_percent_of_isUnreserved h) rest
  · show decode (0x25 :: digit (b / 16) :: digit (b % 16) :: rest) = b :: decode rest
    rw [decode, byte?_digit]

/-- **Decoding inverts encoding.** -/
theorem decode_encode (bytes : List UInt8) : decode (encode bytes) = bytes := by
  induction bytes with
  | nil => rfl
  | cons b bytes ih => rw [encode, List.flatMap_cons, decode_encodeByte_append, ← encode, ih]

/-- Without a percent sign nothing is decoded. -/
theorem decode_of_notMem {bytes : List UInt8} (h : 0x25 ∉ bytes) : decode bytes = bytes := by
  induction bytes with
  | nil => rfl
  | cons b bytes ih =>
    obtain ⟨hb, hbytes⟩ := not_or.1 (mt List.mem_cons.2 h)
    rw [decode_cons_of_ne (Ne.symm hb), ih hbytes]

/-- Nothing but the empty row is decoded to nothing. -/
theorem decode_ne_nil {bytes : List UInt8} (h : bytes ≠ []) : decode bytes ≠ [] := by
  unfold decode
  split
  · split <;> exact List.cons_ne_nil _ _
  · exact List.cons_ne_nil _ _
  · exact absurd rfl h

/-- An encoded row has unreserved bytes and percent signs only. -/
theorem of_mem_encode {b : UInt8} {bytes : List UInt8} (h : b ∈ encode bytes) :
    isUnreserved b = true ∨ b = 0x25 := by
  obtain ⟨b', -, hb⟩ := List.mem_flatMap.1 h
  unfold encodeByte at hb
  split at hb
  · rename_i hb'
    exact .inl (List.mem_singleton.1 hb ▸ hb')
  · have hdigits : isUnreserved (digit (b' / 16)) = true ∧ isUnreserved (digit (b' % 16)) = true :=
      forall_byte (P := fun b => isUnreserved (digit (b / 16)) = true ∧
        isUnreserved (digit (b % 16)) = true) (by decide +kernel) b'
    simp only [List.mem_cons, List.not_mem_nil, or_false] at hb
    rcases hb with rfl | rfl | rfl
    · exact .inr rfl
    · exact .inl hdigits.1
    · exact .inl hdigits.2

/-- The percent-encoded form of a text. -/
def text (s : String) : String :=
  String.ofList ((encode (Utf8.encode s)).map fun b => Char.ofNat b.toNat)

end Percent

theorem Utf8.encode_eq (s : String) : encode s = encodeChars s.toList := by
  rw [encode, ← String.utf8Encode_toList, encodeChars]
  simp [List.utf8Encode]

theorem Utf8.eq_of_decode? {bytes : List UInt8} {s : String} (h : decode? bytes = some s) :
    bytes = encode s := by
  unfold decode? String.fromUTF8? at h
  split at h
  · obtain rfl := Option.some.inj h
    rfl
  · cases h

/-! ## Parts of paths -/

namespace Http

/-- A character that may stand in a part of a path, as it is. -/
structure IsPartChar (c : Char) : Prop where
  ne_slash : c ≠ '/'
  ne_question : c ≠ '?'
  ne_hash : c ≠ '#'
  isPathChar : Target.isPathChar c = true

instance (c : Char) : Decidable (IsPartChar c) :=
  decidable_of_iff (c ≠ '/' ∧ c ≠ '?' ∧ c ≠ '#' ∧ Target.isPathChar c = true)
    ⟨fun ⟨h₁, h₂, h₃, h₄⟩ => ⟨h₁, h₂, h₃, h₄⟩, fun ⟨h₁, h₂, h₃, h₄⟩ => ⟨h₁, h₂, h₃, h₄⟩⟩

/-- A text that may stand as a part of a path. -/
def IsPart (s : String) : Prop :=
  ∀ c ∈ s.toList, IsPartChar c

instance (s : String) : Decidable (IsPart s) :=
  List.decidableBAll IsPartChar s.toList

theorem isPartChar_of_byte {b : UInt8} (h : Percent.isUnreserved b = true ∨ b = 0x25) :
    IsPartChar (Char.ofNat b.toNat) ∧
      String.utf8EncodeChar (Char.ofNat b.toNat) = [b] :=
  Percent.forall_byte (P := fun b => Percent.isUnreserved b = true ∨ b = 0x25 →
    IsPartChar (Char.ofNat b.toNat) ∧ String.utf8EncodeChar (Char.ofNat b.toNat) = [b])
    (by decide +kernel) b h

/-- **An encoded text is a part of a path.** -/
theorem isPart_text (s : String) : IsPart (Percent.text s) := by
  intro c hc
  rw [Percent.text, String.toList_ofList] at hc
  obtain ⟨b, hb, rfl⟩ := List.mem_map.1 hc
  exact (isPartChar_of_byte (Percent.of_mem_encode hb)).1

theorem encode_text (s : String) : Utf8.encode (Percent.text s) = Percent.encode (Utf8.encode s) := by
  rw [Utf8.encode_eq, Percent.text, String.toList_ofList, Utf8.encodeChars, List.flatMap_map]
  have hbytes : ∀ b ∈ Percent.encode (Utf8.encode s),
      String.utf8EncodeChar (Char.ofNat b.toNat) = [b] :=
    fun b hb => (isPartChar_of_byte (Percent.of_mem_encode hb)).2
  rw [List.flatMap_congr hbytes]
  simp

/-- An encoded text is read as the text. -/
theorem segmentText?_text (s : String) : segmentText? (Percent.text s) = some s := by
  rw [segmentText?, encode_text, Percent.decode_encode, Utf8.decode?_encode]

theorem text_ne_empty {s : String} (h : s ≠ "") : Percent.text s ≠ "" := by
  intro hempty
  have hread := segmentText?_text s
  rw [hempty] at hread
  exact h (Option.some.inj hread).symm

/-- What is read for a part that is not empty is not empty. -/
theorem ne_empty_of_segmentText? {segment e : String} (h : segmentText? segment = some e)
    (hsegment : segment ≠ "") : e ≠ "" := by
  rintro rfl
  refine Percent.decode_ne_nil ?_ (Utf8.eq_of_decode? h)
  intro hnil
  have hread := Utf8.decode?_encode segment
  rw [hnil] at hread
  exact hsegment (Option.some.inj hread).symm

/-! ## Ids -/

/-- The characters of the texts of ids. -/
def idChars : List Char := "0123456789abcdef-".toList

theorem mem_idChars_of_mem_chars {u : Uuid} {c : Char} (h : c ∈ u.chars) : c ∈ idChars := by
  have hdigits {width n : ℕ} (h : c ∈ Digit.hexadecimal width n) : c ∈ idChars := by
    induction width generalizing n with
    | zero => cases h
    | succ width ih =>
      rcases List.mem_append.1 h with h | h
      · exact ih h
      · rw [List.mem_singleton.1 h]
        have hall : ∀ d < 16, Nat.digitChar d ∈ idChars := by decide
        exact hall _ (Nat.mod_lt _ (by decide))
  have hyphen : '-' ∈ idChars := by decide
  simp only [Uuid.chars, List.mem_append, List.mem_cons] at h
  rcases h with (((h | rfl | h) | rfl | h) | rfl | h) | rfl | h
  all_goals first | exact hdigits h | exact hyphen

theorem isPart_uuid (u : Uuid) : IsPart u.text := by
  intro c hc
  rw [Uuid.text, String.toList_ofList] at hc
  have hall : idChars.all (IsPartChar ·) = true := by decide +kernel
  exact of_decide_eq_true (List.all_eq_true.1 hall c (mem_idChars_of_mem_chars hc))

/-- The text of an id is read as it is, and as that id. -/
theorem segmentId?_text (u : Uuid) : segmentId? u.text = some u := by
  have hbytes : (0x25 : UInt8) ∉ Utf8.encode u.text := by
    intro h
    rw [Utf8.encode_eq, Uuid.text, String.toList_ofList] at h
    obtain ⟨c, hc, hb⟩ := List.mem_flatMap.1 h
    have hall : idChars.all (0x25 ∉ String.utf8EncodeChar ·) = true := by decide +kernel
    exact of_decide_eq_true (List.all_eq_true.1 hall c (mem_idChars_of_mem_chars hc)) hb
  have htext : segmentText? u.text = some u.text := by
    rw [segmentText?, Percent.decode_of_notMem hbytes, Utf8.decode?_encode]
  simp only [segmentId?, htext, Option.bind_eq_bind, Option.bind_some, u.parse?_text]

theorem uuid_text_ne_empty (u : Uuid) : u.text ≠ "" := by
  intro h
  have hread := u.parse?_text
  rw [h] at hread
  cases hread

/-! ## Paths -/

/-- The path with some parts. -/
def pathOf (parts : List String) : String :=
  String.ofList (parts.flatMap fun part => '/' :: part.toList)

namespace Target

variable {parts : List String}

/-- **A path has the parts that it was built from.** -/
theorem segments_pathOf (h : ∀ part ∈ parts, IsPart part) (query : String) :
    segments ⟨pathOf parts, query⟩ = "" :: parts := by
  have hsplit {part : List Char} (hpart : '/' ∉ part) (parts : List String)
      (h : ∀ part ∈ parts, IsPart part) :
      Text.split '/' (part ++ parts.flatMap fun part => '/' :: part.toList) =
        part :: parts.map String.toList := by
    induction parts generalizing part with
    | nil => rw [List.flatMap_nil, List.append_nil, Text.split_of_notMem hpart, List.map_nil]
    | cons p parts ih =>
      obtain ⟨hp, hparts⟩ := List.forall_mem_cons.1 h
      have hslash : '/' ∉ p.toList := fun hmem => (hp _ hmem).ne_slash rfl
      rw [List.flatMap_cons, List.cons_append, Text.split_append hpart, ih hslash hparts,
        List.map_cons]
  have hpath := hsplit List.not_mem_nil parts h
  rw [List.nil_append] at hpath
  rw [segments, pathOf, String.toList_ofList, hpath, List.map_cons, List.map_map]
  simp [Function.comp_def]

/-- **A path is the target that is read for it.** -/
theorem parse?_pathOf (h : ∀ part ∈ parts, IsPart part) (hparts : parts ≠ [])
    (hsize : (pathOf parts).utf8ByteSize ≤ maxSize) :
    parse? (pathOf parts) = some ⟨pathOf parts, ""⟩ := by
  obtain ⟨cs, hcs⟩ : ∃ cs, parts.flatMap (fun part => '/' :: part.toList) = '/' :: cs := by
    obtain ⟨p, ps, rfl⟩ := List.exists_cons_of_ne_nil hparts
    exact ⟨_, rfl⟩
  -- slashes and the characters of parts stand in a path, and nothing ends it
  have hchars : ∀ c ∈ '/' :: cs, c ≠ '#' ∧ c ≠ '?' ∧ isPathChar c = true := by
    intro c hc
    rw [← hcs] at hc
    obtain ⟨part, hpart, hc⟩ := List.mem_flatMap.1 hc
    rcases List.mem_cons.1 hc with rfl | hc
    · decide
    · have hplain := h part hpart c hc
      exact ⟨hplain.ne_hash, hplain.ne_question, hplain.isPathChar⟩
  have htake : ('/' :: cs).takeWhile (· != '#') = '/' :: cs :=
    List.takeWhile_eq_self_iff.2 fun c hc => bne_iff_ne.2 (hchars c hc).1
  have hspan : ('/' :: cs).span (· != '?') = ('/' :: cs, []) := by
    rw [List.span_eq_takeWhile_dropWhile,
      List.takeWhile_eq_self_iff.2 fun c hc => bne_iff_ne.2 (hchars c hc).2.1,
      List.dropWhile_eq_nil_iff.2 fun c hc => bne_iff_ne.2 (hchars c hc).2.1]
  have hall : ('/' :: cs).all isPathChar = true :=
    List.all_eq_true.2 fun c hc => (hchars c hc).2.2
  have hpath : pathOf parts = String.ofList ('/' :: cs) := congrArg String.ofList hcs
  have hread : readPath? ('/' :: cs) = some ⟨String.ofList ('/' :: cs), ""⟩ := by
    simp only [readPath?, htake, hspan, hall]
    rfl
  rw [hpath] at hsize ⊢
  simp only [parse?, String.toList_ofList, if_neg (Nat.not_lt.2 hsize)]
  exact hread

end Target

/-- The path of the config of a tenant and an entity type. -/
def configPath (t : Uuid) (e : String) : String :=
  pathOf ["api", "v1", "entity-configs", t.text, Percent.text e]

/-- The path of the record with an id. -/
def recordPath (id : Uuid) : String :=
  pathOf ["api", "v1", "records", id.text]

theorem isPart_of_mem_configPath (t : Uuid) (e : String) :
    ∀ part ∈ ["api", "v1", "entity-configs", t.text, Percent.text e], IsPart part := by
  have hwords : ∀ part ∈ ["api", "v1", "entity-configs"], IsPart part := by decide +kernel
  intro part hpart
  rcases List.mem_append.1 (show part ∈ ["api", "v1", "entity-configs"] ++ [t.text, Percent.text e]
    from hpart) with hpart | hpart
  · exact hwords part hpart
  · simp only [List.mem_cons, List.not_mem_nil, or_false] at hpart
    rcases hpart with rfl | rfl
    · exact isPart_uuid t
    · exact isPart_text e

theorem isPart_of_mem_recordPath (id : Uuid) :
    ∀ part ∈ ["api", "v1", "records", id.text], IsPart part := by
  have hwords : ∀ part ∈ ["api", "v1", "records"], IsPart part := by decide +kernel
  intro part hpart
  rcases List.mem_append.1 (show part ∈ ["api", "v1", "records"] ++ [id.text] from hpart) with
    hpart | hpart
  · exact hwords part hpart
  · obtain rfl := List.mem_singleton.1 hpart
    exact isPart_uuid id

namespace Target

theorem parse?_configPath {t : Uuid} {e : String} (hsize : (configPath t e).utf8ByteSize ≤ maxSize) :
    parse? (configPath t e) = some ⟨configPath t e, ""⟩ :=
  parse?_pathOf (isPart_of_mem_configPath t e) (List.cons_ne_nil _ _) hsize

theorem parse?_recordPath {id : Uuid} (hsize : (recordPath id).utf8ByteSize ≤ maxSize) :
    parse? (recordPath id) = some ⟨recordPath id, ""⟩ :=
  parse?_pathOf (isPart_of_mem_recordPath id) (List.cons_ne_nil _ _) hsize

end Target

namespace Routing

variable {t id : Uuid} {e : String}

/-- **A path leads to the config that it was built for.** -/
theorem find_configPath (he : e ≠ "") (query : String) :
    find "GET" ⟨configPath t e, query⟩ = .endpoint (.operation (.getConfig t e)) := by
  have hresource : Resource.of? ⟨configPath t e, query⟩ =
      some (.config t.text (Percent.text e)) := by
    rw [Resource.of?, configPath, Target.segments_pathOf (isPart_of_mem_configPath t e)]
    simp [Resource.ofParts?, uuid_text_ne_empty, text_ne_empty he]
  have hroute : ofResource "GET" (.config t.text (Percent.text e)) =
      (do return Operation.getConfig (← segmentId? t.text) (← segmentText? (Percent.text e)) :
        Option Operation).elim .unreadablePath (.endpoint ∘ .operation) := rfl
  rw [find, hresource]
  simp only [reduceIte, String.reduceEq]
  rw [hroute, segmentId?_text, segmentText?_text]
  rfl

/-- **A path leads to the record that it was built for.** -/
theorem find_recordPath (query : String) :
    find "GET" ⟨recordPath id, query⟩ = .endpoint (.operation (.getRecord id)) := by
  have hresource : Resource.of? ⟨recordPath id, query⟩ = some (.record id.text) := by
    rw [Resource.of?, recordPath, Target.segments_pathOf (isPart_of_mem_recordPath id)]
    simp [Resource.ofParts?, uuid_text_ne_empty]
  have hroute : ofResource "GET" (.record id.text) =
      ((segmentId? id.text).map Operation.getRecord).elim .unreadablePath
        (.endpoint ∘ .operation) := rfl
  rw [find, hresource]
  simp only [reduceIte, String.reduceEq]
  rw [hroute, segmentId?_text]
  rfl

end Routing

/-! ## What is asked of a resource -/

/-- What a resource offers to a method: an operation, with what the parts of the path stand for. -/
inductive Resource.Offers : Resource → String → Operation → Prop
  | listRules : Offers .rules "GET" .listRules
  | createConfig : Offers .configs "POST" .createConfig
  | listConfigs {s : String} {t : Uuid} (tenant : segmentId? s = some t) :
    Offers (.tenantConfigs s) "GET" (.listConfigs t)
  | getConfig {s s' e : String} {t : Uuid} (tenant : segmentId? s = some t)
    (entityType : segmentText? s' = some e) : Offers (.config s s') "GET" (.getConfig t e)
  | updateConfig {s s' e : String} {t : Uuid} (tenant : segmentId? s = some t)
    (entityType : segmentText? s' = some e) : Offers (.config s s') "PUT" (.updateConfig t e)
  | dryRun {s s' e : String} {t : Uuid} (tenant : segmentId? s = some t)
    (entityType : segmentText? s' = some e) : Offers (.dryRun s s') "POST" (.dryRun t e)
  | listRecords : Offers .records "GET" .listRecords
  | createRecord : Offers .records "POST" .createRecord
  | getRecord {s : String} {id : Uuid} (record : segmentId? s = some id) :
    Offers (.record s) "GET" (.getRecord id)
  | updateRecord {s : String} {id : Uuid} (record : segmentId? s = some id) :
    Offers (.record s) "PATCH" (.updateRecord id)

namespace Routing

variable {endpoint : Endpoint}

theorem exists_of_elim {o? : Option Operation}
    (h : o?.elim .unreadablePath (.endpoint ∘ .operation) = Routing.endpoint endpoint) :
    ∃ o, o? = some o ∧ endpoint = .operation o := by
  cases o? with
  | none => cases h
  | some o => exact ⟨o, rfl, (Routing.endpoint.inj h).symm⟩

theorem exists_of_onConfig {s s' : String} {f : Uuid → String → Operation}
    (h : (do return f (← segmentId? s) (← segmentText? s') : Option Operation).elim
      .unreadablePath (.endpoint ∘ .operation) = Routing.endpoint endpoint) :
    ∃ t e, segmentId? s = some t ∧ segmentText? s' = some e ∧ endpoint = .operation (f t e) := by
  obtain ⟨o, ho, rfl⟩ := exists_of_elim h
  obtain ⟨t, ht, h⟩ := Option.bind_eq_some_iff.1 ho
  obtain ⟨e, he, h⟩ := Option.bind_eq_some_iff.1 h
  obtain rfl := Option.some.inj h
  exact ⟨t, e, ht, he, rfl⟩

theorem exists_of_onId {s : String} {f : Uuid → Operation}
    (h : ((segmentId? s).map f).elim .unreadablePath (.endpoint ∘ .operation) =
      Routing.endpoint endpoint) :
    ∃ id, segmentId? s = some id ∧ endpoint = .operation (f id) := by
  obtain ⟨o, ho, rfl⟩ := exists_of_elim h
  obtain ⟨id, hid, rfl⟩ := Option.map_eq_some_iff.1 ho
  exact ⟨id, hid, rfl⟩

/-- **An endpoint that is found is an operation that the resource offers,** or a page, and those are
shown only. -/
theorem offers_or_page_of_ofResource {method : String} {resource : Resource}
    (h : ofResource method resource = .endpoint endpoint) :
    (∃ o, endpoint = .operation o ∧ resource.Offers method o) ∨
      (method = "GET" ∧ ∃ p, endpoint = .page p) := by
  cases resource with
  | banner | health | metrics =>
    rw [ofResource] at h
    split at h
    · rename_i hmethod
      exact .inr ⟨hmethod, _, (Routing.endpoint.inj h).symm⟩
    · cases h
  | rules =>
    rw [ofResource] at h
    split at h
    · rename_i hmethod
      exact .inl ⟨_, (Routing.endpoint.inj h).symm, hmethod ▸ .listRules⟩
    · cases h
  | configs =>
    rw [ofResource] at h
    split at h
    · rename_i hmethod
      exact .inl ⟨_, (Routing.endpoint.inj h).symm, hmethod ▸ .createConfig⟩
    · cases h
  | tenantConfigs s =>
    rw [ofResource] at h
    split at h
    · rename_i hmethod
      obtain ⟨t, ht, rfl⟩ := exists_of_onId h
      exact .inl ⟨_, rfl, hmethod ▸ .listConfigs ht⟩
    · cases h
  | config s s' =>
    rw [ofResource] at h
    split at h
    · rename_i hmethod
      obtain ⟨t, e, ht, he, rfl⟩ := exists_of_onConfig h
      exact .inl ⟨_, rfl, hmethod ▸ .getConfig ht he⟩
    · split at h
      · rename_i hmethod
        obtain ⟨t, e, ht, he, rfl⟩ := exists_of_onConfig h
        exact .inl ⟨_, rfl, hmethod ▸ .updateConfig ht he⟩
      · cases h
  | dryRun s s' =>
    rw [ofResource] at h
    split at h
    · rename_i hmethod
      obtain ⟨t, e, ht, he, rfl⟩ := exists_of_onConfig h
      exact .inl ⟨_, rfl, hmethod ▸ .dryRun ht he⟩
    · cases h
  | records =>
    rw [ofResource] at h
    split at h
    · rename_i hmethod
      exact .inl ⟨_, (Routing.endpoint.inj h).symm, hmethod ▸ .listRecords⟩
    · split at h
      · rename_i hmethod
        exact .inl ⟨_, (Routing.endpoint.inj h).symm, hmethod ▸ .createRecord⟩
      · cases h
  | record s =>
    rw [ofResource] at h
    split at h
    · rename_i hmethod
      obtain ⟨id, hid, rfl⟩ := exists_of_onId h
      exact .inl ⟨_, rfl, hmethod ▸ .getRecord hid⟩
    · split at h
      · rename_i hmethod
        obtain ⟨id, hid, rfl⟩ := exists_of_onId h
        exact .inl ⟨_, rfl, hmethod ▸ .updateRecord hid⟩
      · cases h

/-- What is found for a request is an endpoint of the resource that its target names; who asks for
the head of an answer asks for the same resource. -/
theorem exists_resource_of_find {method : String} {target : Target}
    (h : find method target = .endpoint endpoint) :
    ∃ resource, Resource.of? target = some resource ∧
      ofResource (if method = "HEAD" then "GET" else method) resource = .endpoint endpoint := by
  rw [find] at h
  cases hresource : Resource.of? target with
  | none =>
    rw [hresource] at h
    cases h
  | some resource =>
    rw [hresource] at h
    exact ⟨resource, rfl, h⟩

theorem exists_offers_of_find {method : String} {target : Target} {o : Operation}
    (h : find method target = .endpoint (.operation o)) :
    ∃ resource, Resource.of? target = some resource ∧
      resource.Offers (if method = "HEAD" then "GET" else method) o := by
  obtain ⟨resource, hresource, hroute⟩ := exists_resource_of_find h
  obtain ⟨o', heq, hoffers⟩ | ⟨-, p, heq⟩ := offers_or_page_of_ofResource hroute
  · obtain rfl := Endpoint.operation.inj heq
    exact ⟨resource, hresource, hoffers⟩
  · cases heq

theorem get_or_head_of_page {method : String} {target : Target} {p : Page}
    (h : find method target = .endpoint (.page p)) : method = "GET" ∨ method = "HEAD" := by
  obtain ⟨resource, -, hroute⟩ := exists_resource_of_find h
  obtain ⟨o, heq, -⟩ | ⟨hmethod, -⟩ := offers_or_page_of_ofResource hroute
  · cases heq
  · split at hmethod
    · rename_i hhead
      exact .inr hhead
    · exact .inl hmethod

end Routing

/-- The parts of a path that name a config are not empty. -/
theorem Resource.ne_empty_of_of? {target : Target} {s s' : String}
    (h : of? target = some (.config s s')) : s' ≠ "" := by
  unfold of? ofParts? at h
  rintro rfl
  repeat' split at h
  all_goals try cases h
  rename_i hempty
  simp at hempty

/-- A config that is updated has an entity type. -/
theorem Routing.ne_empty_of_find {method : String} {target : Target} {t : Uuid} {e : String}
    (h : find method target = .endpoint (.operation (.updateConfig t e))) : e ≠ "" := by
  obtain ⟨resource, hresource, hoffers⟩ := exists_offers_of_find h
  generalize (if method = "HEAD" then "GET" else method) = method' at hoffers
  cases hoffers with
  | updateConfig tenant entityType =>
    exact ne_empty_of_segmentText? entityType (Resource.ne_empty_of_of? hresource)

end Http

end CustomFields
