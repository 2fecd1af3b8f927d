import CustomFields.Proofs.Http.Operations
import CustomFields.Proofs.Service.Readable

/-!
# Writes are read back

A request that stores something shows what it has stored: a config or a record, with the id and the
times that the server has given to it. It lies under the key that its path names, so that who asks
for the path gets it, as long as nothing else is written. In memory it is the thing itself. A
persistent store has its text, and reads it each time that it is asked for, because its parts of free
form have come from a body: they are in order, the document does not nest deeper than the body did,
and its numbers are those of literals. Only a number may be read as another one, where its text does
not say which number it is.

## Main definitions

* `Http.Document`: a config or a record, with its path
* `Http.Document.IsReadAs`: what a storage answers for a document that it has stored
* `Http.Document.IsFoundAs`: who asks for the path of a document gets another one for it

## Main results

* `Http.Document.LiesIn.isFoundAs`: what lies in the storage is found
* `Http.Request.Succeeds.exists_document`: what a write has stored
* `Http.Operation.isDecoded_of_call?`, `Http.respondAll_records_readable`: no request makes a record
  unreadable
* `Http.respondAll_writes_readBack`: what holds after every run of requests
-/

namespace CustomFields

open Json (Decoder Tree)

/-! ## What bodies carry -/

namespace Http

/-- What a body carries is decoded from a tree with no more levels than are read. -/
theorem Request.exists_of_decodeBody {α : Type} {r : Request} {decode : Decoder α} {b : α}
    (h : r.decodeBody decode = .ok b) :
    ∃ t : Tree, t.IsRead Tree.maxNesting ∧ decode t = .ok b := by
  unfold decodeBody at h
  split at h
  · cases h
  split at h
  · cases h
  split at h
  · rename_i b' hb
    obtain rfl := Except.ok.inj h
    exact ⟨_, Json.isRead_readTree r.body.toList, hb⟩
  · cases h

section

variable {r : Request}

/-- The schema that a config is created with has been decoded. -/
theorem isDecoded_of_creation {b : ConfigCreation}
    (h : r.decodeBody ConfigCreation.decode = .ok b) : b.schema.IsDecoded 120 := by
  obtain ⟨t, ht, hdecode⟩ := Request.exists_of_decodeBody h
  obtain ⟨⟨tenantId, entityType, name, schema, ⟨⟩⟩, hrecord, heq⟩ :=
    Json.exists_of_bind_eq_ok hdecode
  obtain rfl := Except.ok.inj heq
  obtain ⟨-, -, -, hschema, -⟩ := Decoder.areFrom_of_record (by decide) hrecord
  obtain ⟨u, hu, hschema⟩ := hschema.required
  exact Schema.isDecoded_of_decode hschema (ht.of_mem_children hu)

theorem isDecoded_of_change {b : ConfigChange}
    (h : r.decodeBody ConfigChange.decode = .ok b) : b.schema.IsDecoded 120 := by
  obtain ⟨t, ht, hdecode⟩ := Request.exists_of_decodeBody h
  obtain ⟨⟨name, schema, ⟨⟩⟩, hrecord, heq⟩ := Json.exists_of_bind_eq_ok hdecode
  obtain rfl := Except.ok.inj heq
  obtain ⟨-, hschema, -⟩ := Decoder.areFrom_of_record (by decide) hrecord
  obtain ⟨u, hu, hschema⟩ := hschema.required
  exact Schema.isDecoded_of_decode hschema (ht.of_mem_children hu)

/-- The values that a record is created with have been decoded. -/
theorem isDecoded_of_recordCreation {b : RecordCreation}
    (h : r.decodeBody RecordCreation.decode = .ok b) :
    (Json.Value.object b.customData).IsDecoded 126 := by
  obtain ⟨t, ht, hdecode⟩ := Request.exists_of_decodeBody h
  obtain ⟨⟨tenantId, entityType, values, ⟨⟩⟩, hrecord, heq⟩ := Json.exists_of_bind_eq_ok hdecode
  obtain rfl := Except.ok.inj heq
  obtain ⟨-, -, hvalues, -⟩ := Decoder.areFrom_of_record (by decide) hrecord
  exact isDecoded_of_withDefault hvalues ht

theorem isDecoded_of_recordChange {values : Json.Object}
    (h : r.decodeBody decodeChange = .ok (some values)) :
    (Json.Value.object values).IsDecoded 126 := by
  obtain ⟨t, ht, hdecode⟩ := Request.exists_of_decodeBody h
  obtain ⟨⟨values?, ⟨⟩⟩, hrecord, heq⟩ := Json.exists_of_bind_eq_ok hdecode
  obtain rfl := Except.ok.inj heq
  obtain ⟨hvalues, -⟩ := Decoder.areFrom_of_record (by decide) hrecord
  obtain ⟨u, hu, hobject⟩ := hvalues.optional
  exact Decoder.isDecoded_of_object (ht.of_mem_children hu) hobject

/-- What a request gives to store has been decoded. -/
theorem Operation.isDecoded_of_call? {o : Operation} {x : ServiceCall}
    (h : o.call? r = some (.ok x)) : x.IsDecoded := by
  intro values hvalues
  cases o with
  | listRules => cases h
  | listConfigs | getConfig | getRecord =>
    obtain rfl := Except.ok.inj (Option.some.inj h)
    cases hvalues
  | createConfig | updateConfig | dryRun | listRecords =>
    obtain ⟨b, -, rfl⟩ := exists_of_map_eq_ok (Option.some.inj h)
    cases hvalues
  | createRecord =>
    obtain ⟨b, hb, rfl⟩ := exists_of_map_eq_ok (Option.some.inj h)
    obtain rfl := Option.some.inj hvalues
    exact isDecoded_of_recordCreation hb
  | updateRecord id =>
    obtain ⟨values?, hb, rfl⟩ := exists_of_map_eq_ok (Option.some.inj h)
    obtain rfl : values? = some values := hvalues
    exact isDecoded_of_recordChange hb

end

/-! ## Configs and records as resources -/

/-- A config or a record. -/
inductive Document where
  | config (c : EntityConfig)
  | record (r : Record)

namespace Document

/-- A document as it is shown. -/
def toJson : Document → Json.Value
  | .config c => c.toJson
  | .record r => r.toJson

/-- The path of a document: of a config by its tenant and its encoded entity type, of a record by its
id. -/
def path : Document → String
  | .config c => configPath c.tenantId c.entityType
  | .record r => recordPath r.id

/-- A path can name a document: no part of it is empty. -/
def IsNamed : Document → Prop
  | .config c => c.entityType ≠ ""
  | .record _ => True

/-- What a storage answers for a document is the document itself. -/
def LiesIn (S : Storage) : Document → Prop
  | .config c => S.config? c.tenantId c.entityType = .ok (some c)
  | .record r => S.record? r.id = .ok (some r)

/-- The document with its numbers as they are read from its text. -/
def reread : Document → Document
  | .config c => .config c.reread
  | .record r => .record r.reread

theorem toJson_reread (x : Document) : x.reread.toJson = x.toJson.reread := by
  cases x with
  | config c => exact c.toJson_reread
  | record r => exact r.toJson_reread

theorem path_reread (x : Document) : x.reread.path = x.path := by
  cases x <;> rfl

/-- What a storage of some kind answers for a document: the document itself, or, if the storage has
its text, what is read there. -/
def IsReadAs (k : StorageKind) (x y : Document) : Prop :=
  y = x ∨ k = .tree ∧ y = x.reread

theorem IsReadAs.isNamed {k : StorageKind} {x y : Document} (h : x.IsReadAs k y) (hx : x.IsNamed) :
    y.IsNamed := by
  obtain rfl | ⟨-, rfl⟩ := h
  · exact hx
  · cases x <;> exact hx

theorem IsReadAs.path_eq {k : StorageKind} {x y : Document} (h : x.IsReadAs k y) :
    y.path = x.path := by
  obtain rfl | ⟨-, rfl⟩ := h
  · rfl
  · exact path_reread x

/-- In memory nothing is read as something else, and in a text only a number that is not kept is. -/
theorem IsReadAs.toJson_eq {k : StorageKind} {x y : Document} (h : x.IsReadAs k y)
    (hkept : k = .tree → x.toJson.NumbersKept) : y.toJson = x.toJson := by
  obtain rfl | ⟨hk, rfl⟩ := h
  · rfl
  · rw [toJson_reread, (hkept hk).reread_eq]

/-- Who asks for the path of the document gets another one, or the same. -/
def IsFoundAs (d : Deployment) (x y : Document) : Prop :=
  ∀ (get : Request) a, get.method = "GET" → get.target.path = x.path →
    (respond d get a).1.status = 200 ∧ (respond d get a).1.data? = some y.toJson

/-- A path is read as it is written, if it is not too long. -/
theorem parse?_path (x : Document) (hsize : x.path.utf8ByteSize ≤ Target.maxSize) :
    Target.parse? x.path = some ⟨x.path, ""⟩ := by
  cases x with
  | config c => exact Target.parse?_configPath hsize
  | record r => exact Target.parse?_recordPath hsize

/-- **A document that lies in the storage is found** under its path. -/
theorem LiesIn.isFoundAs {d : Deployment} {x : Document} (h : x.LiesIn d.storage)
    (hx : x.IsNamed) : x.IsFoundAs d x := by
  intro get a hmethod hpath
  have htarget : get.target = ⟨x.path, get.target.query⟩ := by rw [← hpath]
  obtain ⟨o, y, res, hdone, hstatus⟩ : ∃ o y res, get.Succeeds d a o y res x.toJson ∧
      o.successStatus = 200 := by
    cases x with
    | config c =>
      refine ⟨.getConfig c.tenantId c.entityType, .getConfig c.tenantId c.entityType, some c,
        ⟨?_, rfl, ?_, rfl⟩, rfl⟩
      · rw [hmethod, htarget]
        exact Routing.find_configPath hx get.target.query
      · show ((Call.store _).run d).1 = _
        rw [Call.run_store, Storage.serve_getConfig, show d.storage.config? _ _ = _ from h]
        rfl
    | record r =>
      refine ⟨.getRecord r.id, .getRecord r.id, some r, ⟨?_, rfl, ?_, rfl⟩, rfl⟩
      · rw [hmethod, htarget]
        exact Routing.find_recordPath get.target.query
      · show ((Call.store _).run d).1 = _
        rw [Call.run_store, Storage.serve_getRecord, show d.storage.record? _ = _ from h]
        rfl
  rw [respond_of_ne_head (by rw [hmethod]; decide), hdone.respondFully]
  exact ⟨hstatus, rfl⟩

end Document

/-- The documents that an operation may write: those of its path, if that names one. -/
inductive Operation.Writes : Operation → Document → Prop
  | createConfig (c : EntityConfig) : Writes .createConfig (.config c)
  | updateConfig {t : Uuid} {e : String} {c : EntityConfig} (tenant : c.tenantId = t)
    (entityType : c.entityType = e) : Writes (.updateConfig t e) (.config c)
  | createRecord (r : Record) : Writes .createRecord (.record r)
  | updateRecord {id : Uuid} {r : Record} (id_eq : r.id = id) : Writes (.updateRecord id) (.record r)

/-! ## What a write leaves -/

section

variable {S S' : Storage} {c : EntityConfig} {r : Record}

theorem exists_liesIn_of_storeConfig (hs : c.schema.IsDecoded 120)
    (hcreated : S.kind = .tree → c.createdAt.IsKept)
    (hupdated : S.kind = .tree → c.updatedAt.IsKept) :
    ∃ y, (Document.config c).IsReadAs S.kind y ∧ y.LiesIn (S.storeConfig c) := by
  cases hk : S.kind with
  | memory =>
    refine ⟨.config c, .inl rfl, Storage.config?_storeConfig_self ?_⟩
    rw [hk]
    rfl
  | tree =>
    refine ⟨.config c.reread, .inr ⟨rfl, rfl⟩, Storage.config?_storeConfig_self ?_⟩
    rw [hk]
    exact c.readBack_toJson hs (hcreated hk) (hupdated hk)

theorem exists_liesIn_of_storeRecord (hdata : (Json.Value.object r.customData).IsDecoded 126)
    (hcreated : S.kind = .tree → r.createdAt.IsKept)
    (hupdated : S.kind = .tree → r.updatedAt.IsKept) :
    ∃ y, (Document.record r).IsReadAs S.kind y ∧ y.LiesIn (S.storeRecord r) := by
  cases hk : S.kind with
  | memory =>
    refine ⟨.record r, .inl rfl, Storage.record?_storeRecord_self ?_⟩
    rw [hk]
    rfl
  | tree =>
    refine ⟨.record r.reread, .inr ⟨rfl, rfl⟩, Storage.record?_storeRecord_self ?_⟩
    rw [hk]
    exact r.readBack_toJson hdata (hcreated hk) (hupdated hk)

end

/-- A config is created only if its entity type satisfies its check. -/
theorem checkEntityType_of_create {t : Uuid} {e : String} {name : Option String} {s : Schema}
    {m : Moment} {d : Deployment} {c : EntityConfig}
    (h : ((Configs.create t e name s m).run d).1 = .ok c) : checkEntityType e = .ok () := by
  cases hcheck : checkEntityType e with
  | ok u => rfl
  | error err =>
    rw [Configs.create, hcheck] at h
    cases h

theorem ne_empty_of_checkEntityType {e : String} (h : checkEntityType e = .ok ()) : e ≠ "" := by
  rintro rfl
  cases h

/-- **A write that has succeeded shows what it has stored,** and that is what the storage answers, up
to numbers. -/
theorem Request.Succeeds.exists_document {r : Request} {d : Deployment} {a : Arrival} {o : Operation}
    {x : ServiceCall} {res : x.Result} {data : Json.Value} (h : r.Succeeds d a o x res data)
    (ho : o.writes = true) (hd : d.storage.Orderly) :
    ∃ y : Document, data = y.toJson ∧ o.Writes y ∧ y.IsNamed ∧
      ((d.storage.kind = .tree → a.moment.now.IsShown) →
        ∃ z, y.IsReadAs d.storage.kind z ∧ z.LiesIn (respond d r a).2.storage) := by
  cases o with
  | createConfig =>
    obtain ⟨b, hb, rfl⟩ := exists_of_map_eq_ok (Option.some.inj h.call)
    obtain rfl := Except.ok.inj h.shown
    have hne := ne_empty_of_checkEntityType (checkEntityType_of_create h.run)
    obtain ⟨rfl, hserve⟩ := h.does
    refine ⟨.config _, rfl, .createConfig _, hne, fun hshown => ?_⟩
    rw [Storage.eq_of_serve_ok (d.storage.serve_createConfig _) hserve]
    exact exists_liesIn_of_storeConfig (isDecoded_of_creation hb) (fun hk => (hshown hk).isKept)
      fun hk => (hshown hk).isKept
  | updateConfig t e =>
    obtain ⟨b, hb, rfl⟩ := exists_of_map_eq_ok (Option.some.inj h.call)
    obtain rfl := Except.ok.inj h.shown
    obtain ⟨old, hold, rfl, hserve⟩ := h.does
    obtain ⟨htenant, htype⟩ := hd.key_of_config? hold
    have hcreated (hk : d.storage.kind = .tree) := hd.isKept_of_config? hk hold
    have hne : old.entityType ≠ "" := htype ▸ Routing.ne_empty_of_find h.find
    refine ⟨.config _, rfl, .updateConfig htenant htype, hne, fun hshown => ?_⟩
    rw [Storage.eq_of_serve_ok (d.storage.serve_updateConfig _) hserve]
    exact exists_liesIn_of_storeConfig (isDecoded_of_change hb) hcreated
      fun hk => (hshown hk).isKept
  | createRecord =>
    obtain ⟨b, hb, rfl⟩ := exists_of_map_eq_ok (Option.some.inj h.call)
    obtain rfl := Except.ok.inj h.shown
    obtain ⟨rfl, hserve⟩ := h.does
    refine ⟨.record _, rfl, .createRecord _, trivial, fun hshown => ?_⟩
    rw [Storage.eq_of_serve_ok (d.storage.serve_insertRecord _) hserve]
    exact exists_liesIn_of_storeRecord (isDecoded_of_recordCreation hb)
      (fun hk => (hshown hk).isKept) fun hk => (hshown hk).isKept
  | updateRecord id =>
    obtain ⟨values?, hb, rfl⟩ := exists_of_map_eq_ok (Option.some.inj h.call)
    obtain rfl := Except.ok.inj h.shown
    cases values? with
    | none =>
      -- the record stays, and is shown as it is read
      obtain ⟨old, hold, rfl, -⟩ := (Records.leaves_update d.storage id a.moment none).of_ok rfl h.run
      have hid := hd.id_of_record? hold
      have hS : (respond d r a).2.storage = d.storage := h.does
      refine ⟨.record _, rfl, .updateRecord hid, trivial, fun _ => ⟨.record _, .inl rfl, ?_⟩⟩
      rw [hS]
      show d.storage.record? res.id = _
      rw [hid, hold]
    | some values =>
      obtain ⟨old, hold, rfl, hserve⟩ := h.does
      have hid := hd.id_of_record? hold
      have hcreated (hk : d.storage.kind = .tree) := hd.isKept_of_record? hk hold
      refine ⟨.record _, rfl, .updateRecord hid, trivial, fun hshown => ?_⟩
      rw [Storage.eq_of_serve_ok (d.storage.serve_updateRecord _) hserve]
      exact exists_liesIn_of_storeRecord (isDecoded_of_recordChange hb) hcreated
        fun hk => (hshown hk).isKept
  | _ => cases ho

/-! ## Runs -/

/-- **A request leaves records that can be read** where it has found such records. -/
theorem respond_isReadable {kind : StorageKind} {d : Deployment} (hd : d.storage.IsReadable kind)
    (r : Request) {a : Arrival} (ha : kind = .tree → a.moment.now.IsShown) :
    (respond d r a).2.storage.IsReadable kind := by
  obtain ⟨hS, -⟩ | ⟨o, x, res, data, hdone⟩ := respond_cases d r a
  · rw [hS]
    exact hd
  · exact hdone.does.isReadable hd fun hk => ⟨Operation.isDecoded_of_call? hdone.call, ha hk⟩

/-- **No request makes a record unreadable.** After every run of requests from empty stores, at times
that a clock shows, each record can be read, so that no tenant can make the listings of another one
fail. -/
theorem respondAll_records_readable (engine : Engine) (kind : StorageKind) (capacity : ℕ)
    (withMetrics : Bool) (requests : List (Request × Arrival))
    (hshown : kind = .tree → ∀ request ∈ requests, request.2.moment.now.IsShown) (id : Uuid) :
    ∃ r?, (respondAll (.new engine kind capacity withMetrics) requests).2.storage.record? id =
      .ok r? := by
  have hleft : ∀ d : Deployment, d.storage.IsReadable kind →
      (respondAll d requests).2.storage.IsReadable kind := by
    induction requests with
    | nil => exact fun d hd => hd
    | cons request rest ih =>
      intro d hd
      refine ih (fun hk r hr => hshown hk r (List.mem_cons_of_mem _ hr)) _ ?_
      exact respond_isReadable hd request.1 fun hk => hshown hk request List.mem_cons_self
  exact (hleft _ (Storage.isReadable_new kind)).exists_record? id

/-- Requests that follow each other fail or only read. -/
def AreIdle (d : Deployment) (requests : List (Request × Arrival)) : Prop :=
  List.Forall₂ (fun request response => request.1.Idle response) requests (respondAll d requests).1

/-- **Writes are all or nothing, and read back.** After every run of requests from empty stores, a
request that fails, or that asks for nothing to be stored, leaves the storage as it is. Any other
request has written a config or a record, of its own path if that names one, and shows it. Until
another one writes, who asks for the path of this document gets it: in memory the same data, and from
a persistent store what is read for its text, which is the same data if its numbers are kept. Paths
are read as they are written, if they are not too long, and lead to every entity type that satisfies
its check. -/
theorem respondAll_writes_readBack (engine : Engine) (kind : StorageKind) (capacity : ℕ)
    (withMetrics : Bool) (earlier : List (Request × Arrival)) {d : Deployment}
    (hd : d = (respondAll (.new engine kind capacity withMetrics) earlier).2) :
    (∀ r a, r.Idle (respond d r a).1 → (respond d r a).2.storage = d.storage) ∧
      (∀ r a, ¬ r.Idle (respond d r a).1 → ∃ (o : Operation) (x : Document),
        Routing.find r.method r.target = .endpoint (.operation o) ∧ o.Writes x ∧
          (respond d r a).1.status = o.successStatus ∧
          (respond d r a).1.data? = some x.toJson ∧
          ((kind = .tree → a.moment.now.IsShown) → ∃ y : Document, x.IsReadAs kind y ∧
            ((kind = .tree → x.toJson.NumbersKept) → y.toJson = x.toJson) ∧
            ∀ later, AreIdle (respond d r a).2 later →
              x.IsFoundAs (respondAll (respond d r a).2 later).2 y)) ∧
      (∀ x : Document, x.path.utf8ByteSize ≤ Target.maxSize →
        Target.parse? x.path = some ⟨x.path, ""⟩) ∧
      ∀ t e query, checkEntityType e = .ok () →
        Routing.find "GET" ⟨configPath t e, query⟩ = .endpoint (.operation (.getConfig t e)) := by
  have hstart : (Deployment.new engine kind capacity withMetrics).storage.Orderly :=
    Storage.orderly_new kind
  have hnew : (Deployment.new engine kind capacity withMetrics).storage.kind = kind := by
    cases kind <;> rfl
  obtain ⟨horderly, hkind⟩ := respondAll_orderly hstart earlier
  rw [← hd] at horderly hkind
  rw [hnew] at hkind
  refine ⟨fun r a => Request.Idle.storage_eq, fun r a hwrites => ?_, fun x => x.parse?_path,
    fun t e query he => Routing.find_configPath (ne_empty_of_checkEntityType he) query⟩
  -- what is not idle has succeeded with an operation that writes
  obtain ⟨-, hidle⟩ | ⟨o, y, res, data, hdone⟩ := respond_cases d r a
  · exact absurd hidle hwrites
  obtain ⟨-, hasks⟩ := not_or.1 hwrites
  have ho : o.writes = true := by
    rw [Request.onlyReads_iff hdone.find] at hasks
    exact Bool.eq_true_of_not_eq_false hasks
  have hhead : r.method ≠ "HEAD" := fun h => hasks (.inr (.inl h))
  obtain ⟨x, rfl, hx, hnamed, hlies⟩ := hdone.exists_document ho horderly
  refine ⟨o, x, hdone.find, hx, ?status, ?data, fun hshown => ?found⟩
  case status => rw [respond_status, hdone.respondFully]
  case data =>
    rw [respond_of_ne_head hhead, hdone.respondFully]
    rfl
  case found =>
    rw [hkind] at hlies
    obtain ⟨z, hread, hz⟩ := hlies hshown
    refine ⟨z, hread, hread.toJson_eq, fun later hlater get a' hmethod hpath => ?_⟩
    -- it lies in the storage still, since nothing else has been written
    rw [← storage_respondAll hlater] at hz
    exact hz.isFoundAs (hread.isNamed hnamed) get a' hmethod (hpath.trans hread.path_eq.symm)

/-- A record is created with a value that stands in the body as it is given here. -/
def siteCreation (value : String) : Request where
  method := "POST"
  target := ⟨"/api/v1/records", ""⟩
  contentType := some "application/json"
  requestId := none
  body := "\x7b\"tenant_id\":\"00000000-0000-0000-0000-000000000001\",\"entity_type\":\"site\"," ++
    "\"custom_data\":\x7b\"size\":" ++ value ++ "\x7d\x7d"

/-- A record is asked for. -/
def recordRequest (id : Uuid) : Request :=
  ⟨"GET", ⟨recordPath id, ""⟩, none, none, ""⟩

/-- A server with a persistent store that is empty. -/
def emptyServer : Deployment :=
  .new (.new .empty) .tree 1 false

theorem respondAll_writes_readBack_siteCreation :
    ¬ (siteCreation "3").Idle (respond emptyServer (siteCreation "3") firstArrival).1 ∧
      ∃ x : Document, (respond emptyServer (siteCreation "3") firstArrival).1.data? =
          some x.toJson ∧ firstArrival.moment.now.IsShown ∧ x.toJson.NumbersKept ∧
        AreIdle (respond emptyServer (siteCreation "3") firstArrival).2
          [(unreadableRecord, firstArrival)] ∧
        ∃ y : Document, y.toJson = x.toJson ∧
          x.IsFoundAs (respondAll (respond emptyServer (siteCreation "3") firstArrival).2
            [(unreadableRecord, firstArrival)]).2 y := by
  obtain ⟨hstatus, hnumbers⟩ :
      (respond emptyServer (siteCreation "3") firstArrival).1.status = 201 ∧
        (respond emptyServer (siteCreation "3") firstArrival).1.data?.all
          (·.allNumbers fun n => decide n.IsKept) = true := by
    decide +kernel
  have hwrites :
      ¬ (siteCreation "3").Idle (respond emptyServer (siteCreation "3") firstArrival).1 := by
    rw [Request.Idle, hstatus]
    rintro (hfailed | hmethod | hmethod | ⟨s, s', hresource⟩)
    · exact absurd hfailed (by decide)
    · exact absurd hmethod (by decide)
    · exact absurd hmethod (by decide)
    · have hrecords : Resource.of? (siteCreation "3").target = some .records := by decide
      cases hrecords.symm.trans hresource
  have hshown : firstArrival.moment.now.IsShown := ⟨by decide, by decide, by decide⟩
  obtain ⟨-, hwritten, -⟩ := respondAll_writes_readBack (.new .empty) .tree 1 false [] rfl
  obtain ⟨o, x, -, -, -, hdata, hread⟩ := hwritten (siteCreation "3") firstArrival hwrites
  obtain ⟨y, -, hsame, hfound⟩ := hread fun _ => hshown
  have hkept : x.toJson.NumbersKept := by
    have hall := hnumbers
    rw [show (respond emptyServer (siteCreation "3") firstArrival).1.data? = _ from hdata] at hall
    exact (Json.Value.allNumbers_iff.1 hall).imp fun _ => of_decide_eq_true
  have hidle : AreIdle (respond emptyServer (siteCreation "3") firstArrival).2
      [(unreadableRecord, firstArrival)] :=
    .cons (.inr (.inl rfl)) .nil
  exact ⟨hwrites, x, hdata, hshown, hkept, hidle, y, hsame fun _ => hkept, hfound _ hidle⟩

/-- The text of the value of a record that a response shows. -/
def Response.shownSize? (response : Response) : Option String := do
  let values ← (← response.data?).member? "custom_data"
  return (← values.member? "size").compact

/-- Not all that is written is read back: where the last bit of a number is lost when its text is
read, the number that is shown for a write is not the one that its stored text is read as. -/
theorem not_readBack_siteCreation :
    (respond emptyServer (siteCreation "1e-25") firstArrival).1.status = 201 ∧
      (recordRequest firstArrival.moment.freshId).method = "GET" ∧
      (recordRequest firstArrival.moment.freshId).target.path =
        recordPath firstArrival.moment.freshId ∧
      (respond (respond emptyServer (siteCreation "1e-25") firstArrival).2
        (recordRequest firstArrival.moment.freshId) firstArrival).1.status = 200 ∧
      (respond emptyServer (siteCreation "1e-25") firstArrival).1.data? ≠
        (respond (respond emptyServer (siteCreation "1e-25") firstArrival).2
          (recordRequest firstArrival.moment.freshId) firstArrival).1.data? := by
  obtain ⟨hstatus, hfound, hsize⟩ :
      (respond emptyServer (siteCreation "1e-25") firstArrival).1.status = 201 ∧
        (respond (respond emptyServer (siteCreation "1e-25") firstArrival).2
          (recordRequest firstArrival.moment.freshId) firstArrival).1.status = 200 ∧
        (respond emptyServer (siteCreation "1e-25") firstArrival).1.shownSize? ≠
          (respond (respond emptyServer (siteCreation "1e-25") firstArrival).2
            (recordRequest firstArrival.moment.freshId) firstArrival).1.shownSize? := by
    decide +kernel
  refine ⟨hstatus, rfl, rfl, hfound, fun hdata => hsize ?_⟩
  rw [Response.shownSize?, Response.shownSize?, hdata]

end Http

end CustomFields
