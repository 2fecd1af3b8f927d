import CustomFields.Proofs.Http.Envelope
import CustomFields.Proofs.Http.Target
import CustomFields.Proofs.Service.Writes

/-!
# Operations as calls

An operation reads what its request carries, makes one call with it and shows what the call has
answered. So what a request does to the stores is what a call does to them, and if the request fails
it has done nothing: either there was no call, or the call has failed, or it was one that only reads
and has not found what was asked for.

## Main definitions

* `Http.Operation.call?`: the call that an operation makes with what a request carries
* `ServiceCall.shown`: what is shown of the answer of a call
* `Http.Response.data?`: the data of a response

## Main results

* `Http.Operation.run_eq`: an operation is its call, between reading and showing
* `Http.respond_cases`: a request leaves the storage as it is, or its call has succeeded
* `Http.Request.Idle.storage_eq`, `Http.storage_respondAll`: requests that fail or only read change
  nothing that is stored
-/

namespace CustomFields

open Http (ApiError)

/-- What a call leaves that has succeeded. -/
theorem Call.Leaves.of_ok {α : Type} {S : Storage} {c : Call α} {Post : α → Storage → Prop}
    (h : c.Leaves S Post) {d : Deployment} (hd : d.storage = S) {a : α} (ha : (c.run d).1 = .ok a) :
    Post a (c.run d).2.storage := by
  obtain ⟨err, herr, -⟩ | ⟨a', ha', hpost⟩ := h d hd
  · cases herr.symm.trans ha
  · obtain rfl := Except.ok.inj (ha'.symm.trans ha)
    exact hpost

/-- What is shown of the answer of a call: what has not been found is an error. -/
def ServiceCall.shown : (x : ServiceCall) → x.Result → Except ApiError Json.Value
  | .createConfig _ _ _ _, c => .ok c.toJson
  | .getConfig t e, c? => c?.elim (.error (.notFound (StoreError.configNotFound t e).message))
      fun c => .ok c.toJson
  | .updateConfig _ _ _ _, c => .ok c.toJson
  | .listConfigs _, cs => .ok (.array (cs.map (·.toJson)))
  | .createRecord _ _ _, r => .ok r.toJson
  | .getRecord id, r? => r?.elim (.error (.notFound (StoreError.recordNotFound id).message))
      fun r => .ok r.toJson
  | .updateRecord _ _, r => .ok r.toJson
  | .listRecords _, rs => .ok (.array (rs.map (·.toJson)))
  | .dryRun _ _ _, report => .ok report.toJson

namespace Http

theorem exists_of_map_eq_ok {ε α β : Type} {f : α → β} {carried : Except ε α} {b : β}
    (h : carried.map f = .ok b) : ∃ a, carried = .ok a ∧ b = f a := by
  cases carried with
  | error e => cases h
  | ok a => exact ⟨a, rfl, (Except.ok.inj h).symm⟩

/-! ## What only reads -/

/-- A request that asks for nothing to be stored: it reads, or is a dry run. -/
def Request.OnlyReads (r : Request) : Prop :=
  r.method = "GET" ∨ r.method = "HEAD" ∨ ∃ s s', Resource.of? r.target = some (.dryRun s s')

/-- Whether an operation is there to store something. -/
def Operation.writes : Operation → Bool
  | .createConfig | .updateConfig _ _ | .createRecord | .updateRecord _ => true
  | _ => false

theorem Request.onlyReads_iff {r : Request} {o : Operation}
    (h : Routing.find r.method r.target = .endpoint (.operation o)) :
    r.OnlyReads ↔ o.writes = false := by
  obtain ⟨resource, hresource, hoffers⟩ := Routing.exists_offers_of_find h
  rw [OnlyReads, hresource, ← or_assoc]
  -- the head of an answer is asked for as the answer is
  have hread : r.method = "GET" ∨ r.method = "HEAD" ↔
      (if r.method = "HEAD" then "GET" else r.method) = "GET" := by
    split <;> simp_all
  rw [hread]
  generalize (if r.method = "HEAD" then "GET" else r.method) = method at hoffers
  cases hoffers <;> simp [Operation.writes]

/-! ## Running operations -/

/-- Makes the answer that an operation gives. -/
def Answer.run (answer : Answer) (d : Deployment) : Except ApiError Json.Value × Deployment :=
  Program.run Deployment.serve (ExceptT.run answer) d

section

variable {α : Type} (c : Call α) (d : Deployment)

theorem run_adapt :
    Program.run Deployment.serve (ExceptT.run (ExceptT.adapt ApiError.ofService c)) d =
      ((c.run d).1.mapError .ofService, (c.run d).2) :=
  Program.run_bind (ExceptT.run c) _ d

theorem run_answer (toJson : α → Json.Value) :
    (answer c toJson).run d = (((c.run d).1.mapError .ofService).map toJson, (c.run d).2) := by
  refine (Program.run_bind (ExceptT.run (ExceptT.adapt ApiError.ofService c)) _ d).trans ?_
  rw [run_adapt]
  cases (c.run d).1 <;> rfl

theorem run_answerFound (c : Call (Option α)) (missing : StoreError) (toJson : α → Json.Value) :
    (answerFound c missing toJson).run d =
      ((c.run d).1.mapError .ofService >>= fun a? =>
        a?.elim (.error (.notFound missing.message)) fun a => .ok (toJson a), (c.run d).2) := by
  refine (Program.run_bind (ExceptT.run (ExceptT.adapt ApiError.ofService c)) _ d).trans ?_
  rw [run_adapt]
  rcases (c.run d).1 with err | _ | a <;> rfl

theorem run_reading (carried : Except Rejection α) (next : α → Answer) :
    (reading carried next).run d =
      match carried with
      | .ok a => (next a).run d
      | .error e => (.error (.badRequest e.message), d) := by
  cases carried <;> rfl

end

/-- The call that an operation makes with what a request carries, if it can be read. There is none for
the list of the rules. -/
def Operation.call? (r : Request) : Operation → Option (Except Rejection ServiceCall)
  | .listRules => none
  | .createConfig => some <| (r.decodeBody ConfigCreation.decode).map fun b =>
      .createConfig b.tenantId b.entityType b.name b.schema
  | .listConfigs t => some (.ok (.listConfigs t))
  | .getConfig t e => some (.ok (.getConfig t e))
  | .updateConfig t e => some <| (r.decodeBody ConfigChange.decode).map fun b =>
      .updateConfig t e b.name b.schema
  | .dryRun t e => some <| (r.decodeBody decodeTrial).map fun values => .dryRun t e values
  | .createRecord => some <| (r.decodeBody RecordCreation.decode).map fun b =>
      .createRecord b.tenantId b.entityType b.customData
  | .listRecords => some <| r.filter.map fun f => .listRecords f
  | .getRecord id => some (.ok (.getRecord id))
  | .updateRecord id => some <| (r.decodeBody decodeChange).map fun values? =>
      .updateRecord id values?

/-- **An operation is its call,** between reading and showing. -/
theorem Operation.run_eq (rules : Rule.Registry) (r : Request) (m : Moment) (o : Operation)
    (d : Deployment) :
    (o.run rules r m).run d =
      match o.call? r with
      | none => (.ok rules.metadataJson, d)
      | some (.error e) => (.error (.badRequest e.message), d)
      | some (.ok x) =>
        (((x.call m).run d).1.mapError .ofService >>= x.shown, ((x.call m).run d).2) := by
  have hanswer {α : Type} (c : Call α) (toJson : α → Json.Value) :
      (answer c toJson).run d =
        ((c.run d).1.mapError .ofService >>= fun a => .ok (toJson a), (c.run d).2) := by
    rw [run_answer]
    cases (c.run d).1 <;> rfl
  cases o with
  | listRules => rfl
  | createConfig | updateConfig t e | dryRun t e | createRecord | updateRecord id =>
    rw [run, run_reading, call?]
    cases r.decodeBody _ with
    | error e => rfl
    | ok b => exact hanswer _ _
  | listConfigs t => exact hanswer _ _
  | getConfig t e => exact run_answerFound d _ _ _
  | listRecords =>
    rw [run, run_reading, call?]
    cases r.filter with
    | error e => rfl
    | ok f => exact hanswer _ _
  | getRecord id => exact run_answerFound d _ _ _

/-! ## Responses -/

/-- The data of a response. -/
def Response.data? (response : Response) : Option Json.Value :=
  match response.body with
  | .envelope e => e.data
  | _ => none

/-- A call that only reads is the only one whose answer may have nothing to show. -/
theorem reads_of_shown {x : ServiceCall} {res : x.Result} {err : ApiError}
    (h : x.shown res = .error err) : x.reads = true := by
  cases x <;> first | rfl | cases h

/-- A request goes to an operation, and its call has succeeded. -/
structure Request.Succeeds (r : Request) (d : Deployment) (a : Arrival) (o : Operation)
    (x : ServiceCall) (res : x.Result) (data : Json.Value) : Prop where
  find : Routing.find r.method r.target = .endpoint (.operation o)
  call : o.call? r = some (.ok x)
  run : ((x.call a.moment).run d).1 = .ok res
  shown : x.shown res = .ok data

section

variable {r : Request} {d : Deployment} {a : Arrival} {o : Operation} {x : ServiceCall}
  {res : x.Result} {data : Json.Value}

/-- What is shown of a call that has succeeded, and what it leaves. -/
theorem Request.Succeeds.respondFully (h : r.Succeeds d a o x res data) :
    respondFully d r a =
      (⟨o.successStatus, a.requestId r, .envelope (.ofData data (a.requestId r) a)⟩,
        ((x.call a.moment).run d).2) := by
  have hrun : (o.run d.engine.registry r a.moment).run d =
      (.ok data, ((x.call a.moment).run d).2) := by
    rw [o.run_eq, h.call]
    simp only [h.run, Except.mapError, bind, Except.bind, h.shown]
  rw [Answer.run] at hrun
  simp only [Http.respondFully, h.find, respondOperation, hrun]

/-- An operation leaves the storage as it is, and fails or lists the rules, or its call has
succeeded. -/
theorem respondOperation_cases (d : Deployment) (r : Request) (requestId : String) (a : Arrival)
    (hfind : Routing.find r.method r.target = .endpoint (.operation o)) :
    ((respondOperation d r requestId a o).2.storage = d.storage ∧
      (400 ≤ (respondOperation d r requestId a o).1.status ∨ o = .listRules)) ∨
      ∃ x res data, r.Succeeds d a o x res data := by
  have hrun := o.run_eq d.engine.registry r a.moment d
  rw [Answer.run] at hrun
  -- an error is shown with the state that has been left
  have hfailed {e : ApiError} {d' : Deployment}
      (h : Program.run Deployment.serve (ExceptT.run (o.run d.engine.registry r a.moment)) d =
        (.error e, d')) (hS : d'.storage = d.storage) :
      (respondOperation d r requestId a o).2.storage = d.storage ∧
        400 ≤ (respondOperation d r requestId a o).1.status := by
    simp only [respondOperation, h]
    exact ⟨hS, e.le_status⟩
  cases hcall : o.call? r with
  | none =>
    obtain rfl : o = .listRules := by cases o <;> first | rfl | cases hcall
    exact .inl ⟨rfl, .inr rfl⟩
  | some carried =>
    rw [hcall] at hrun
    cases carried with
    | error e => exact .inl ((hfailed hrun rfl).imp_right .inl)
    | ok x =>
      obtain ⟨err, herr, hS⟩ | ⟨res, hres, hdoes⟩ := x.leaves d.storage a.moment d rfl
      · simp only [herr] at hrun
        exact .inl ((hfailed hrun hS).imp_right .inl)
      · cases hshown : x.shown res with
        | ok data => exact .inr ⟨x, res, data, hfind, hcall, hres, hshown⟩
        | error e =>
          have hS := hdoes.eq_of_reads (reads_of_shown hshown)
          simp only [hres, Except.mapError, bind, Except.bind, hshown] at hrun
          exact .inl ((hfailed hrun hS).imp_right .inl)

end

theorem respond_status (d : Deployment) (r : Request) (a : Arrival) :
    (respond d r a).1.status = (respondFully d r a).1.status := by
  simp only [respond]
  split <;> rfl

theorem respond_state (d : Deployment) (r : Request) (a : Arrival) :
    (respond d r a).2 = (respondFully d r a).2 := rfl

/-- **A request leaves the storage as it is, where it fails or only reads, or its call has
succeeded.** -/
theorem respond_cases (d : Deployment) (r : Request) (a : Arrival) :
    ((respond d r a).2.storage = d.storage ∧
      (400 ≤ (respond d r a).1.status ∨ r.OnlyReads)) ∨
      ∃ o x res data, r.Succeeds d a o x res data := by
  rw [respond_status, respond_state]
  cases hfind : Routing.find r.method r.target with
  | unknownPath | unknownMethod | unreadablePath =>
    simp only [respondFully, hfind]
    exact .inl ⟨trivial, .inl (by decide)⟩
  | endpoint e =>
    cases e with
    | page p =>
      refine .inl ⟨?_, .inr ((Routing.get_or_head_of_page hfind).imp_right .inl)⟩
      simp only [respondFully, hfind]
      cases p with
      | banner => rfl
      | metrics =>
        simp only [respondPage]
        split <;> rfl
      | health =>
        -- the store is asked for the configs of nobody
        obtain ⟨_, _, hS⟩ | ⟨_, _, hS⟩ := Configs.leaves_list d.storage nobody d rfl
        all_goals exact hS
    | operation o =>
      simp only [respondFully, hfind]
      obtain ⟨hS, hstatus⟩ | ⟨x, res, data, h⟩ :=
        respondOperation_cases d r (a.requestId r) a hfind
      · refine .inl ⟨hS, hstatus.imp_right ?_⟩
        rintro rfl
        exact (Request.onlyReads_iff hfind).2 rfl
      · exact .inr ⟨o, x, res, data, h⟩

/-! ## What requests leave -/

/-- A request that has failed, or that asks for nothing to be stored. -/
def Request.Idle (r : Request) (response : Response) : Prop :=
  400 ≤ response.status ∨ r.OnlyReads

theorem Operation.reads_of_call? {r : Request} {o : Operation} {x : ServiceCall}
    (h : o.call? r = some (.ok x)) (ho : o.writes = false) : x.reads = true := by
  cases o with
  | listRules => cases h
  | createConfig | updateConfig | createRecord | updateRecord => cases ho
  | listConfigs | getConfig | getRecord =>
    obtain rfl := Except.ok.inj (Option.some.inj h)
    rfl
  | dryRun t e =>
    obtain ⟨values, -, rfl⟩ := exists_of_map_eq_ok (Option.some.inj h)
    rfl
  | listRecords =>
    obtain ⟨f, -, rfl⟩ := exists_of_map_eq_ok (Option.some.inj h)
    rfl

section

variable {r : Request} {d : Deployment} {a : Arrival} {o : Operation} {x : ServiceCall}
  {res : x.Result} {data : Json.Value}

theorem Request.Succeeds.state (h : r.Succeeds d a o x res data) :
    (respond d r a).2 = ((x.call a.moment).run d).2 := by
  rw [respond_state, h.respondFully]

theorem Request.Succeeds.does (h : r.Succeeds d a o x res data) :
    x.Does d.storage a.moment (respond d r a).2.storage res := by
  rw [h.state]
  exact (x.leaves d.storage a.moment).of_ok rfl h.run

/-- **A request that fails or only reads changes nothing that is stored.** -/
theorem Request.Idle.storage_eq (h : r.Idle (respond d r a).1) :
    (respond d r a).2.storage = d.storage := by
  obtain ⟨hS, -⟩ | ⟨o, x, res, data, hdone⟩ := respond_cases d r a
  · exact hS
  · have hstatus : (respond d r a).1.status = o.successStatus := by
      rw [respond_status, hdone.respondFully]
    -- it has not failed, so that it only reads, and so does its call
    obtain hfailed | hreads := h
    · have hlt := o.successStatus_lt
      omega
    · have ho := (onlyReads_iff hdone.find).1 hreads
      exact hdone.does.eq_of_reads (Operation.reads_of_call? hdone.call ho)

/-- A request keeps each thing under its own key, in a storage of the same kind. -/
theorem respond_orderly (hd : d.storage.Orderly) (r : Request) (a : Arrival) :
    (respond d r a).2.storage.Orderly ∧ (respond d r a).2.storage.kind = d.storage.kind := by
  obtain ⟨hS, -⟩ | ⟨o, x, res, data, hdone⟩ := respond_cases d r a
  · rw [hS]
    exact ⟨hd, rfl⟩
  · exact ⟨hdone.does.orderly hd, hdone.does.kind_eq⟩

theorem respondAll_orderly (hd : d.storage.Orderly) (requests : List (Request × Arrival)) :
    (respondAll d requests).2.storage.Orderly ∧
      (respondAll d requests).2.storage.kind = d.storage.kind := by
  induction requests generalizing d with
  | nil => exact ⟨hd, rfl⟩
  | cons request rest ih =>
    obtain ⟨horderly, hkind⟩ := respond_orderly hd request.1 request.2
    obtain ⟨horderly', hkind'⟩ := ih horderly
    exact ⟨horderly', hkind'.trans hkind⟩

/-- Requests that fail or only read, one after the other, change nothing that is stored. -/
theorem storage_respondAll {requests : List (Request × Arrival)}
    (h : List.Forall₂ (fun request response => request.1.Idle response) requests
      (respondAll d requests).1) : (respondAll d requests).2.storage = d.storage := by
  induction requests generalizing d with
  | nil => rfl
  | cons request rest ih =>
    obtain ⟨hidle, hrest⟩ := List.forall₂_cons.1 h
    exact (ih hrest).trans hidle.storage_eq

end

end Http

end CustomFields
