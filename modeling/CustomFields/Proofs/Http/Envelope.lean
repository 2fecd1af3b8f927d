import CustomFields.Http.Server
import Mathlib.Tactic.Common

/-!
# Envelopes

A request that goes to an operation of the interface is answered with an envelope, whatever comes of
it: a body or a query that cannot be read, an error of a service and an error of the store are all
taken to errors of the interface, and those to envelopes without data. Only what a path names is read
before that. Where a part of it has not the form that it needs, the answer is a line of text.

## Main definitions

* `Http.Resource.Takes`: the methods of the resources of the interface
* `Http.Resource.HasReadableParts`: the parts of a path have the form that they need
* `Http.Response.IsEnveloped`: a response is an envelope that tells what its status does

## Main results

* `Http.respondOperation_isEnveloped`: operations are answered with envelopes
* `Http.respond_isEnveloped_iff`: which requests of the interface are answered with envelopes
-/

namespace CustomFields.Http

/-! ## The law of envelopes -/

/-- An envelope says whether the request succeeded, as the status does. It has data or else an error,
and names the request as the header does. -/
structure Envelope.Tells (e : Envelope) (status : ℕ) (requestId : String) : Prop where
  success : e.toJson.member? "success" = some (.bool (status < 400))
  data : (e.toJson.member? "data").isSome ↔ status < 400
  error : (e.toJson.member? "error").isSome ↔ 400 ≤ status
  requestId : (e.toJson.member? "metadata").bind (·.member? "request_id") = some (.string requestId)

/-- A response with a lawful envelope. -/
def Response.IsEnveloped (r : Response) : Prop :=
  ∃ e, r.body = .envelope e ∧ e.Tells r.status r.requestId

theorem ApiError.le_status (e : ApiError) : 400 ≤ e.status := by
  cases e <;> simp [status]

theorem Operation.successStatus_lt (o : Operation) : o.successStatus < 400 := by
  cases o <;> simp [successStatus]

theorem Envelope.tells_ofError (e : ApiError) (requestId : String) (a : Arrival) :
    (Envelope.ofError e requestId a).Tells e.status requestId := by
  have hstatus := e.le_status
  refine ⟨?_, ?_, ?_, rfl⟩
  · rw [decide_eq_false (Nat.not_lt.2 hstatus)]
    rfl
  · exact iff_of_false nofun (Nat.not_lt.2 hstatus)
  · exact iff_of_true rfl hstatus

theorem Envelope.tells_ofData (data : Json.Value) (requestId : String) (a : Arrival)
    {status : ℕ} (hstatus : status < 400) :
    (Envelope.ofData data requestId a).Tells status requestId := by
  refine ⟨?_, ?_, ?_, rfl⟩
  · rw [decide_eq_true hstatus]
    rfl
  · exact iff_of_true rfl hstatus
  · exact iff_of_false nofun (Nat.not_le.2 hstatus)

/-- **Operations are answered with envelopes,** whatever comes of them. -/
theorem respondOperation_isEnveloped (d : Deployment) (r : Request) (requestId : String)
    (a : Arrival) (o : Operation) : (respondOperation d r requestId a o).1.IsEnveloped := by
  unfold respondOperation
  split
  · exact ⟨_, rfl, Envelope.tells_ofData _ _ _ o.successStatus_lt⟩
  · exact ⟨_, rfl, Envelope.tells_ofError _ _ _⟩

/-! ## Requests of the interface -/

/-- The methods that the resources of the interface know. -/
inductive Resource.Takes : Resource → String → Prop
  | rules : Takes .rules "GET"
  | createConfig : Takes .configs "POST"
  | listConfigs (tenantId : String) : Takes (.tenantConfigs tenantId) "GET"
  | getConfig (tenantId entityType : String) : Takes (.config tenantId entityType) "GET"
  | updateConfig (tenantId entityType : String) : Takes (.config tenantId entityType) "PUT"
  | dryRun (tenantId entityType : String) : Takes (.dryRun tenantId entityType) "POST"
  | listRecords : Takes .records "GET"
  | createRecord : Takes .records "POST"
  | getRecord (id : String) : Takes (.record id) "GET"
  | updateRecord (id : String) : Takes (.record id) "PATCH"

/-- Ids are readable ids, and entity types are encoded texts. -/
def Resource.HasReadableParts : Resource → Prop
  | .tenantConfigs tenantId => (segmentId? tenantId).isSome
  | .config tenantId entityType | .dryRun tenantId entityType =>
    (segmentId? tenantId).isSome ∧ (segmentText? entityType).isSome
  | .record id => (segmentId? id).isSome
  | _ => True

/-- An operation that is found is the endpoint, and where there is none the path cannot be read. -/
theorem routing_of_elim {readable : Prop} {o? : Option Operation} {routing : Routing}
    (hreadable : o?.isSome ↔ readable)
    (hrouting : routing = o?.elim .unreadablePath (.endpoint ∘ .operation)) :
    (readable ∧ ∃ o, routing = .endpoint (.operation o)) ∨
      (¬ readable ∧ routing = .unreadablePath) := by
  cases o? with
  | none => exact .inr ⟨fun h => Bool.false_ne_true (hreadable.2 h), hrouting⟩
  | some o => exact .inl ⟨hreadable.1 rfl, o, hrouting⟩

theorem isSome_onConfig {tenantId entityType : String} {f : Uuid → String → Operation} :
    (do return f (← segmentId? tenantId) (← segmentText? entityType) : Option Operation).isSome ↔
      (segmentId? tenantId).isSome ∧ (segmentText? entityType).isSome := by
  cases segmentId? tenantId <;> cases segmentText? entityType <;> simp

/-- A request with a method of a resource goes to an operation if the parts of the path can be
read. -/
theorem Resource.Takes.routing {resource : Resource} {method : String}
    (h : resource.Takes method) :
    (resource.HasReadableParts ∧ ∃ o, Routing.ofResource method resource = .endpoint (.operation o)) ∨
      (¬ resource.HasReadableParts ∧ Routing.ofResource method resource = .unreadablePath) := by
  cases h with
  | rules => exact .inl ⟨trivial, .listRules, rfl⟩
  | createConfig => exact .inl ⟨trivial, .createConfig, rfl⟩
  | listConfigs tenantId => exact routing_of_elim (by rw [Option.isSome_map]; rfl) rfl
  | getConfig tenantId entityType => exact routing_of_elim isSome_onConfig rfl
  | updateConfig tenantId entityType => exact routing_of_elim isSome_onConfig rfl
  | dryRun tenantId entityType => exact routing_of_elim isSome_onConfig rfl
  | listRecords => exact .inl ⟨trivial, .listRecords, rfl⟩
  | createRecord => exact .inl ⟨trivial, .createRecord, rfl⟩
  | getRecord id => exact routing_of_elim (by rw [Option.isSome_map]; rfl) rfl
  | updateRecord id => exact routing_of_elim (by rw [Option.isSome_map]; rfl) rfl

theorem Resource.Takes.ne_head {resource : Resource} {method : String} (h : resource.Takes method) :
    method ≠ "HEAD" := by
  cases h <;> decide

/-- The path of a request names a resource of the interface, and its method is one of those that the
resource knows. -/
def Request.IsFor (r : Request) (resource : Resource) : Prop :=
  Resource.of? r.target = some resource ∧ resource.Takes r.method

theorem Request.IsFor.find {r : Request} {resource : Resource} (h : r.IsFor resource) :
    Routing.find r.method r.target = Routing.ofResource r.method resource := by
  rw [Routing.find, h.1]
  exact congrArg (Routing.ofResource · resource) (if_neg h.2.ne_head)

/-! ## The answers -/

theorem respond_of_ne_head {r : Request} (h : r.method ≠ "HEAD") (d : Deployment) (a : Arrival) :
    respond d r a = respondFully d r a := by
  simp only [respond, if_neg h]

/-- A response is to the id of its request. -/
theorem respondFully_requestId (d : Deployment) (r : Request) (a : Arrival) :
    (respondFully d r a).1.requestId = a.requestId r := by
  unfold respondFully
  split
  · rfl
  · rfl
  · rfl
  · rename_i page _
    cases page with
    | banner => rfl
    | health => rfl
    | metrics =>
      simp only [respondPage]
      split <;> rfl
  · simp only [respondOperation]
    split <;> rfl

/-- **The requests of the interface are answered with envelopes** if what their path names can be
read, and else with a line of text; the id of the caller is kept if it can be read. -/
theorem respond_isEnveloped_iff {r : Request} {resource : Resource} (h : r.IsFor resource)
    (d : Deployment) (a : Arrival) :
    ((respond d r a).1.IsEnveloped ↔ resource.HasReadableParts) ∧
      (¬ resource.HasReadableParts →
        (respond d r a).1.status = 400 ∧ (respond d r a).1.body = .text "Invalid URL") ∧
      ∀ id, r.requestId = some id → isReadable id = true → (respond d r a).1.requestId = id := by
  have hid (id : String) (hid : r.requestId = some id) (hreadable : isReadable id = true) :
      (respondFully d r a).1.requestId = id := by
    rw [respondFully_requestId, Arrival.requestId, hid]
    exact if_pos hreadable
  rw [respond_of_ne_head h.2.ne_head]
  refine ⟨?_, ?_, hid⟩
  -- both are settled by the route, and that by the parts of the path
  all_goals
    unfold respondFully
    rw [h.find]
    obtain ⟨hreadable, o, hroute⟩ | ⟨hunreadable, hroute⟩ := h.2.routing
    all_goals rw [hroute]
  · exact iff_of_true (respondOperation_isEnveloped d r _ a o) hreadable
  · refine iff_of_false ?_ hunreadable
    rintro ⟨e, he, -⟩
    cases he
  · exact fun hunreadable => absurd hreadable hunreadable
  · exact fun _ => ⟨rfl, rfl⟩

/-- A record is created from half of an object. -/
def brokenCreation : Request :=
  ⟨"POST", ⟨"/api/v1/records", ""⟩, some "application/json", some "req", "\x7b"⟩

/-- A request that comes in when the count of time starts. -/
def firstArrival : Arrival where
  moment := { freshId := .ofNat 1, now := ⟨0, 0⟩, today := ⟨1970, 1, 1⟩ }
  generatedId := .ofNat 2

theorem respond_isEnveloped_iff_brokenCreation :
    brokenCreation.IsFor .records ∧
      (respond (.new (.new .builtins) .memory 1 false) brokenCreation firstArrival).1.IsEnveloped ∧
      (respond (.new (.new .builtins) .memory 1 false) brokenCreation firstArrival).1.requestId =
        "req" := by
  have hfor : brokenCreation.IsFor .records := ⟨by decide, .createRecord⟩
  obtain ⟨henveloped, -, hid⟩ :=
    respond_isEnveloped_iff hfor (.new (.new .builtins) .memory 1 false) firstArrival
  exact ⟨hfor, henveloped.2 trivial, hid "req" rfl (by decide)⟩

/-- A record is asked for by what is no id. -/
def unreadableRecord : Request :=
  ⟨"GET", ⟨"/api/v1/records/not-a-uuid", ""⟩, none, some "req", ""⟩

/-- Not all requests of the interface are answered with envelopes. -/
theorem not_isEnveloped_unreadableRecord :
    unreadableRecord.IsFor (.record "not-a-uuid") ∧
      ∀ d a, ¬ (respond d unreadableRecord a).1.IsEnveloped := by
  refine ⟨⟨by decide, .getRecord _⟩, ?_⟩
  rintro d a ⟨e, he, -⟩
  have hroute : Routing.find unreadableRecord.method unreadableRecord.target = .unreadablePath := by
    decide
  rw [respond_of_ne_head (by decide), respondFully, hroute] at he
  cases he

end CustomFields.Http
