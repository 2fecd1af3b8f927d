import CustomFields.Http.Body
import CustomFields.Http.Route
import CustomFields.Metrics.Exposition
import CustomFields.Service.Configs
import CustomFields.Service.Records

/-!
# The server

`Deployment.respond` answers one request: it finds the endpoint, reads what the request carries,
makes the call and wraps what came of it in an envelope. The order is fixed, and nothing is
accessed before the request has been read.
-/

namespace CustomFields.Http

/-! ## Errors -/

/-- Why a request fails. -/
inductive ApiError where
  | badRequest (message : String)
  | notFound (message : String)
  | conflict (message : String)
  | validationFailed (l : IssueList)
  | internal (message : String)

namespace ApiError

/-- The code of an error. -/
def code : ApiError → String
  | .badRequest _ => "BAD_REQUEST"
  | .notFound _ => "NOT_FOUND"
  | .conflict _ => "CONFLICT"
  | .validationFailed _ => "VALIDATION_FAILED"
  | .internal _ => "INTERNAL_ERROR"

/-- The status of an error. -/
def status : ApiError → Nat
  | .badRequest _ | .validationFailed _ => 400
  | .notFound _ => 404
  | .conflict _ => 409
  | .internal _ => 500

/-- What is shown of an error. -/
def info (e : ApiError) : ErrorInfo :=
  match e with
  | .badRequest m | .notFound m | .conflict m | .internal m => { code := e.code, message := m }
  | .validationFailed l =>
    { code := e.code, message := "Custom data validation failed"
      details := some (.object [("message", .string l.message),
        ("errors", .array (l.issues.map (·.toJson)))]) }

/-- Why a request fails that the store fails for. -/
def ofStore (e : StoreError) : ApiError :=
  match e with
  | .configNotFound _ _ | .recordNotFound _ => .notFound e.message
  | .configExists _ _ | .recordExists _ => .conflict e.message
  | .serialization _ => .internal e.message

/-- Why a request fails whose call does. -/
def ofService (e : ServiceError) : ApiError :=
  match e with
  | .validation l => .validationFailed l
  | .schema _ | .invalidInput _ => .badRequest e.message
  | .store e => ofStore e

end ApiError

/-! ## Operations -/

/-- What an operation does with the state: it returns its data or fails. -/
abbrev Answer := ExceptT ApiError (Program serviceInterface) Json.Value

/-- Makes a call and takes its result to data. -/
def answer {α : Type} (c : Call α) (toJson : α → Json.Value) : Answer :=
  toJson <$> ExceptT.adapt .ofService c

/-- Makes a call for something that may not be there. -/
def answerFound {α : Type} (c : Call (Option α)) (missing : StoreError) (toJson : α → Json.Value) :
    Answer := do
  match ← ExceptT.adapt .ofService c with
  | some a => return toJson a
  | none => throw (.notFound missing.message)

/-- Goes on with what a request carries, if it can be read. -/
def reading {α : Type} (carried : Except Rejection α) (next : α → Answer) : Answer :=
  match carried with
  | .ok a => next a
  | .error e => throw (.badRequest e.message)

namespace Operation

/-- The status of a success. -/
def successStatus : Operation → Nat
  | .createConfig | .createRecord => 201
  | _ => 200

/-- The answer of an operation. -/
def run (rules : Rule.Registry) (r : Request) (m : Moment) : Operation → Answer
  | .listRules => return rules.metadataJson
  | .createConfig => reading (r.decodeBody ConfigCreation.decode) fun b =>
    answer (Configs.create b.tenantId b.entityType b.name b.schema m) (·.toJson)
  | .listConfigs tenantId => answer (Configs.list tenantId) fun cs => .array (cs.map (·.toJson))
  | .getConfig tenantId entityType =>
    answerFound (Configs.get tenantId entityType) (.configNotFound tenantId entityType) (·.toJson)
  | .updateConfig tenantId entityType => reading (r.decodeBody ConfigChange.decode) fun b =>
    answer (Configs.update tenantId entityType b.name b.schema m) (·.toJson)
  | .dryRun tenantId entityType => reading (r.decodeBody decodeTrial) fun customData =>
    answer (Records.dryRun tenantId entityType customData m) (·.toJson)
  | .createRecord => reading (r.decodeBody RecordCreation.decode) fun b =>
    answer (Records.create b.tenantId b.entityType b.customData m) (·.toJson)
  | .listRecords => reading r.filter fun f =>
    answer (Records.list f) fun rs => .array (rs.map (·.toJson))
  | .getRecord id => answerFound (Records.get id) (.recordNotFound id) (·.toJson)
  | .updateRecord id => reading (r.decodeBody decodeChange) fun customData =>
    answer (Records.update id customData m) (·.toJson)

end Operation

/-! ## Responses -/

/-- What the server knows when a request comes in. -/
structure Arrival where
  moment : Moment
  /-- The id of a request that brings none. -/
  generatedId : Uuid
  /-- For how long the server has been up, in seconds. -/
  uptime : Nat := 0

/-- The id of a request: that of the caller if it can be read. -/
def Arrival.requestId (a : Arrival) (r : Request) : String :=
  match r.requestId with
  | some id => if isReadable id then id else a.generatedId.text
  | none => a.generatedId.text

namespace Envelope

/-- The envelope of an error. -/
def ofError (e : ApiError) (requestId : String) (a : Arrival) : Envelope where
  success := false
  data := none
  error := some e.info
  metadata := ⟨requestId, a.moment.now, none⟩

/-- The duration is shown in whole milliseconds, and no operation takes that long. -/
def ofData (data : Json.Value) (requestId : String) (a : Arrival) : Envelope where
  success := true
  data := some data
  error := none
  metadata := ⟨requestId, a.moment.now, some 0⟩

end Envelope

/-- What the server says of itself. -/
def banner : Json.Value :=
  .object [("message", .string "Entity config API with dynamic custom-field validation")]

/-- The state of the server: healthy if the store answers and there are rules. -/
def healthReport (storage : Bool) (rules : Nat) (metrics : Bool) (a : Arrival) : Json.Value :=
  let status := if !storage then "unhealthy" else if 0 < rules then "healthy" else "degraded"
  .object [("status", .string status),
    ("components", .object [("storage", .bool storage), ("rules_registered", .nat rules),
      ("metrics", .bool metrics)]),
    ("uptime_seconds", .nat a.uptime), ("timestamp", .string a.moment.now.text),
    ("version", .string version)]

/-- The tenant that the health check asks for. -/
def nobody : Uuid := .ofNat 0

/-- The response to a request that fails. -/
def errorResponse (e : ApiError) (requestId : String) (a : Arrival) : Response :=
  ⟨e.status, requestId, .envelope (.ofError e requestId a)⟩

/-- Shows a page. -/
def respondPage (d : Deployment) (requestId : String) (a : Arrival) : Page → Response × Deployment
  | .banner => (⟨200, requestId, .json banner⟩, d)
  | .health =>
    let (configs, d) := (Configs.list nobody).run d
    (⟨200, requestId, .json (healthReport configs.toOption.isSome d.engine.registry.size
      d.metrics.isSome a)⟩, d)
  | .metrics =>
    match d.metrics with
    | some m => (⟨200, requestId, .text m.text⟩, d)
    | none => (errorResponse (.notFound "Metrics are disabled") requestId a, d)

/-- Runs an operation. -/
def respondOperation (d : Deployment) (r : Request) (requestId : String) (a : Arrival)
    (o : Operation) : Response × Deployment :=
  match Program.run Deployment.serve (ExceptT.run (o.run d.engine.registry r a.moment)) d with
  | (.ok data, d) => (⟨o.successStatus, requestId, .envelope (.ofData data requestId a)⟩, d)
  | (.error e, d) => (errorResponse e requestId a, d)

/-- Answers a request as if its method asked for the body. -/
def respondFully (d : Deployment) (r : Request) (a : Arrival) : Response × Deployment :=
  let requestId := a.requestId r
  match Routing.find r.method r.target with
  | .unknownPath => (⟨404, requestId, .empty⟩, d)
  | .unknownMethod => (⟨405, requestId, .empty⟩, d)
  | .unreadablePath => (⟨400, requestId, .text "Invalid URL"⟩, d)
  | .endpoint (.page p) => respondPage d requestId a p
  | .endpoint (.operation o) => respondOperation d r requestId a o

/-- Answers a request. -/
def respond (d : Deployment) (r : Request) (a : Arrival) : Response × Deployment :=
  let (response, d) := respondFully d r a
  (if r.method = "HEAD" then { response with body := .empty } else response, d)

/-- Answers requests one after the other. -/
def respondAll (d : Deployment) : List (Request × Arrival) → List Response × Deployment
  | [] => ([], d)
  | (r, a) :: rest =>
    let (response, d) := respond d r a
    let (responses, d) := respondAll d rest
    (response :: responses, d)

end CustomFields.Http
