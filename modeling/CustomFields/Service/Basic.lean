import CustomFields.Metrics.Basic
import CustomFields.Store.Storage
import CustomFields.Validation.Engine

/-!
# Services

The calls that manage configs and records share a store, the cache of compiled schemas and the
metrics. A call is a program over accesses to them. What a call cannot know by itself, a fresh id
and the readings of clocks, is given to it as a `Moment`.
-/

namespace CustomFields

open Calendar (Timestamp)

/-- Why a call fails. -/
inductive ServiceError where
  | schema (e : SchemaError)
  | validation (l : IssueList)
  | store (e : StoreError)
  | invalidInput (message : String)

namespace ServiceError

/-- What is said of a call that fails. -/
def message : ServiceError → String
  | .schema e => "Schema error: " ++ e.message
  | .validation l => l.message
  | .store e => e.message
  | .invalidInput message => "Invalid input: " ++ message

/-- Why a call fails whose validation does. -/
def ofEngine : EngineError → ServiceError
  | .schema e => .schema e
  | .validation l => .validation l

end ServiceError

/-- Entity types are parts of paths and keys: they are not blank and have no slash. -/
def checkEntityType (entityType : String) : Except ServiceError Unit :=
  if Text.isBlankText entityType then throw (.invalidInput "entity_type must not be empty")
  else if '/' ∈ entityType.toList then
    throw (.invalidInput ("entity_type '" ++ entityType ++ "' must not contain '/'"))
  else return ()

/-- What a call is given: an id that nothing has, the time, the date of the day, and how long a
validation takes. -/
structure Moment where
  freshId : Uuid
  now : Timestamp
  today : Calendar.Date
  elapsed : Binary64 := .zero

/-! ## Accesses -/

/-- What calls do in a deployment, one access after the other. -/
inductive ServiceAccess where
  | store (x : StoreAccess)
  /-- Gets the compiled form of a schema. -/
  | compile (schema : Schema)
  /-- Validates a payload; without a schema it passes. -/
  | validate (schema : Option Schema) (payload : Json.Object) (today : Calendar.Date)
  | dryRun (schema : Schema) (payload : Json.Object) (today : Calendar.Date)
  | observe (o : Observation)

/-- What is answered to the accesses of calls. -/
def serviceInterface : Interface where
  Access := ServiceAccess
  Answer
    | .store x => Except StoreError x.Result
    | .compile _ => Except SchemaError Compilation
    | .validate _ _ _ => Except EngineError Json.Object
    | .dryRun _ _ _ => Except SchemaError ValidationReport
    | .observe _ => Unit

/-- The state that calls share; metrics may be off. -/
structure Deployment where
  engine : Engine
  storage : Storage
  cache : SchemaCache
  metrics : Option Metrics

namespace Deployment

/-- A deployment at its start: nothing is stored, compiled or counted yet. -/
def new (engine : Engine) (kind : StorageKind) (cacheCapacity : Nat) (withMetrics : Bool) :
    Deployment :=
  { engine, storage := .new kind, cache := .new cacheCapacity,
    metrics := if withMetrics then some .empty else none }

/-- The deployment with metrics that start anew and keep their series by a placement. -/
def metersAt (d : Deployment) (place : Placement) : Deployment :=
  { d with metrics := some (.emptyAt place) }

/-- Serves an access. -/
def serve : serviceInterface.Server Deployment
  | .store x, d =>
    let (answer, storage) := d.storage.serve x
    (answer, { d with storage })
  | .compile schema, d =>
    let (answer, cache) := d.cache.getOrCompile schema
    (answer, { d with cache })
  | .validate schema payload today, d =>
    let (answer, cache) := d.engine.validateOptional d.cache schema payload today
    (answer, { d with cache })
  | .dryRun schema payload today, d =>
    let (answer, cache) := d.engine.dryRun d.cache schema payload today
    (answer, { d with cache })
  | .observe o, d => ((), { d with metrics := d.metrics.map (·.observe o) })

end Deployment

/-! ## Calls -/

/-- A call that answers or fails. -/
abbrev Call (α : Type) := ExceptT ServiceError (Program serviceInterface) α

namespace Call

/-- Makes one access. -/
def access (x : ServiceAccess) : Call (serviceInterface.Answer x) :=
  ExceptT.lift (Program.perform (I := serviceInterface) x)

/-- Makes an access to the store. -/
def store (x : StoreAccess) : Call x.Result := do
  match ← access (.store x) with
  | .ok r => return r
  | .error e => throw (.store e)

/-- Makes sure that a schema compiles. -/
def compile (schema : Schema) : Call Compilation := do
  match ← access (.compile schema) with
  | .ok c => return c
  | .error e => throw (.schema e)

/-- Tells the metrics of something. -/
def observe (o : Observation) : Call Unit :=
  access (.observe o)

/-- Runs a call alone. -/
def run {α : Type} (c : Call α) (d : Deployment) : Except ServiceError α × Deployment :=
  Program.run Deployment.serve (ExceptT.run c) d

end Call

end CustomFields
