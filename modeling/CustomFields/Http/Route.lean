import CustomFields.Http.Target
import CustomFields.Uuid

/-!
# Routes

A path names a resource, with parts that are still encoded, and a resource has an endpoint for
each method that it knows. `GET` answers `HEAD` too. The parts of a path are decoded only when
the method is known, so that a wrong method is found before a wrong part.
-/

namespace CustomFields.Http

/-! ## Resources -/

/-- What a path leads to, before its parts are read. -/
inductive Resource where
  | banner
  | health
  | metrics
  | rules
  | configs
  | tenantConfigs (tenantId : String)
  | config (tenantId entityType : String)
  | dryRun (tenantId entityType : String)
  | records
  | record (id : String)
deriving DecidableEq, Repr

/-- The resource under the path of the interface, with a part for each parameter. -/
def Resource.ofParts? : List String → Option Resource
  | ["validations"] => some .rules
  | ["entity-configs"] => some .configs
  | ["tenants", tenantId, "entity-configs"] =>
    if tenantId.isEmpty then none else some (.tenantConfigs tenantId)
  | ["entity-configs", tenantId, entityType] =>
    if tenantId.isEmpty || entityType.isEmpty then none else some (.config tenantId entityType)
  | ["entity-configs", tenantId, entityType, "validate"] =>
    if tenantId.isEmpty || entityType.isEmpty then none else some (.dryRun tenantId entityType)
  | ["records"] => some .records
  | ["records", id] => if id.isEmpty then none else some (.record id)
  | _ => none

/-- The resource that a path names. -/
def Resource.of? (t : Target) : Option Resource :=
  match t.segments with
  | ["", ""] => some .banner
  | ["", "health"] => some .health
  | ["", "metrics"] => some .metrics
  | "" :: "api" :: "v1" :: parts => ofParts? parts
  | _ => none

/-! ## Endpoints -/

/-- What answers for the server as a whole. -/
inductive Page where
  | banner
  | health
  | metrics
deriving DecidableEq, Repr

/-- What can be asked of the interface. -/
inductive Operation where
  | listRules
  | createConfig
  | listConfigs (tenantId : Uuid)
  | getConfig (tenantId : Uuid) (entityType : String)
  | updateConfig (tenantId : Uuid) (entityType : String)
  | dryRun (tenantId : Uuid) (entityType : String)
  | createRecord
  | listRecords
  | getRecord (id : Uuid)
  | updateRecord (id : Uuid)
deriving DecidableEq, Repr

/-- What answers a request: a page, or an operation. -/
inductive Endpoint where
  | page (p : Page)
  | operation (o : Operation)
deriving DecidableEq, Repr

/-- The id in a part of a path. -/
def segmentId? (segment : String) : Option Uuid := do
  Uuid.parse? (← segmentText? segment)

/-- Where the method and the path of a request lead. -/
inductive Routing where
  | unknownPath
  | unknownMethod
  /-- A part of the path does not have the form that it needs. -/
  | unreadablePath
  | endpoint (e : Endpoint)
deriving DecidableEq, Repr

namespace Routing

/-- A path leads to a page. -/
private def page (p : Page) : Routing := .endpoint (.page p)

/-- A path leads to an operation, if its parts can be read. -/
private def operation (o : Option Operation) : Routing :=
  o.elim .unreadablePath (.endpoint ∘ .operation)

/-- A path leads to an operation on the config of a pair. -/
private def onConfig (tenantId entityType : String) (f : Uuid → String → Operation) : Routing :=
  operation do return f (← segmentId? tenantId) (← segmentText? entityType)

/-- The endpoint of a resource for a method. -/
def ofResource (method : String) : Resource → Routing
  | .banner => if method = "GET" then page .banner else .unknownMethod
  | .health => if method = "GET" then page .health else .unknownMethod
  | .metrics => if method = "GET" then page .metrics else .unknownMethod
  | .rules => if method = "GET" then operation (some .listRules) else .unknownMethod
  | .configs => if method = "POST" then operation (some .createConfig) else .unknownMethod
  | .tenantConfigs tenantId =>
    if method = "GET" then operation ((segmentId? tenantId).map .listConfigs) else .unknownMethod
  | .config tenantId entityType =>
    if method = "GET" then onConfig tenantId entityType .getConfig
    else if method = "PUT" then onConfig tenantId entityType .updateConfig
    else .unknownMethod
  | .dryRun tenantId entityType =>
    if method = "POST" then onConfig tenantId entityType .dryRun else .unknownMethod
  | .records =>
    if method = "GET" then operation (some .listRecords)
    else if method = "POST" then operation (some .createRecord)
    else .unknownMethod
  | .record id =>
    if method = "GET" then operation ((segmentId? id).map .getRecord)
    else if method = "PATCH" then operation ((segmentId? id).map .updateRecord)
    else .unknownMethod

/-- Where a request with a method goes. -/
def find (method : String) (target : Target) : Routing :=
  match Resource.of? target with
  | none => .unknownPath
  | some r => ofResource (if method = "HEAD" then "GET" else method) r

end Routing

end CustomFields.Http
