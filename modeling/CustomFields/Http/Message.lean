import CustomFields.Calendar.Timestamp
import CustomFields.Http.Target
import CustomFields.Json.Value

/-!
# Requests and responses

A request has a method, a target, the two headers that matter here, and a body. Most responses
are envelopes: a JSON object that says whether the request succeeded, has either data or an
error, and names the request that it answers.
-/

namespace CustomFields.Http

open Calendar (Timestamp)

/-! ## Requests -/

/-- A request, as far as the answer depends on it. Its body is a text. Bodies that are not UTF-8 are
left out; they are refused like those that are not JSON. -/
structure Request where
  method : String
  target : Target
  /-- The media type of the body. -/
  contentType : Option String
  /-- The id that the caller gave to the request. -/
  requestId : Option String
  body : String

namespace Request

/-- The characters of a method. -/
def isMethodChar (c : Char) : Bool :=
  c.isAlphanum || "!#$%&'*+-.^_\x60|~".toList.contains c

/-- A header may not have controls other than tabs. -/
def isHeaderChar (c : Char) : Bool :=
  c == '\t' || (c.toNat ≥ 0x20 && c.toNat != 0x7F)

/-- A request of parts that are well formed. -/
def make? (method target : String) (contentType requestId : Option String) (body : String) :
    Option Request := do
  let target ← Target.parse? target
  let areLegal (header : Option String) : Bool := header.all (·.toList.all isHeaderChar)
  if method.isEmpty || !method.toList.all isMethodChar || !areLegal contentType ||
      !areLegal requestId then none
  return { method, target, contentType, requestId, body }

end Request

/-- Whether a header can be read as text: it has printable ASCII characters and tabs only. -/
def isReadable (header : String) : Bool :=
  header.toList.all fun c => c == '\t' || (0x20 ≤ c.toNat && c.toNat < 0x7F)

/-! ## Envelopes -/

/-- What an envelope says of an error. -/
structure ErrorInfo where
  code : String
  message : String
  details : Option Json.Value := none

/-- What an envelope says of the request and the answer. -/
structure Metadata where
  requestId : String
  timestamp : Timestamp
  /-- How long a success took, in milliseconds. -/
  duration : Option Nat

/-- What the answers of all operations have in common. -/
structure Envelope where
  success : Bool
  data : Option Json.Value
  error : Option ErrorInfo
  metadata : Metadata

/-- The version that responses show. -/
def version : String := "0.3.0"

/-- An error as it is shown. -/
def ErrorInfo.toJson (e : ErrorInfo) : Json.Value :=
  .object ([("code", .string e.code), ("message", .string e.message)] ++
    Json.memberIf "details" e.details)

/-- Metadata as they are shown. -/
def Metadata.toJson (m : Metadata) : Json.Value :=
  .object ([("request_id", .string m.requestId), ("timestamp", .string m.timestamp.text),
      ("version", .string version)] ++
    Json.memberIf "duration_ms" (m.duration.map .nat))

/-- An envelope as it is shown. -/
def Envelope.toJson (e : Envelope) : Json.Value :=
  .object ([("success", .bool e.success)] ++ Json.memberIf "data" e.data ++
    Json.memberIf "error" (e.error.map (·.toJson)) ++ [("metadata", e.metadata.toJson)])

/-! ## Responses -/

/-- What stands in the body of a response. -/
inductive Body where
  | empty
  | text (s : String)
  | json (v : Json.Value)
  | envelope (e : Envelope)

/-- A response, with the headers that are told here. -/
structure Response where
  status : Nat
  /-- The header that names the request. -/
  requestId : String
  body : Body

end CustomFields.Http
