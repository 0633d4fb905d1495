/-
# SensorGateway.Http.Response -- answers

An answer has a status and a body. Bodies are kept as what they say; only their type
is fixed here. A body can also be the event stream of a session, which begins with its
handshake.
-/
import SensorGateway.Event
import SensorGateway.Export.Table
import SensorGateway.Gateway.State

namespace SensorGateway.Http

/-- What an answer holds. -/
inductive Body where
  | empty
  | json (v : Json)
  | page (html : String)
  | csv (text : String)
  /-- A database file with these tables. -/
  | database (t : Export.Tables)
  /-- Some words for whoever wrote the request. -/
  | words
  /-- The events of a session, the handshake first. -/
  | events (id : SessionId) (handshake : Event)
deriving Repr

/-- The media type of a body. -/
def Body.mediaType? : Body → Option String
  | .empty => none
  | .json _ => some "application/json"
  | .page _ => some "text/html; charset=utf-8"
  | .csv _ => some "text/csv; charset=utf-8"
  | .database _ => some "application/x-sqlite3"
  | .words => some "text/plain; charset=utf-8"
  | .events _ _ => some "text/event-stream"

/-- The length of a body in bytes, where it is known beforehand. -/
def Body.length? : Body → Option Nat
  | .empty => some 0
  | .json v => some v.render.utf8ByteSize
  | .page s => some s.utf8ByteSize
  | .csv s => some s.utf8ByteSize
  | .database _ => none
  | .words => none
  | .events _ _ => none

/-- An answer. -/
structure Response where
  status : Nat
  contentType : Option String
  /-- How the body is to be saved. -/
  disposition : Option String
  /-- The announced length of the body. -/
  contentLength : Option Nat
  body : Body
deriving Repr

namespace Response

/-- An answer with a body of its own type. -/
def of (status : Nat) (body : Body) : Response := ⟨status, body.mediaType?, none, none, body⟩

/-- An answer without a body. -/
def bare (status : Nat) : Response := .of status .empty

/-- A good answer in JSON. -/
def json (members : List (String × Json)) : Response := .of 200 (.json (.obj members))

/-- A good answer to be saved as a file. -/
def attachment (now : Instant) (extension : String) (body : Body) : Response :=
  { Response.of 200 body with
    disposition := some ("attachment; filename=\"recording-" ++ now.stamp ++ "." ++ extension ++
      "\"")
    contentLength := body.length? }

/-- The answer with its body left out. -/
def withoutBody (r : Response) : Response := { r with body := .empty }

end Response

/-! ## Errors -/

/-- Why a request fails. -/
inductive ApiError where
  /-- The gateway refused. -/
  | gateway (e : GatewayError)
  /-- Something in the request is wrong or missing. -/
  | badRequest (message : String)
  /-- There is no such thing. -/
  | notFound (what : String)
deriving DecidableEq, Repr

namespace ApiError

/-- The status for a refusal of the arbiter. -/
def controlStatus : ControlError → Nat
  | .invalidToken => 401
  | .missingToken => 401
  | .notController => 403
  | .controlTaken => 409

/-- The status for a refusal of an adapter. -/
def adapterStatus : AdapterError → Nat
  | .unknownObject _ => 404
  | .unknownSensor _ _ => 404
  | .unavailable _ => 502
  | .rejected _ => 502

/-- The status of an error. -/
def status : ApiError → Nat
  | .gateway (.control e) => controlStatus e
  | .gateway (.adapter e) => adapterStatus e
  | .gateway (.bus _) => 404
  | .gateway (.noAdapter _ _) => 404
  | .badRequest _ => 400
  | .notFound _ => 404

/-- What a caller is told. -/
def message : ApiError → String
  | .gateway e => e.message
  | .badRequest m => "bad request: " ++ m
  | .notFound what => "not found: " ++ what

/-- The answer for an error. -/
def response (e : ApiError) : Response :=
  .of e.status (.json (.obj
    [("ok", .bool false), ("error", .str e.message), ("status", .int e.status)]))

end ApiError

end SensorGateway.Http
