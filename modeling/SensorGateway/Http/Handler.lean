/-
# SensorGateway.Http.Handler -- from requests to answers

A request is read first, in a fixed order: parts of the path, the query, the body, then
the protocol family, the session and the topic. The first that is wrong decides the
answer, and nothing has happened yet. Only then the gateway is asked.

A caller may give the session and the control token in a header or in the query; the
header counts when both are there.
-/
import SensorGateway.Gateway.Recording
import SensorGateway.Gateway.Writing
import SensorGateway.Http.Endpoint
import SensorGateway.Http.MediaType
import SensorGateway.Http.Message
import SensorGateway.Http.Page
import SensorGateway.Http.Response

namespace SensorGateway.Http

/-! ## Reading requests -/

/-- A request that cannot be read is answered with some words. -/
def unreadable (status : Nat) : Response := .of status .words

/-- A part of a path without escapes. -/
def readPart (part : String) : Except Response String :=
  match Percent.decode? part with
  | some s => .ok s
  | none => .error (unreadable 400)

/-- What the query says about the caller. -/
def readQuery (r : Request) : Except Response Query :=
  match Query.ofForm r.form with
  | .ok q => .ok q
  | .error _ => .error (unreadable 400)

/-- The text of a body as a value. -/
def bodyAs (α : Type) [Json.Wire α] (r : Request) : Except Json.DecodeError α :=
  match Text.Utf8.decode? r.body with
  | some s => Json.Wire.ofText s
  | none => .error .malformed

/-- The body of a request that has to be JSON. -/
def readBody (α : Type) [Json.Wire α] (r : Request) : Except Response α :=
  if !(r.rawHeader? "content-type").any MediaType.isJson then .error (unreadable 415)
  else
    match bodyAs α r with
    | .ok a => .ok a
    | .error .malformed => .error (unreadable 400)
    | .error .mismatched => .error (unreadable 422)

/-- The family that a part of a path names. -/
def readFamily (s : String) : Except Response Protocol :=
  match Protocol.ofUrl? s with
  | some p => .ok p
  | none => .error (ApiError.badRequest (Protocol.unknownMessage s)).response

/-- The session of the caller. -/
def readSession (r : Request) (q : Query) : Except Response SessionId :=
  match r.header? "x-session-id" <|> q.session with
  | none => .error (ApiError.badRequest "session id required").response
  | some raw =>
    match SessionId.ofText? raw with
    | some id => .ok id
    | none => .error (ApiError.badRequest ("invalid session id '" ++ raw ++ "': ")).response

/-- The control token of the caller, if there is one. -/
def tokenOf (r : Request) (q : Query) : Option String := r.header? "x-control-token" <|> q.token

/-- The server that is meant: the one that the query names, or the only one. -/
def readServer (g : Gateway) (q : Query) : Except Response ServerId :=
  match q.server with
  | some id =>
    if (g.registry.get? id).isSome then .ok id
    else .error (ApiError.notFound ("server " ++ id)).response
  | none =>
    match g.registry.sole? with
    | some id => .ok id
    | none => .error (ApiError.badRequest
        "server parameter required when several servers are configured").response

/-- The topic of an object on the server that is meant. -/
def readTopic (g : Gateway) (q : Query) (object : String) : Except Response Topic := do
  return ⟨← readServer g q, object⟩

/-! ## Requests to an object -/

/-- A request for sensors, read. -/
structure SubscribeCall where
  session : SessionId
  topic : Topic
  protocol : Protocol
  keys : KeySet
deriving DecidableEq, Repr

/-- Reads a request for sensors. -/
def readSubscribe (g : Gateway) (r : Request) (name family : String) :
    Except Response SubscribeCall := do
  let object ← readPart name
  let family ← readPart family
  let q ← readQuery r
  let body ← readBody SubscribeRequest r
  let protocol ← readFamily family
  let session ← readSession r q
  return ⟨session, ← readTopic g q object, protocol, body.keys⟩

/-- Reads a request to be told no more. -/
def readUnsubscribe (g : Gateway) (r : Request) (name family : String) :
    Except Response SubscribeCall := do
  let object ← readPart name
  let family ← readPart family
  let q ← readQuery r
  let protocol ← readFamily family
  let session ← readSession r q
  return ⟨session, ← readTopic g q object, protocol, .empty⟩

/-- A request to write, read. -/
structure SetCall where
  token : Option String
  topic : Topic
  protocol : Protocol
  request : SetRequest
deriving DecidableEq, Repr

/-- Reads a request to write. -/
def readSet (g : Gateway) (r : Request) (name family : String) : Except Response SetCall := do
  let object ← readPart name
  let family ← readPart family
  let q ← readQuery r
  let request ← readBody SetRequest r
  let protocol ← readFamily family
  return ⟨tokenOf r q, ← readTopic g q object, protocol, request⟩

/-- The answer to a request that needs no words. -/
def done : Response := .json [("ok", .bool true)]

/-- The answer for what the gateway said. -/
def resultResponse {α : Type} (good : α → Response) : Except GatewayError α → Response
  | .ok a => good a
  | .error e => (ApiError.gateway e).response

/-- Replaces what a session asks for. -/
def subscribe (g : Gateway) (r : Request) (name family : String) : Gateway × Response :=
  match readSubscribe g r name family with
  | .error answer => (g, answer)
  | .ok c =>
    let (g, result) := g.subscribe c.session c.topic c.protocol c.keys
    (g, resultResponse (fun n => .json
      [("ok", .bool true), ("server", .str c.topic.server), ("object", .str c.topic.object),
       ("subscribed", .int n)]) result)

/-- Takes away what a session asks for. -/
def unsubscribe (g : Gateway) (r : Request) (name family : String) : Gateway × Response :=
  match readUnsubscribe g r name family with
  | .error answer => (g, answer)
  | .ok c =>
    let (g, result) := g.unsubscribe c.session c.topic c.protocol
    (g, resultResponse (fun _ => done) result)

/-- Writes a value. -/
def set (g : Gateway) (r : Request) (name family : String) : Gateway × Response :=
  match readSet g r name family with
  | .error answer => (g, answer)
  | .ok c =>
    let (g, result) := g.setValue c.token c.topic c.protocol c.request.key c.request.value
    (g, resultResponse (fun _ => done) result)

/-! ## Control -/

/-- Reads the token of a request for control: from the body, or else from header or query. -/
def readTake (r : Request) : Except Response String := do
  let q ← readQuery r
  let request ←
    if r.body = [] then pure ⟨none⟩
    else
      match bodyAs TakeRequest r with
      | .ok request => pure request
      | .error _ => throw (ApiError.badRequest "invalid body: ").response
  return ((request.token <|> tokenOf r q).getD "")

/-- Takes control. -/
def takeControl (g : Gateway) (r : Request) : Gateway × Response :=
  match readTake r with
  | .error answer => (g, answer)
  | .ok token =>
    let (g, result) := g.takeControl token
    (g, resultResponse (fun v => .json
      [("ok", .bool true), ("isController", .bool v.isController),
       ("hasController", .bool v.hasController),
       ("timeoutSec", Json.Wire.encode v.timeoutSec)]) result)

/-- Says how control stands for the caller. -/
def controlStatus (g : Gateway) (r : Request) : Response :=
  match readQuery r with
  | .error answer => answer
  | .ok q => .of 200 (.json (Json.Wire.encode (g.arbiter.status (tokenOf r q))))

/-! ## Recordings -/

/-- The answer after a change of the recording. -/
def recordingResponse (x : Gateway × RecordingStatus) : Gateway × Response :=
  (x.1, .of 200 (.json (Json.Wire.encode x.2)))

/-- Exports the records that the query asks for. -/
def download (g : Gateway) (r : Request) (format : ExportFormat) : Response :=
  match filterOfForm r.form with
  | .error _ => (ApiError.badRequest "Failed to deserialize query string").response
  | .ok f =>
    let now := g.clock.wall
    match format with
    | .json => .attachment now "json" (.json (Json.Wire.encode (g.recorder.document now f)))
    | .csv => .attachment now "csv" (.csv (g.recorder.csv f))
    | .database =>
      .attachment now "db" (.database (.of (g.recorder.select f) g.registry.servers))

/-! ## All requests -/

/-- Opens an event stream under a new identifier. -/
def openStream (g : Gateway) (id : SessionId) : Gateway × Response :=
  let (g, c) := g.openSession id
  (g, .of 200 (.events id (.connected c)))

/-- A client goes away from its event stream: nobody reads any more, the session is closed, and
its topics are released. -/
def closeStream (g : Gateway) (id : SessionId) : Gateway :=
  let (g, topics) := { g with bus := (g.bus.hangUp id).1 }.closeSession id
  g.releaseTopics topics

/-- Answers a request that has the method of its endpoint. An event stream gets the identifier
`id`. -/
def run (g : Gateway) (id : SessionId) (r : Request) : Endpoint → Gateway × Response
  | .page => (g, .of 200 (.page (Page.html g)))
  | .events => openStream g id
  | .servers => (g, .json
      [("count", .int g.registry.servers.length),
       ("servers", Json.Wire.encode g.registry.servers)])
  | .object name family .subscribe => subscribe g r name family
  | .object name family .unsubscribe => unsubscribe g r name family
  | .object name family .set => set g r name family
  | .takeControl => takeControl g r
  | .releaseControl => (g.releaseControl.1, done)
  | .controlStatus => (g, controlStatus g r)
  | .startRecording => recordingResponse g.startRecording
  | .stopRecording => recordingResponse g.stopRecording
  | .clearRecording => recordingResponse g.clearRecording
  | .recordingStatus => (g, .of 200 (.json (Json.Wire.encode g.recorder.status)))
  | .download format => (g, download g r format)

/-- Answers a request for the head of what can be read: as if it was read, but without its body.
An event stream ends at once. -/
def runHead (g : Gateway) (id : SessionId) (r : Request) (e : Endpoint) : Gateway × Response :=
  let (g, answer) := run g id r e
  (if e = .events then closeStream g id else g, answer.withoutBody)

/-- Answers a request. Browsers may ask for any options. -/
def handle (g : Gateway) (id : SessionId) (r : Request) : Gateway × Response :=
  if r.method = .options then (g, .bare 200)
  else
    match Endpoint.ofPath? r.path with
    | none => (g, .bare 404)
    | some e =>
      if e.isRead ∧ r.method = .head then runHead g id r e
      else if r.method = (if e.isRead then .get else .post) then run g id r e
      else (g, .bare 405)

end SensorGateway.Http
