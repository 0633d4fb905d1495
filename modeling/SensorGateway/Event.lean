/-
# SensorGateway.Event -- what sessions are told

The first event of a session is its handshake. After it come sensor batches, changes
of control and changes of the recording. On the event stream each event is a frame:
its name, its JSON text on one line, and an empty line.
-/
import SensorGateway.SessionId
import SensorGateway.Status

namespace SensorGateway

/-- The handshake of a session: its identifier and the state of things. -/
structure Connected where
  session : SessionId
  control : ControlView
  recording : RecordingStatus
deriving DecidableEq, Repr

instance : Json.Wire Connected where
  encode c := .obj
    [("sessionId", Json.Wire.encode c.session), ("control", Json.Wire.encode c.control),
     ("recording", Json.Wire.encode c.recording)]
  decode r := do
    let fs ← Json.Fields.ofReading
      [.of SessionId "sessionId", .of ControlView "control", .of RecordingStatus "recording"] r
    return ⟨← fs.get "sessionId", ← fs.get "control", ← fs.get "recording"⟩

/-- Anything that a session is told. -/
inductive Event where
  | connected (c : Connected)
  | batch (b : Batch)
  | control (s : ControlStatus)
  | recording (s : RecordingStatus)
deriving DecidableEq, Repr

namespace Event

/-- The name of an event on the stream. -/
def name : Event → String
  | .connected _ => "connected"
  | .batch b => b.protocol.eventName
  | .control _ => "control_status"
  | .recording _ => "recording_status"

/-- The data of an event. -/
def data : Event → Json
  | .connected c => Json.Wire.encode c
  | .batch b => Json.Wire.encode b
  | .control s => Json.Wire.encode s
  | .recording s => Json.Wire.encode s

/-- The frame of an event on the stream. -/
def frame (e : Event) : String :=
  "event: " ++ e.name ++ "\ndata: " ++ e.data.render ++ "\n\n"

end Event

end SensorGateway
