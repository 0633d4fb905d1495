/-
# SensorGateway.Http.Endpoint -- what can be asked for

Paths are compared as they are written, escapes included. The name of an object and
its family may be any parts of a path, even empty ones. Every endpoint has one method.
-/
import SensorGateway.Http.Request

namespace SensorGateway.Http

/-- What can be done with an object. -/
inductive ObjectAction where
  | subscribe
  | unsubscribe
  | set
deriving DecidableEq, Repr

/-- What can be exported. -/
inductive ExportFormat where
  | json
  | csv
  | database
deriving DecidableEq, Repr

/-- What can be asked for. -/
inductive Endpoint where
  /-- The status page. -/
  | page
  /-- The event stream. -/
  | events
  | servers
  /-- An action on an object, given by two parts of the path with their escapes. -/
  | object (name family : String) (action : ObjectAction)
  | takeControl
  | releaseControl
  | controlStatus
  | startRecording
  | stopRecording
  | clearRecording
  | recordingStatus
  | download (format : ExportFormat)
deriving DecidableEq, Repr

namespace Endpoint

/-- The action with a name. -/
def action? : String → Option ObjectAction
  | "subscribe" => some .subscribe
  | "unsubscribe" => some .unsubscribe
  | "set" => some .set
  | _ => none

/-- The endpoint with a path. -/
def ofPath? (path : String) : Option Endpoint :=
  match (Text.splitAt '/' path.toList).map String.ofList with
  | ["", ""] => some .page
  | ["", "api", "events"] => some .events
  | ["", "api", "servers"] => some .servers
  | ["", "api", "objects", name, family, action] => (action? action).map (.object name family)
  | ["", "api", "control", "take"] => some .takeControl
  | ["", "api", "control", "release"] => some .releaseControl
  | ["", "api", "control", "status"] => some .controlStatus
  | ["", "api", "recording", "start"] => some .startRecording
  | ["", "api", "recording", "stop"] => some .stopRecording
  | ["", "api", "recording", "clear"] => some .clearRecording
  | ["", "api", "recording", "status"] => some .recordingStatus
  | ["", "api", "export", "json"] => some (.download .json)
  | ["", "api", "export", "csv"] => some (.download .csv)
  | ["", "api", "export", "database"] => some (.download .database)
  | _ => none

/-- Whether an endpoint is only read, by the method for that; the others take a post. -/
def isRead : Endpoint → Bool
  | .page => true
  | .events => true
  | .servers => true
  | .controlStatus => true
  | .recordingStatus => true
  | .download _ => true
  | _ => false

end Endpoint

end SensorGateway.Http
