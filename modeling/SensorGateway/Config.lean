/-
# SensorGateway.Config -- the settings of a gateway

Every setting has a default. A server without an id takes the hash of its URL, a
server without a name shows its URL, a sensor without an id takes the hash of its
name.
-/
import SensorGateway.Murmur
import SensorGateway.Protocol
import SensorGateway.Sensor.Value
import SensorGateway.Text.Blank
import SensorGateway.Topic

namespace SensorGateway

namespace Config

/-- Where the gateway listens. -/
structure Http where
  host : String := "0.0.0.0"
  port : UInt16 := 8000
deriving DecidableEq, Repr

/-- A sensor of an in-process object. -/
structure Sensor where
  id : Option Int64 := none
  name : String := ""
  /-- The value that it starts with. -/
  value : SensorValue := .int 0
deriving DecidableEq, Repr

/-- The number of a sensor: its id, or else the hash of its name. -/
def Sensor.number (s : Sensor) : Int64 :=
  match s.id with
  | some n => n
  | none => (Murmur.ofText s.name).toUInt64.toInt64

/-- An object that an in-process adapter serves. -/
structure LoopbackObject where
  name : String
  protocol : Protocol
  sensors : List Sensor := []
deriving DecidableEq, Repr

/-- An automation server. -/
structure Server where
  id : Option String := none
  url : String
  name : Option String := none
  /-- The objects that an in-process adapter serves in its place. -/
  loopback : List LoopbackObject := []
deriving DecidableEq, Repr

/-- A text that is there and not blank. -/
def present? (s : Option String) : Option String := s.filter fun s => !Text.isBlankText s

/-- The id of a server: the given one without blanks around it, or else the hash of its URL. -/
def Server.serverId (s : Server) : ServerId :=
  match present? s.id with
  | some id => Text.trim id
  | none => Murmur.digits (Murmur.ofText s.url)

/-- The name of a server: the given one, or else its URL. -/
def Server.displayName (s : Server) : String := (present? s.name).getD s.url

/-- Who may write. -/
structure Control where
  /-- The tokens that may take control; any token may where there is none. -/
  tokens : List String := []
  /-- After how many seconds without activity control is free again; zero means never. -/
  idleTimeoutSeconds : UInt64 := 300
deriving DecidableEq, Repr

/-- The idle timeout in seconds, if there is one. -/
def Control.idleTimeout? (c : Control) : Option UInt64 :=
  if c.idleTimeoutSeconds = 0 then none else some c.idleTimeoutSeconds

/-- The recording buffer. -/
structure Recording where
  /-- Its capacity; zero means no bound. -/
  maxRecords : UInt64 := 500000
deriving DecidableEq, Repr

/-- The channels of sessions. -/
structure Sessions where
  /-- How many events wait for a session at most. -/
  channelCapacity : UInt64 := 256
  /-- How long a delivery waits for a full channel. -/
  sendTimeoutMs : UInt64 := 250
deriving DecidableEq, Repr

/-- How log lines are written. -/
inductive LogFormat where
  /-- Lines for reading. -/
  | fmt
  /-- One JSON object a line. -/
  | json
deriving DecidableEq, Repr

/-- The name of a log format. -/
def LogFormat.name : LogFormat → String
  | .fmt => "fmt"
  | .json => "json"

/-- Log lines. -/
structure Logging where
  level : String := "info"
  format : LogFormat := .fmt
deriving DecidableEq, Repr

end Config

/-- The settings of a gateway. -/
structure Config where
  http : Config.Http := {}
  servers : List Config.Server := []
  control : Config.Control := {}
  recording : Config.Recording := {}
  sessions : Config.Sessions := {}
  logging : Config.Logging := {}
deriving DecidableEq, Repr

end SensorGateway
