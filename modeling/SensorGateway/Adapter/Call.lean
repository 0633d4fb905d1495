/-
# SensorGateway.Adapter.Call -- what adapters are asked to do

An adapter serves the objects of an automation server that belong to one protocol
family. It is asked to watch sensors of an object, to watch none, to tell the values
of all watched ones, and to write a value.
-/
import SensorGateway.Sensor.Key
import SensorGateway.Sensor.Value

namespace SensorGateway

/-- Why an adapter refuses. -/
inductive AdapterError where
  /-- The automation server cannot be reached. -/
  | unavailable (message : String)
  /-- The server has no such object. -/
  | unknownObject (object : String)
  /-- The object has no such sensor. -/
  | unknownSensor (object : String) (key : SensorKey)
  /-- The server refused. -/
  | rejected (message : String)
deriving DecidableEq, Repr

/-- What a caller is told. -/
def AdapterError.message : AdapterError → String
  | .unavailable m => "upstream unavailable: " ++ m
  | .unknownObject o => "unknown object: " ++ o
  | .unknownSensor o k => "unknown sensor " ++ k.display ++ " on " ++ o
  | .rejected m => "rejected by upstream: " ++ m

namespace Adapter

/-- What an adapter is asked to do. -/
inductive Call where
  /-- To watch exactly these sensors of an object. -/
  | subscribe (object : String) (keys : KeySet)
  /-- To watch no sensor of an object. -/
  | unsubscribe (object : String)
  /-- To tell the values of all watched sensors, changed or not. -/
  | forceEmit (object : String)
  /-- To write a value. -/
  | setValue (object : String) (key : SensorKey) (value : SensorValue)
deriving DecidableEq, Repr

/-- The kinds of calls. -/
inductive Call.Kind where
  | subscribe
  | unsubscribe
  | forceEmit
  | setValue
deriving DecidableEq, Repr

namespace Call

/-- The kind of a call. -/
def kind : Call → Kind
  | .subscribe .. => .subscribe
  | .unsubscribe .. => .unsubscribe
  | .forceEmit .. => .forceEmit
  | .setValue .. => .setValue

/-- The object of a call. -/
def object : Call → String
  | .subscribe o _ => o
  | .unsubscribe o => o
  | .forceEmit o => o
  | .setValue o _ _ => o

/-- A call as a line of a log. -/
def text : Call → String
  | .subscribe o keys => "subscribe " ++ o ++ " " ++ Json.Wire.text keys
  | .unsubscribe o => "unsubscribe " ++ o
  | .forceEmit o => "force " ++ o
  | .setValue o k v => "set " ++ o ++ " " ++ k.display ++ "=" ++ v.display

end Call

end Adapter

end SensorGateway
