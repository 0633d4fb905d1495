/-
# SensorGateway.Adapter.Loopback -- objects held in memory

The adapter holds the sensors of the settings with their values. Sensors that are
newly watched are told once, a written value is told when its sensor is watched, and
all watched values are told on demand. A key addresses the first sensor in the order
of the settings that fits.
-/
import SensorGateway.Adapter.Call
import SensorGateway.Config
import SensorGateway.Update

namespace SensorGateway.Adapter

/-- A sensor in memory. -/
structure MemorySensor where
  number : Int64
  name : String
  value : SensorValue
deriving DecidableEq, Repr

namespace MemorySensor

/-- A sensor of the settings. -/
def ofConfig (s : Config.Sensor) : MemorySensor := ⟨s.number, s.name, s.value⟩

/-- Whether a key addresses the sensor. -/
def isAddressed (k : SensorKey) (s : MemorySensor) : Bool := k.addresses s.number s.name

/-- Whether some key of a set addresses the sensor. -/
def isWatched (ks : KeySet) (s : MemorySensor) : Bool := ks.addresses s.number s.name

end MemorySensor

/-- An object in memory. -/
structure MemoryObject where
  /-- The sensors in the order of the settings. -/
  sensors : List MemorySensor
  watched : KeySet
deriving DecidableEq, Repr

/-- An adapter for objects in memory. -/
structure Loopback where
  server : ServerId
  protocol : Protocol
  objects : SortedMap String MemoryObject
deriving DecidableEq, Repr

namespace Loopback

/-- The adapter for the objects of one family in the settings. Of two objects with one name the
later one counts. -/
def ofConfig (server : ServerId) (p : Protocol) (objects : List Config.LoopbackObject) :
    Loopback :=
  ⟨server, p, .ofList ((objects.filter (·.protocol = p)).map fun o =>
    (o.name, ⟨o.sensors.map .ofConfig, .empty⟩))⟩

/-- The names of the objects in order. -/
def objectNames (l : Loopback) : List String := l.objects.keys

/-- The value of a sensor. -/
def value? (l : Loopback) (object : String) (k : SensorKey) : Option SensorValue := do
  let o ← l.objects.get? object
  let s ← o.sensors.find? (·.isAddressed k)
  return s.value

/-- The keys that are watched on an object. -/
def watched (l : Loopback) (object : String) : KeySet :=
  match l.objects.get? object with
  | some o => o.watched
  | none => .empty

/-- The values of some sensors as a batch. -/
def batch (l : Loopback) (now : Instant) (object : String) (sensors : List MemorySensor) :
    Batch :=
  ⟨l.protocol, l.server, object,
    sensors.map fun s => ⟨l.server, object, s.number, s.name, s.value, now⟩⟩

/-- Changes an object. -/
def setObject (l : Loopback) (name : String) (o : MemoryObject) : Loopback :=
  { l with objects := l.objects.insert name o }

/-- Writes the first sensor that a key addresses. The result has the sensor as it is then. -/
def write? (k : SensorKey) (v : SensorValue) :
    List MemorySensor → Option (List MemorySensor × MemorySensor)
  | [] => none
  | s :: rest =>
    if s.isAddressed k then some ({ s with value := v } :: rest, { s with value := v })
    else (write? k v rest).map fun r => (s :: r.1, r.2)

/-- Does what is asked. The result has the values to tell; an empty batch tells nothing. -/
def perform (l : Loopback) (now : Instant) (c : Call) : Except AdapterError (Loopback × Batch) :=
  match l.objects.get? c.object with
  | none => .error (.unknownObject c.object)
  | some o =>
    match c with
    | .subscribe name keys =>
      let fresh := o.sensors.filter fun s => s.isWatched keys && !s.isWatched o.watched
      .ok (l.setObject name { o with watched := keys }, l.batch now name fresh)
    | .unsubscribe name =>
      .ok (l.setObject name { o with watched := .empty }, l.batch now name [])
    | .forceEmit name =>
      .ok (l, l.batch now name (o.sensors.filter (·.isWatched o.watched)))
    | .setValue name k v =>
      match write? k v o.sensors with
      | none => .error (.unknownSensor name k)
      | some (sensors, s) =>
        .ok (l.setObject name { o with sensors },
          l.batch now name (if s.isWatched o.watched then [s] else []))

end Loopback

end SensorGateway.Adapter
