/-
# SensorGateway.Update -- observed changes and their batches

An update is one observed change of one sensor; a batch is a list of updates of one
topic. `Batch.splitByTopic` sorts a mixed list of updates into one batch per topic,
in topic order, keeping the order of the updates inside each.
-/
import SensorGateway.Instant.Reading
import SensorGateway.Protocol
import SensorGateway.Sensor.Key
import SensorGateway.Sensor.Value
import SensorGateway.Sorted.Map
import SensorGateway.Topic

namespace SensorGateway

instance : Json.Wire Instant where
  encode t := .str t.text
  decode r := do
    match Instant.ofText? (← Json.Wire.decode r) with
    | some t => return t
    | none => .error .mismatched

/-- One observed change of one sensor. -/
structure Update where
  server : ServerId
  object : String
  /-- The sensor's number, zero when only names are known. -/
  number : Int64
  /-- The sensor's name, empty when it is not known. -/
  name : String
  value : SensorValue
  /-- When the value was observed. -/
  time : Instant
deriving DecidableEq, Repr

namespace Update

/-- The topic that the update is routed on. -/
def topic (u : Update) : Topic := ⟨u.server, u.object⟩

/-- The name of the sensor in recordings: its number where it has no name. -/
def variableName (u : Update) : String :=
  if u.name = "" then toString u.number.toInt else u.name

/-- Whether some key of the set addresses the sensor. -/
def matchedBy (u : Update) (ks : KeySet) : Bool := ks.addresses u.number u.name

instance : Json.Wire Update where
  encode u := .obj
    [("serverId", .str u.server), ("objectName", .str u.object),
     ("sensorId", Json.Wire.encode u.number), ("name", .str u.name),
     ("value", Json.Wire.encode u.value), ("timestamp", Json.Wire.encode u.time)]
  decode r := do
    let fs ← Json.Fields.ofReading
      [.of String "serverId", .of String "objectName", .of Int64 "sensorId", .of String "name",
       .of SensorValue "value", .of Instant "timestamp"] r
    return ⟨← fs.get "serverId", ← fs.get "objectName", ← fs.get "sensorId", ← fs.get "name",
      ← fs.get "value", ← fs.get "timestamp"⟩

end Update

/-- Updates of one topic in the order of observation. -/
structure Batch where
  /-- The family of the producing adapter; it names the event. -/
  protocol : Protocol
  server : ServerId
  object : String
  updates : List Update
deriving DecidableEq, Repr

namespace Batch

/-- A batch for a topic. -/
def ofTopic (p : Protocol) (t : Topic) (updates : List Update) : Batch :=
  ⟨p, t.server, t.object, updates⟩

/-- The topic that the batch is routed on. -/
def topic (b : Batch) : Topic := ⟨b.server, b.object⟩

/-- Whether the batch has no update. -/
def isEmpty (b : Batch) : Bool := b.updates.isEmpty

/-- Appends an update to the list at its topic. -/
def addTo (groups : SortedMap Topic (List Update)) (u : Update) : SortedMap Topic (List Update) :=
  groups.insert u.topic ((groups.get? u.topic).getD [] ++ [u])

/-- One batch per topic of a mixed list, in topic order. -/
def splitByTopic (p : Protocol) (updates : List Update) : List Batch :=
  (updates.foldl addTo .empty).toList.map fun g => ofTopic p g.1 g.2

/-- The part of a batch that a set of keys asks for. -/
def scopedTo (b : Batch) (ks : KeySet) : Batch :=
  { b with updates := b.updates.filter (·.matchedBy ks) }

instance : Json.Wire Batch where
  encode b := .obj
    [("protocol", Json.Wire.encode b.protocol), ("serverId", .str b.server),
     ("objectName", .str b.object), ("updates", Json.Wire.encode b.updates)]
  decode r := do
    let fs ← Json.Fields.ofReading
      [.of Protocol "protocol", .of String "serverId", .of String "objectName",
       .of (List Update) "updates"] r
    return ⟨← fs.get "protocol", ← fs.get "serverId", ← fs.get "objectName", ← fs.get "updates"⟩

end Batch

end SensorGateway
