/-
# SensorGateway.Record -- rows of a recording

A record keeps an update's place, name and value under the time at which it was
recorded. Its size is an estimate of the memory that it takes, for status reports.
-/
import SensorGateway.Update

namespace SensorGateway

/-- One row of a recording. -/
structure Record where
  /-- Never earlier than the row before. -/
  time : Instant
  server : ServerId
  object : String
  /-- The sensor's name, or its number when it has none. -/
  variableName : String
  value : SensorValue
deriving DecidableEq, Repr

namespace Record

/-- The record of an update under the given time. -/
def ofUpdate (u : Update) (time : Instant) : Record :=
  ⟨time, u.server, u.object, u.variableName, u.value⟩

/-- The bytes that every record takes, apart from its texts. -/
def baseSize : Nat := 96

/-- The estimated memory of a record in bytes. -/
def size (r : Record) : UInt64 :=
  Word.saturate (baseSize + r.server.utf8ByteSize + r.object.utf8ByteSize +
    r.variableName.utf8ByteSize + r.value.textSize)

instance : Json.Wire Record where
  encode r := .obj
    [("timestamp", Json.Wire.encode r.time), ("server_id", .str r.server),
     ("object_name", .str r.object), ("variable_name", .str r.variableName),
     ("value", Json.Wire.encode r.value)]
  decode r := do
    let fs ← Json.Fields.ofReading
      [.of Instant "timestamp", .of String "server_id", .of String "object_name",
       .of String "variable_name", .of SensorValue "value"] r
    return ⟨← fs.get "timestamp", ← fs.get "server_id", ← fs.get "object_name",
      ← fs.get "variable_name", ← fs.get "value"⟩

end Record

end SensorGateway
