/-
# SensorGateway.Export.Document -- recordings as one JSON document

The document says when it was made, how many records it has, and lists them.
-/
import SensorGateway.Record

namespace SensorGateway.Export

/-- The JSON export. -/
structure Document where
  exportedAt : Instant
  count : UInt64
  records : List Record
deriving DecidableEq, Repr

namespace Document

/-- The export of a list of records, made at the given time. -/
def ofRecords (now : Instant) (records : List Record) : Document :=
  ⟨now, UInt64.ofNat records.length, records⟩

instance : Json.Wire Document where
  encode d := .obj
    [("exportedAt", Json.Wire.encode d.exportedAt), ("count", Json.Wire.encode d.count),
     ("records", Json.Wire.encode d.records)]
  decode r := do
    let fs ← Json.Fields.ofReading
      [.of Instant "exportedAt", .of UInt64 "count", .of (List Record) "records"] r
    return ⟨← fs.get "exportedAt", ← fs.get "count", ← fs.get "records"⟩

end Document

end SensorGateway.Export
