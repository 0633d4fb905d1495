/-
# SensorGateway.Status -- what the gateway reports about itself

The recording's status, the control status that every session gets, the control view
of one caller, and the state of an automation server. None of them ever carries a
control token.
-/
import SensorGateway.Update

namespace SensorGateway

/-- The state of the recording. -/
structure RecordingStatus where
  /-- Whether updates are being captured. -/
  isRecording : Bool
  /-- The number of records in the buffer. -/
  count : UInt64
  /-- The estimated size of the buffer. -/
  sizeBytes : UInt64
  /-- How many records the full buffer has discarded. -/
  dropped : UInt64
  /-- The capacity of the buffer; zero means no bound. -/
  maxRecords : UInt64
  startedAt : Option Instant
  stoppedAt : Option Instant
deriving DecidableEq, Repr

instance : Json.Wire RecordingStatus where
  encode s := .obj
    [("isRecording", .bool s.isRecording), ("recordCount", Json.Wire.encode s.count),
     ("sizeBytes", Json.Wire.encode s.sizeBytes), ("droppedCount", Json.Wire.encode s.dropped),
     ("maxRecords", Json.Wire.encode s.maxRecords), ("startedAt", Json.Wire.encode s.startedAt),
     ("stoppedAt", Json.Wire.encode s.stoppedAt)]
  decode r := do
    let fs ← Json.Fields.ofReading
      [.of Bool "isRecording", .of UInt64 "recordCount", .of UInt64 "sizeBytes",
       .of UInt64 "droppedCount", .of UInt64 "maxRecords", .of (Option Instant) "startedAt",
       .of (Option Instant) "stoppedAt"] r
    return ⟨← fs.get "isRecording", ← fs.get "recordCount", ← fs.get "sizeBytes",
      ← fs.get "droppedCount", ← fs.get "maxRecords", ← fs.getD "startedAt" none,
      ← fs.getD "stoppedAt" none⟩

/-- Control as every session sees it. -/
structure ControlStatus where
  /-- Whether somebody holds control. -/
  hasController : Bool
  /-- The idle timeout in seconds, zero when there is none. -/
  timeoutSec : UInt64
  /-- Grows with every change, so that old news can be told from new. -/
  revision : UInt64
deriving DecidableEq, Repr

instance : Json.Wire ControlStatus where
  encode s := .obj
    [("hasController", .bool s.hasController), ("timeoutSec", Json.Wire.encode s.timeoutSec),
     ("revision", Json.Wire.encode s.revision)]
  decode r := do
    let fs ← Json.Fields.ofReading
      [.of Bool "hasController", .of UInt64 "timeoutSec", .of UInt64 "revision"] r
    return ⟨← fs.get "hasController", ← fs.get "timeoutSec", ← fs.get "revision"⟩

/-- Control as one caller sees it. -/
structure ControlView where
  /-- Whether the caller's token holds control. -/
  isController : Bool
  /-- Whether somebody holds control. -/
  hasController : Bool
  /-- The idle timeout in seconds, zero when there is none. -/
  timeoutSec : UInt64
deriving DecidableEq, Repr

instance : Json.Wire ControlView where
  encode s := .obj
    [("isController", .bool s.isController), ("hasController", .bool s.hasController),
     ("timeoutSec", Json.Wire.encode s.timeoutSec)]
  decode r := do
    let fs ← Json.Fields.ofReading
      [.of Bool "isController", .of Bool "hasController", .of UInt64 "timeoutSec"] r
    return ⟨← fs.get "isController", ← fs.get "hasController", ← fs.get "timeoutSec"⟩

/-- An automation server. -/
structure Server where
  id : ServerId
  url : String
  name : String
  /-- Whether the last health check succeeded. -/
  connected : Bool
  /-- What the last failed health check reported. -/
  lastError : Option String
deriving DecidableEq, Repr

instance : Json.Wire Server where
  encode s := .obj
    ([("id", .str s.id), ("url", .str s.url), ("name", .str s.name),
      ("connected", .bool s.connected)] ++
      match s.lastError with
      | some e => [("lastError", .str e)]
      | none => [])
  decode r := do
    let fs ← Json.Fields.ofReading
      [.of String "id", .of String "url", .of String "name", .of Bool "connected",
       .of (Option String) "lastError"] r
    return ⟨← fs.get "id", ← fs.get "url", ← fs.get "name", ← fs.get "connected",
      ← fs.getD "lastError" none⟩

end SensorGateway
