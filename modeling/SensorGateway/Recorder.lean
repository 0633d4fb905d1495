/-
# SensorGateway.Recorder -- the recording

While a recording runs, every update becomes a record in a buffer. Records are in
order of time: an update older than the last record gets that record's time. A full
buffer drops its oldest record. The buffer stays when the recording stops; only a new
recording and clearing empty it.

The recorder also keeps its own interest in topics, so that their sensors are
observed until the recording stops, whatever the sessions do.
-/
import SensorGateway.Bus.Session
import SensorGateway.Config
import SensorGateway.Export.Csv
import SensorGateway.Export.Document
import SensorGateway.Export.Filter

namespace SensorGateway

/-- The state of the recording. -/
structure Recorder where
  /-- How many records the buffer has room for; zero means any number. -/
  maxRecords : UInt64
  isRecording : Bool
  /-- The buffer, oldest first. -/
  records : List Record
  /-- The estimated size of the buffer. -/
  sizeBytes : UInt64
  /-- How many records the full buffer has dropped. -/
  dropped : UInt64
  /-- The time of the last record. -/
  lastTime : Option Instant
  /-- The topics that are being recorded. -/
  tracked : SortedMap Topic Interest
  startedAt : Option Instant
  stoppedAt : Option Instant
deriving DecidableEq, Repr

namespace Recorder

/-- An idle recorder. -/
def new (c : Config.Recording) : Recorder :=
  ⟨c.maxRecords, false, [], 0, 0, none, .empty, none, none⟩

/-! ## Starting and stopping -/

/-- Empties the buffer. -/
def clear (r : Recorder) : Recorder :=
  { r with records := [], sizeBytes := 0, dropped := 0, lastTime := none }

/-- Begins a recording of some topics, unless one is running. -/
def start? (r : Recorder) (now : Instant) (topics : SortedMap Topic Interest) :
    Option Recorder :=
  if r.isRecording then none
  else some { r.clear with
    isRecording := true, startedAt := some now, stoppedAt := none, tracked := topics }

/-- Ends a recording, if one is running. The result has the topics that it kept. -/
def stop? (r : Recorder) (now : Instant) : Option (Recorder × SortedMap Topic Interest) :=
  if r.isRecording then
    some ({ r with isRecording := false, stoppedAt := some now, tracked := .empty }, r.tracked)
  else none

/-! ## Topics -/

/-- The sensors that are recorded on a topic, if it is recorded. -/
def sensorsOn? (r : Recorder) (t : Topic) : Option KeySet := (r.tracked.get? t).map (·.sensors)

/-- Whether a topic is recorded. -/
def isTracking (r : Recorder) (t : Topic) : Bool := r.tracked.contains t

/-- Records more sensors of a topic while a recording runs. A topic that is recorded already
keeps its family. The result says whether a sensor was new. -/
def track (r : Recorder) (t : Topic) (p : Protocol) (keys : KeySet) : Recorder × Bool :=
  if !r.isRecording || keys.isEmpty then (r, false)
  else
    let before := (r.tracked.get? t).getD ⟨p, .empty⟩
    let sensors := before.sensors.union keys
    ({ r with tracked := r.tracked.insert t ⟨before.protocol, sensors⟩ },
      before.sensors.size < sensors.size)

/-! ## Records -/

/-- The sum of two sizes, as far as it fits. -/
def addSize (a b : UInt64) : UInt64 := Word.saturate (a.toNat + b.toNat)

/-- The difference of two sizes, at least zero. -/
def subSize (a b : UInt64) : UInt64 := Word.saturate (a.toNat - b.toNat)

/-- The time under which an update is recorded. -/
def stamp (last : Option Instant) (t : Instant) : Instant :=
  match last with
  | some l => l.later t
  | none => t

/-- Drops the oldest record of a buffer that is too long. -/
def trim (r : Recorder) : Recorder :=
  if r.maxRecords ≠ 0 ∧ r.maxRecords.toNat < r.records.length then
    match r.records with
    | oldest :: rest =>
      { r with
        records := rest
        sizeBytes := subSize r.sizeBytes oldest.size
        dropped := addSize r.dropped 1 }
    | [] => r
  else r

/-- Puts one update into the buffer. -/
def append (r : Recorder) (u : Update) : Recorder :=
  let time := stamp r.lastTime u.time
  let row := Record.ofUpdate u time
  trim { r with
    lastTime := some time
    records := r.records ++ [row]
    sizeBytes := addSize r.sizeBytes row.size }

/-- Records a batch while a recording runs. The result has the number of new records. -/
def recordBatch (r : Recorder) (b : Batch) : Recorder × Nat :=
  if r.isRecording then (b.updates.foldl append r, b.updates.length) else (r, 0)

/-! ## Reports -/

/-- The state of the recording as it is reported. -/
def status (r : Recorder) : RecordingStatus :=
  ⟨r.isRecording, UInt64.ofNat r.records.length, r.sizeBytes, r.dropped, r.maxRecords,
    r.startedAt, r.stoppedAt⟩

/-- The records that pass a filter, oldest first. -/
def select (r : Recorder) (f : Export.Filter) : List Record := r.records.filter f.matches

/-- The records that pass a filter, as a document. -/
def document (r : Recorder) (now : Instant) (f : Export.Filter) : Export.Document :=
  .ofRecords now (r.select f)

/-- The records that pass a filter, as comma-separated values. -/
def csv (r : Recorder) (f : Export.Filter) : String := Export.Csv.encode (r.select f)

end Recorder

end SensorGateway
