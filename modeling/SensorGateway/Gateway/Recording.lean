/-
# SensorGateway.Gateway.Recording -- starting and stopping recordings

A recording begins with the topics that sessions ask for and, as a baseline, with all
their values. It keeps their sensors observed until it stops. Every change is told to
all sessions.
-/
import SensorGateway.Gateway.Interest

namespace SensorGateway.Gateway

/-- Tells all sessions how the recording stands. -/
def announceRecording (g : Gateway) : Gateway × RecordingStatus :=
  let s := g.recorder.status
  ((g.broadcast (.recording s)).1, s)

/-- The topics that sessions ask for, with their sensors. -/
def activeInterests (g : Gateway) : SortedMap Topic Interest :=
  g.bus.activeTopics.mapValues fun t p => ⟨p, g.bus.sensorsOn t⟩

/-- Asks the adapters of some topics for all values, in order. Refusals do not matter. -/
def captureBaseline (g : Gateway) (topics : List (Topic × Interest)) : Gateway :=
  topics.foldl (fun g e => (g.request e.1 e.2.protocol (.forceEmit e.1.object)).1) g

/-- Starts a recording, unless one is running. -/
def startRecording (g : Gateway) : Gateway × RecordingStatus :=
  match g.recorder.start? g.clock.wall g.activeInterests with
  | none => (g, g.recorder.status)
  | some recorder =>
    ({ g with recorder }.captureBaseline recorder.tracked.toList).announceRecording

/-- Stops the recording, if one is running. The buffer stays. -/
def stopRecording (g : Gateway) : Gateway × RecordingStatus :=
  match g.recorder.stop? g.clock.wall with
  | none => (g, g.recorder.status)
  | some (recorder, tracked) =>
    let topics := tracked.toList.map fun e => (e.1, e.2.protocol)
    ({ g with recorder }.releaseTopics topics).announceRecording

/-- Empties the buffer. -/
def clearRecording (g : Gateway) : Gateway × RecordingStatus :=
  { g with recorder := g.recorder.clear }.announceRecording

end SensorGateway.Gateway
