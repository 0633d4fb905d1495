/-
# SensorGateway.Adapter -- adapters of all sorts

An adapter is asked by a call and answers with the state it is in then, the result,
the values to tell and the time it took.
-/
import SensorGateway.Adapter.Loopback
import SensorGateway.Adapter.Scripted

namespace SensorGateway

/-- An adapter. -/
inductive Adapter where
  /-- One for objects in memory. -/
  | loopback (l : Adapter.Loopback)
  /-- One that follows a script. -/
  | scripted (s : Adapter.Scripted)

namespace Adapter

/-- The family that an adapter serves. -/
def protocol : Adapter → Protocol
  | .loopback l => l.protocol
  | .scripted s => s.protocol

/-- The keys that an adapter watches on an object. -/
def watched (a : Adapter) (object : String) : KeySet :=
  match a with
  | .loopback l => l.watched object
  | .scripted s => (s.watched.get? object).getD .empty

/-- What comes of a call. -/
structure Answer where
  adapter : Adapter
  result : Except AdapterError Unit
  /-- The values to tell, oldest first. -/
  batches : List Batch
  /-- How long the call took, in milliseconds. -/
  delay : Nat

/-- Asks an adapter. -/
def ask (a : Adapter) (now : Instant) (c : Call) : Answer :=
  match a with
  | .loopback l =>
    match l.perform now c with
    | .ok (l, b) => ⟨.loopback l, .ok (), [b], 0⟩
    | .error e => ⟨.loopback l, .error e, [], 0⟩
  | .scripted s =>
    ⟨.scripted (s.perform c).1, (s.perform c).2, s.toldNext c.kind, s.nextDelay c.kind⟩

end Adapter

end SensorGateway
