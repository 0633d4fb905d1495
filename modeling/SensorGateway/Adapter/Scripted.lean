/-
# SensorGateway.Adapter.Scripted -- an automation server that follows a script

A script says, for the n-th call of each kind, how long the server takes, whether it
refuses, and what it tells meanwhile. Such an adapter shows how the gateway copes with
slow, failing and talkative servers.
-/
import SensorGateway.Adapter.Call
import SensorGateway.Update

namespace SensorGateway.Adapter

/-- The ways to refuse a call. -/
inductive Refusal where
  | unavailable
  | rejected
  | unknownObject
  | unknownSensor
deriving DecidableEq, Repr

/-- The error for a refused call on an object. -/
def Refusal.error (object : String) : Refusal → AdapterError
  | .unavailable => .unavailable "offline"
  | .rejected => .rejected "too many registers"
  | .unknownObject => .unknownObject object
  | .unknownSensor => .unknownSensor object (.id 0)

/-- How the server behaves. Calls of each kind are counted from one. -/
structure Script where
  /-- How long the n-th call of a kind takes, in milliseconds. -/
  delay : Call.Kind → Nat → Nat
  /-- Whether the n-th call of a kind is refused. -/
  refusal : Call.Kind → Nat → Option Refusal
  /-- The values to tell during the n-th call of a kind. -/
  tells : Call.Kind → Nat → List Batch := fun _ _ => []

/-- An adapter that follows a script. -/
structure Scripted where
  protocol : Protocol
  script : Script
  /-- How many calls of each kind there were. -/
  count : Call.Kind → Nat
  /-- The keys last accepted for each object. -/
  watched : SortedMap String KeySet

namespace Scripted

/-- An adapter that has not been called yet. -/
def new (p : Protocol) (script : Script) : Scripted := ⟨p, script, fun _ => 0, .empty⟩

/-- The adapter after one more call of a kind. -/
def counted (s : Scripted) (k : Call.Kind) : Scripted :=
  { s with count := fun k' => if k' = k then s.count k + 1 else s.count k' }

/-- What an accepted call changes. -/
def accept (s : Scripted) : Call → Scripted
  | .subscribe o keys => { s with watched := s.watched.insert o keys }
  | .unsubscribe o => { s with watched := s.watched.erase o }
  | _ => s

/-- Does what is asked, as far as the script goes. -/
def perform (s : Scripted) (c : Call) : Scripted × Except AdapterError Unit :=
  let s := s.counted c.kind
  match s.script.refusal c.kind (s.count c.kind) with
  | some r => (s, .error (r.error c.object))
  | none => (s.accept c, .ok ())

/-- What is told during the next call of a kind. -/
def toldNext (s : Scripted) (k : Call.Kind) : List Batch := s.script.tells k (s.count k + 1)

/-- How long the next call of a kind takes, in milliseconds. -/
def nextDelay (s : Scripted) (k : Call.Kind) : Nat := s.script.delay k (s.count k + 1)

end Scripted

end SensorGateway.Adapter
