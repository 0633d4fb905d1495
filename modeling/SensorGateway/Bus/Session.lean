/-
# SensorGateway.Bus.Session -- one browser on the bus

A session is a browser with an open event stream. It holds a subscription per topic
and a channel, where events wait until the browser reads them. A channel has room for
a fixed number of events; a browser that went away has closed it.
-/
import SensorGateway.Event
import SensorGateway.Sorted.Map

namespace SensorGateway

/-- What a session, or the recorder, wants of a topic. -/
structure Interest where
  /-- The family of the object. -/
  protocol : Protocol
  /-- The sensors it asks for. -/
  sensors : KeySet
deriving DecidableEq, Repr

/-! ## Channels -/

/-- The events on their way to one browser. -/
structure Channel where
  /-- The events not read yet, oldest first. -/
  waiting : List Event
  /-- Whether the browser still reads. -/
  isOpen : Bool
deriving DecidableEq, Repr

/-- What becomes of an event that is put into a channel. -/
inductive Channel.Offer where
  /-- It waits behind the others. -/
  | accepted (c : Channel)
  /-- There is no room for it. -/
  | full
  /-- Nobody reads any more. -/
  | closed
deriving DecidableEq, Repr

namespace Channel

/-- A channel without events. -/
def new : Channel := ⟨[], true⟩

/-- Puts an event into a channel with room for `capacity` events. -/
def offer (capacity : Nat) (e : Event) (c : Channel) : Offer :=
  if !c.isOpen then .closed
  else if c.waiting.length < capacity then .accepted { c with waiting := c.waiting ++ [e] }
  else .full

/-- Takes at most `max` events out. -/
def read (max : Nat) (c : Channel) : List Event × Channel :=
  (c.waiting.take max, { c with waiting := c.waiting.drop max })

/-- The browser goes away; what it has not read is lost. -/
def close (_ : Channel) : Channel := ⟨[], false⟩

end Channel

/-! ## Sessions -/

/-- A browser with an open event stream. -/
structure Session where
  id : SessionId
  subscriptions : SortedMap Topic Interest
  channel : Channel
deriving DecidableEq, Repr

namespace Session

/-- A session as it begins. -/
def new (id : SessionId) : Session := ⟨id, .empty, .new⟩

/-- Gives a session a subscription, or takes it away. -/
def setSubscription (t : Topic) (i : Option Interest) (s : Session) : Session :=
  match i with
  | some i => { s with subscriptions := s.subscriptions.insert t i }
  | none => { s with subscriptions := s.subscriptions.erase t }

/-- The sensors that a session asks for on a topic. -/
def sensorsOn (t : Topic) (s : Session) : KeySet :=
  match s.subscriptions.get? t with
  | some i => i.sensors
  | none => .empty

/-- The topics of a session with their families, in topic order. -/
def topics (s : Session) : List (Topic × Protocol) :=
  s.subscriptions.toList.map fun e => (e.1, e.2.protocol)

/-- The part of a batch that a session asks for, as an event; nothing when that is empty. -/
def share (b : Batch) (s : Session) : Option Event :=
  let b := b.scopedTo (s.sensorsOn b.topic)
  if b.isEmpty then none else some (.batch b)

/-- What becomes of a session when it is told something. -/
inductive Outcome where
  /-- There was nothing to tell. -/
  | untold (s : Session)
  /-- The event waits in its channel. -/
  | delivered (s : Session)
  /-- The event could not be delivered; `late` says that the channel was full. -/
  | evicted (s : Session) (late : Bool)
deriving DecidableEq, Repr

/-- Tells a session something, if there is something to tell. -/
def tell (capacity : Nat) (e : Option Event) (s : Session) : Outcome :=
  match e with
  | none => .untold s
  | some e =>
    match s.channel.offer capacity e with
    | .accepted c => .delivered { s with channel := c }
    | .full => .evicted s true
    | .closed => .evicted s false

namespace Outcome

/-- The session, if it stays. -/
def kept? : Outcome → Option Session
  | .untold s => some s
  | .delivered s => some s
  | .evicted _ _ => none

/-- The session, if it has to go. -/
def evicted? : Outcome → Option Session
  | .evicted s _ => some s
  | _ => none

/-- Whether the event waits in the channel now. -/
def isDelivered : Outcome → Bool
  | .delivered _ => true
  | _ => false

/-- Whether the channel was full. -/
def isLate : Outcome → Bool
  | .evicted _ late => late
  | _ => false

end Outcome

end Session

end SensorGateway
