/-
# SensorGateway.Bus -- the sessions and what they are told

The bus knows the sessions in the order of their registration. A batch goes to the
sessions that ask for some of its sensors, each getting only its part; other events
go to all. Nobody waits for anybody: a session whose channel is full is given one
time span, together with all others that are full, and then evicted; one whose
browser went away is evicted at once. Sessions that were closed or evicted are no
longer told anything, but their browsers can still read what waits for them.
-/
import SensorGateway.Bus.Session
import SensorGateway.Config

namespace SensorGateway

/-- Why the bus refuses. -/
inductive BusError where
  /-- The session is closed, evicted, or never was. -/
  | unknownSession (id : SessionId)
deriving DecidableEq, Repr

/-- What a caller is told. -/
def BusError.message : BusError → String
  | .unknownSession id => "unknown session: " ++ id.text

/-- What became of an event that was handed out. -/
structure Report where
  /-- To how many sessions it went. -/
  delivered : Nat
  /-- The sessions that were evicted. -/
  evicted : List SessionId
  /-- How long full channels were waited for, in milliseconds. -/
  waited : Nat
deriving DecidableEq, Repr

/-- The report when there was nobody to tell. -/
def Report.nobody : Report := ⟨0, [], 0⟩

/-- The sessions and their channels. -/
structure Bus where
  /-- How many events a channel has room for; at least one. -/
  capacity : Nat
  /-- How long a full channel is waited for, in milliseconds. -/
  patience : Nat
  /-- The registered sessions, oldest first. -/
  sessions : List Session
  /-- The sessions that were closed or evicted. -/
  departed : List Session
deriving DecidableEq, Repr

namespace Bus

/-- A bus without sessions. -/
def new (c : Config.Sessions) : Bus :=
  ⟨max 1 c.channelCapacity.toNat, c.sendTimeoutMs.toNat, [], []⟩

/-! ## The table of sessions -/

/-- A registered session. -/
def find? (b : Bus) (id : SessionId) : Option Session := b.sessions.find? (·.id = id)

/-- Whether a session is registered. -/
def isRegistered (b : Bus) (id : SessionId) : Bool := (b.find? id).isSome

/-- Changes one session. -/
def modify (b : Bus) (id : SessionId) (f : Session → Session) : Bus :=
  { b with sessions := b.sessions.map fun s => if s.id = id then f s else s }

/-- Registers a session under a new identifier. -/
def register (b : Bus) (id : SessionId) : Bus :=
  { b with sessions := b.sessions.filter (·.id ≠ id) ++ [.new id] }

/-- Takes a session away. The result has the topics that it was subscribed to; there are none
for an unknown session. -/
def close (b : Bus) (id : SessionId) : Bus × List (Topic × Protocol) :=
  match b.find? id with
  | none => (b, [])
  | some s =>
    ({ b with
        sessions := b.sessions.filter (·.id ≠ id)
        departed := b.departed ++ [s] }, s.topics)

/-! ## Subscriptions -/

/-- What a session asks for on a topic. -/
def subscription? (b : Bus) (id : SessionId) (t : Topic) : Option Interest :=
  (b.find? id).bind fun s => s.subscriptions.get? t

/-- Gives a session the subscription that it had before, or none. -/
def restore (b : Bus) (id : SessionId) (t : Topic) (previous : Option Interest) :
    Except BusError Bus :=
  if b.isRegistered id then .ok (b.modify id (·.setSubscription t previous))
  else .error (.unknownSession id)

/-- Replaces a session's subscription. The result has the number of sensors that it asks for
now. Asking for none takes the subscription away. -/
def subscribe (b : Bus) (id : SessionId) (t : Topic) (p : Protocol) (keys : KeySet) :
    Except BusError (Bus × Nat) :=
  let i := if keys.isEmpty then none else some ⟨p, keys⟩
  (b.restore id t i).map fun b => (b, keys.size)

/-- Takes a session's subscription away, if it has one. -/
def unsubscribe (b : Bus) (id : SessionId) (t : Topic) : Except BusError Bus :=
  b.restore id t none

/-- All sensors that sessions ask for on a topic. -/
def sensorsOn (b : Bus) (t : Topic) : KeySet :=
  b.sessions.foldl (fun ks s => ks.union (s.sensorsOn t)) .empty

/-- Adds the topics of a session; a topic that is there already keeps its family. -/
def addTopics (topics : SortedMap Topic Protocol) (s : Session) : SortedMap Topic Protocol :=
  s.topics.foldl (fun m e => if m.contains e.1 then m else m.insert e.1 e.2) topics

/-- The topics that sessions ask for, each with the family that is met first. -/
def topicsOf (sessions : List Session) : SortedMap Topic Protocol :=
  sessions.foldl addTopics .empty

/-- The topics that some session asks for. -/
def activeTopics (b : Bus) : SortedMap Topic Protocol := topicsOf b.sessions

/-! ## Telling sessions -/

/-- Tells every session what `news` has for it. Sessions that cannot be told are evicted. -/
def deliver (b : Bus) (news : Session → Option Event) : Bus × Report :=
  let outcomes := b.sessions.map fun s => s.tell b.capacity (news s)
  let evicted := outcomes.filterMap Session.Outcome.evicted?
  ({ b with
      sessions := outcomes.filterMap Session.Outcome.kept?
      departed := b.departed ++ evicted },
   { delivered := outcomes.countP Session.Outcome.isDelivered
     evicted := evicted.map (·.id)
     waited := if outcomes.any Session.Outcome.isLate then b.patience else 0 })

/-- Hands a batch out, to each session its part. -/
def publish (b : Bus) (batch : Batch) : Bus × Report := b.deliver (·.share batch)

/-- Tells all sessions. -/
def broadcast (b : Bus) (e : Event) : Bus × Report := b.deliver fun _ => some e

/-- Tells one session. -/
def sendTo (b : Bus) (id : SessionId) (e : Event) : Bus × Report :=
  b.deliver fun s => if s.id = id then some e else none

/-! ## Browsers -/

/-- What a browser gets when it reads. -/
structure Receipt where
  events : List Event
  /-- Whether it met the end of the stream. -/
  ended : Bool
deriving DecidableEq, Repr

/-- Whether the browser of this session still reads. -/
def isListening (id : SessionId) (s : Session) : Bool := s.id = id && s.channel.isOpen

/-- Changes the channel of one session in a list. -/
def setChannel (id : SessionId) (c : Channel) (l : List Session) : List Session :=
  l.map fun s => if s.id = id then { s with channel := c } else s

/-- A browser reads at most `max` events. The stream ends behind the last event of a session
that is not registered any more. There is no result for a browser that went away. -/
def receive (b : Bus) (id : SessionId) (max : Nat) : Bus × Option Receipt :=
  match b.sessions.find? (isListening id) with
  | some s =>
    let (events, c) := s.channel.read max
    ({ b with sessions := setChannel id c b.sessions }, some ⟨events, false⟩)
  | none =>
    match b.departed.find? (isListening id) with
    | some s =>
      let (events, c) := s.channel.read max
      ({ b with departed := setChannel id c b.departed },
        some ⟨events, events.length < max⟩)
    | none => (b, none)

/-- A browser goes away. The result says whether it was there. -/
def hangUp (b : Bus) (id : SessionId) : Bus × Bool :=
  let hung := fun (l : List Session) =>
    l.map fun s => if s.id = id then { s with channel := s.channel.close } else s
  ({ b with sessions := hung b.sessions, departed := hung b.departed },
    b.sessions.any (isListening id) || b.departed.any (isListening id))

end Bus

end SensorGateway
