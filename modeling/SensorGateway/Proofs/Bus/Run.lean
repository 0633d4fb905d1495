/-
# SensorGateway.Proofs.Bus.Run -- runs of a bus

A run is a list of operations on a new bus, one after the other: sessions are registered,
ask, and are closed, batches and other events are handed out, browsers read and go away.
While the bus waits for full channels browsers may read, too (`Bus.relieve`); with nobody
reading that is the delivery of `Bus.publish` and `Bus.broadcast`.

`Traffic` follows a run and notes what leaves each channel, be it read or lost. So
`Traffic.mail` is everything that was ever put into a channel, in its order: what has left
it, and what still waits in it. A `BusRun` carries the proof that every session gets an
identifier that was never used.
-/
import SensorGateway.Proofs.Bus.Interest

namespace SensorGateway

/-! ## Reading while the bus waits -/

/-- Whether the browser still reads, but there is no room for one more event. -/
def Channel.isFull (capacity : Nat) (c : Channel) : Bool :=
  c.isOpen && decide (capacity ≤ c.waiting.length)

/-- How many events the browsers take out of their channels while those are waited for. -/
abbrev Pulls := SessionId → Nat

namespace Session

/-- Whether the bus has to wait for the session's channel. -/
def isAwaited (capacity : Nat) (e : Option Event) (s : Session) : Bool :=
  e.isSome && s.channel.isFull capacity

/-- What a browser reads while its channel is waited for. -/
def pulled (capacity count : Nat) (e : Option Event) (s : Session) : List Event :=
  if s.isAwaited capacity e then (s.channel.read count).1 else []

/-- A session whose browser has read while its channel was waited for. -/
def relieved (capacity count : Nat) (e : Option Event) (s : Session) : Session :=
  if s.isAwaited capacity e then { s with channel := (s.channel.read count).2 } else s

@[simp] theorem entry_relieved (capacity count : Nat) (e : Option Event) (s : Session) :
    (s.relieved capacity count e).entry = s.entry := by
  unfold relieved
  split <;> rfl

@[simp] theorem id_relieved (capacity count : Nat) (e : Option Event) (s : Session) :
    (s.relieved capacity count e).id = s.id :=
  congrArg Prod.fst (entry_relieved capacity count e s)

theorem relieved_zero (capacity : Nat) (e : Option Event) (s : Session) :
    s.relieved capacity 0 e = s := by
  unfold relieved
  split <;> rfl

end Session

namespace Bus

/-- The bus waits for the full channels of those for whom there is news, and some browsers
read. -/
def relieve (b : Bus) (pulls : Pulls) (news : Session → Option Event) : Bus :=
  { b with sessions := b.sessions.map fun s => s.relieved b.capacity (pulls s.id) (news s) }

/-- Hands a batch out while browsers read. -/
def publishWhile (b : Bus) (pulls : Pulls) (batch : Batch) : Bus × Report :=
  (b.relieve pulls (·.share batch)).publish batch

/-- Tells all sessions while browsers read. -/
def broadcastWhile (b : Bus) (pulls : Pulls) (e : Event) : Bus × Report :=
  (b.relieve pulls fun _ => some e).broadcast e

theorem relieve_nobody (b : Bus) (news : Session → Option Event) :
    b.relieve (fun _ => 0) news = b := by
  have hsame : b.sessions.map (fun s => s.relieved b.capacity 0 (news s)) = b.sessions := by
    rw [List.map_congr_left fun s _ => Session.relieved_zero b.capacity (news s) s, List.map_id']
  show { b with sessions := b.sessions.map fun s => s.relieved b.capacity 0 (news s) } = b
  rw [hsame]

/-- Where nobody reads meanwhile, a batch is handed out as ever. -/
theorem publishWhile_nobody (b : Bus) (batch : Batch) :
    b.publishWhile (fun _ => 0) batch = b.publish batch := by
  rw [publishWhile, relieve_nobody]

/-- Where nobody reads meanwhile, all sessions are told as ever. -/
theorem broadcastWhile_nobody (b : Bus) (e : Event) :
    b.broadcastWhile (fun _ => 0) e = b.broadcast e := by
  rw [broadcastWhile, relieve_nobody]

theorem thins_relieve (b : Bus) (pulls : Pulls) (news : Session → Option Event) :
    Thins b (b.relieve pulls news) := by
  refine .of_same ?_ rfl
  show (b.sessions.map _).map Session.entry = b.sessions.map Session.entry
  rw [List.map_map]
  exact List.map_congr_left fun s _ => Session.entry_relieved _ _ _ s

theorem thins_publishWhile (b : Bus) (pulls : Pulls) (batch : Batch) :
    Thins b (b.publishWhile pulls batch).1 :=
  (thins_relieve b pulls _).trans (thins_deliver _ _)

theorem thins_broadcastWhile (b : Bus) (pulls : Pulls) (e : Event) :
    Thins b (b.broadcastWhile pulls e).1 :=
  (thins_relieve b pulls _).trans (thins_deliver _ _)

end Bus

/-! ## Where a session is -/

/-- Where a session is to be found. -/
inductive Place where
  | nowhere
  | registered (s : Session)
  | departed (s : Session)

/-- Where a session is that was looked for among the registered ones and among those that are
gone. -/
def Place.of : Option Session → Option Session → Place
  | some s, _ => .registered s
  | none, some s => .departed s
  | none, none => .nowhere

/-- The events that wait for the browser of a session, wherever the session is. -/
def Place.waiting : Place → List Event
  | .nowhere => []
  | .registered s => s.channel.waiting
  | .departed s => s.channel.waiting

namespace Bus

/-- The session with an identifier that is gone. -/
def gone? (b : Bus) (id : SessionId) : Option Session := b.departed.find? (·.id = id)

/-- Where the session with an identifier is. -/
def place (b : Bus) (id : SessionId) : Place := .of (b.find? id) (b.gone? id)

end Bus

/-! ## Operations -/

/-- What can happen to a bus. -/
inductive BusOp where
  | register (id : SessionId)
  | subscribe (id : SessionId) (t : Topic) (p : Protocol) (keys : KeySet)
  | unsubscribe (id : SessionId) (t : Topic)
  | restore (id : SessionId) (t : Topic) (previous : Option Interest)
  | close (id : SessionId)
  | publish (b : Batch) (pulls : Pulls)
  | broadcast (e : Event) (pulls : Pulls)
  | receive (id : SessionId) (max : Nat)
  | hangUp (id : SessionId)

namespace BusOp

/-- The bus after an operation that may be refused. -/
def unlessRefused (b : Bus) : Except BusError Bus → Bus
  | .ok b' => b'
  | .error _ => b

/-- What an operation makes of a bus. -/
def act (b : Bus) : BusOp → Bus
  | .register id => b.register id
  | .subscribe id t p keys => unlessRefused b ((b.subscribe id t p keys).map (·.1))
  | .unsubscribe id t => unlessRefused b (b.unsubscribe id t)
  | .restore id t previous => unlessRefused b (b.restore id t previous)
  | .close id => (b.close id).1
  | .publish batch pulls => (b.publishWhile pulls batch).1
  | .broadcast e pulls => (b.broadcastWhile pulls e).1
  | .receive id max => (b.receive id max).1
  | .hangUp id => (b.hangUp id).1

/-- What leaves the channel of a session by an operation: what its browser reads, and what it has
not read when it goes away. -/
def takes (b : Bus) (id : SessionId) : BusOp → List Event
  | .publish batch pulls =>
    match b.place id with
    | .registered s => s.pulled b.capacity (pulls id) (s.share batch)
    | _ => []
  | .broadcast e pulls =>
    match b.place id with
    | .registered s => s.pulled b.capacity (pulls id) (some e)
    | _ => []
  | .receive id' max =>
    match (b.receive id' max).2 with
    | some r => if id' = id then r.events else []
    | none => []
  | .hangUp id' => if id' = id then (b.place id).waiting else []
  | _ => []

/-- A new session has a new identifier. -/
def IsPossible (b : Bus) : BusOp → Prop
  | .register id => id ∉ b.ids
  | _ => True

instance (b : Bus) (op : BusOp) : Decidable (op.IsPossible b) := by
  cases op <;> unfold IsPossible <;> infer_instance

end BusOp

/-! ## Runs -/

/-- A bus in use. -/
structure Traffic where
  bus : Bus
  /-- What has left the channel of each session, oldest first. -/
  taken : SessionId → List Event

namespace Traffic

/-- A bus that nobody has used yet. -/
def start (b : Bus) : Traffic := ⟨b, fun _ => []⟩

/-- Everything that was ever put into the channel of a session, oldest first. -/
def mail (w : Traffic) (id : SessionId) : List Event := w.taken id ++ (w.bus.place id).waiting

/-- One operation. -/
def step (w : Traffic) (op : BusOp) : Traffic :=
  ⟨op.act w.bus, fun id => w.taken id ++ op.takes w.bus id⟩

/-- Operations one after the other. -/
def after (w : Traffic) (ops : List BusOp) : Traffic := ops.foldl step w

/-- Every operation can happen where it does. -/
def IsPossible (w : Traffic) : List BusOp → Prop
  | [] => True
  | op :: ops => op.IsPossible w.bus ∧ (w.step op).IsPossible ops

instance decidableIsPossible (w : Traffic) : (ops : List BusOp) → Decidable (w.IsPossible ops)
  | [] => isTrue trivial
  | op :: ops =>
    have := decidableIsPossible (w.step op) ops
    inferInstanceAs (Decidable (op.IsPossible w.bus ∧ (w.step op).IsPossible ops))

end Traffic

/-- A run of a new bus. -/
structure BusRun where
  config : Config.Sessions
  ops : List BusOp
  possible : (Traffic.start (.new config)).IsPossible ops

namespace BusRun

/-- Where a run ends. -/
def traffic (r : BusRun) : Traffic := (Traffic.start (.new r.config)).after r.ops

/-- The bus at the end of a run. -/
def bus (r : BusRun) : Bus := r.traffic.bus

/-- Everything that was ever put into the channel of a session in a run. -/
def mail (r : BusRun) (id : SessionId) : List Event := r.traffic.mail id

/-- How many events a channel has room for. -/
def capacity (r : BusRun) : Nat := (Bus.new r.config).capacity

end BusRun

end SensorGateway
