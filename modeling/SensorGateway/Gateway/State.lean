/-
# SensorGateway.Gateway.State -- everything a gateway knows

The gateway holds the bus, the control arbiter, the recorder, the registry of servers
and the adapters. Adapters have numbers; a route says which adapter serves a protocol
family of a server. Values that an adapter tells are recorded first and then handed
out. Time passes only where somebody waits: for a slow server or for full
channels.
-/
import SensorGateway.Adapter
import SensorGateway.Arbiter
import SensorGateway.Bus
import SensorGateway.Recorder
import SensorGateway.Registry

namespace SensorGateway

/-- Why the gateway refuses. -/
inductive GatewayError where
  /-- The bus does not know the session. -/
  | bus (e : BusError)
  /-- The caller may not write. -/
  | control (e : ControlError)
  /-- The adapter refused. -/
  | adapter (e : AdapterError)
  /-- Nobody serves this family of this server. -/
  | noAdapter (server : ServerId) (p : Protocol)
deriving DecidableEq, Repr

/-- What a caller is told. -/
def GatewayError.message : GatewayError → String
  | .bus e => e.message
  | .control e => e.message
  | .adapter e => e.message
  | .noAdapter server p => "no " ++ p.name ++ " adapter for server " ++ server

/-! ## Routes and time -/

/-- A protocol family of an automation server. -/
structure Route where
  server : ServerId
  protocol : Protocol
deriving DecidableEq, Repr

namespace Route

/-- By server, then by family. -/
def order : Route → Route → Ordering :=
  compareLex (compareOn Route.server) (compareOn Route.protocol)

instance : Ord Route := ⟨order⟩

instance : Std.TransOrd Route :=
  inferInstanceAs (Std.TransCmp (compareLex (compareOn Route.server) (compareOn Route.protocol)))

instance : Std.LawfulEqOrd Route where
  eq_of_compare {a b} h := by
    have h : compareLex (compareOn Route.server) (compareOn Route.protocol) a b = .eq := h
    rw [compareLex, Ordering.then_eq_eq] at h
    obtain ⟨h₁, h₂⟩ := h
    have h₁ : a.server = b.server := Std.LawfulEqOrd.eq_of_compare h₁
    have h₂ : a.protocol = b.protocol := Std.LawfulEqOrd.eq_of_compare h₂
    cases a; cases b; simp_all

end Route

/-- The two clocks of a gateway. -/
structure Clock where
  /-- The time of day; it stamps values and reports. -/
  wall : Instant
  /-- Milliseconds since the start; never goes back. -/
  elapsed : Nat
deriving DecidableEq, Repr

/-! ## The gateway -/

/-- A call of an adapter, and what came of it. -/
structure Exchange where
  /-- The number of the adapter. -/
  adapter : Nat
  call : Adapter.Call
  result : Except AdapterError Unit

/-- Everything a gateway knows. -/
structure Gateway where
  bus : Bus
  arbiter : Arbiter
  recorder : Recorder
  registry : Registry
  /-- The adapters by their numbers. -/
  adapters : List Adapter
  /-- The number of the adapter that serves a route. -/
  routes : SortedMap Route Nat
  /-- All calls of adapters so far, oldest first. -/
  calls : List Exchange
  clock : Clock

namespace Gateway

/-- A gateway without adapters. -/
def new (c : Config) (clock : Clock) : Gateway :=
  { bus := .new c.sessions
    arbiter := .new c.control
    recorder := .new c.recording
    registry := .new c.servers
    adapters := []
    routes := .empty
    calls := []
    clock }

/-- Lets time pass. -/
def wait (g : Gateway) (ms : Nat) : Gateway :=
  { g with clock := { g.clock with elapsed := g.clock.elapsed + ms } }

/-! ## Adapters -/

/-- Adds an adapter that serves nothing yet. The result has its number. -/
def addAdapter (g : Gateway) (a : Adapter) : Gateway × Nat :=
  ({ g with adapters := g.adapters ++ [a] }, g.adapters.length)

/-- Lets an adapter serve its family of a server, instead of whoever did before. -/
def register (g : Gateway) (server : ServerId) (number : Nat) : Gateway :=
  match g.adapters[number]? with
  | some a => { g with routes := g.routes.insert ⟨server, a.protocol⟩ number }
  | none => g

/-- The families of a server's objects in memory. -/
def loopbackFamilies (s : Config.Server) : List Protocol :=
  (SortedSet.ofList (s.loopback.map (·.protocol))).toList

/-- Adds the adapters for the objects in memory of one server, which then counts as connected.
The result has their number. -/
def registerServer (g : Gateway) (s : Config.Server) : Gateway × Nat :=
  match loopbackFamilies s with
  | [] => (g, 0)
  | families =>
    let g := families.foldl (fun g p =>
      let (g, n) := g.addAdapter (.loopback (.ofConfig s.serverId p s.loopback))
      g.register s.serverId n) g
    ({ g with registry := (g.registry.setConnected s.serverId true none).1 }, families.length)

/-- Adds the adapters for all objects in memory. The result has their number. -/
def registerLoopback (g : Gateway) : List Config.Server → Gateway × Nat
  | [] => (g, 0)
  | s :: rest =>
    let (g, n) := g.registerServer s
    let (g, m) := g.registerLoopback rest
    (g, n + m)

/-- The number of the adapter for a topic and a family. -/
def adapterFor (g : Gateway) (t : Topic) (p : Protocol) : Except GatewayError Nat :=
  match g.routes.get? ⟨t.server, p⟩ with
  | some n => .ok n
  | none => .error (.noAdapter t.server p)

/-! ## Telling sessions -/

/-- Hands a batch out after it was recorded. -/
def publish (g : Gateway) (b : Batch) : Gateway × Report :=
  let recorder := (g.recorder.recordBatch b).1
  let (bus, report) := g.bus.publish b
  ({ g with recorder, bus }.wait report.waited, report)

/-- Hands on what an adapter tells. An empty batch tells nothing. -/
def publishFrom (g : Gateway) (b : Batch) : Gateway × Report :=
  if b.isEmpty then (g, .nobody) else g.publish b

/-- Tells all sessions. -/
def broadcast (g : Gateway) (e : Event) : Gateway × Report :=
  let (bus, report) := g.bus.broadcast e
  ({ g with bus }.wait report.waited, report)

/-- Tells one session. A session that cannot be told is evicted and then unknown. -/
def sendTo (g : Gateway) (id : SessionId) (e : Event) : Gateway × Except GatewayError Unit :=
  if g.bus.isRegistered id then
    let (bus, report) := g.bus.sendTo id e
    ({ g with bus }.wait report.waited,
      if report.evicted = [] then .ok () else .error (.bus (.unknownSession id)))
  else (g, .error (.bus (.unknownSession id)))

/-! ## Calls -/

/-- Asks an adapter, and hands on what it tells. -/
def call (g : Gateway) (number : Nat) (c : Adapter.Call) : Gateway × Except AdapterError Unit :=
  match g.adapters[number]? with
  | none => (g, .error (.unavailable "no such adapter"))
  | some a =>
    let answer := a.ask g.clock.wall c
    let g := { g with
      adapters := g.adapters.set number answer.adapter
      calls := g.calls ++ [Exchange.mk number c answer.result] }.wait answer.delay
    (answer.batches.foldl (fun g b => (g.publishFrom b).1) g, answer.result)

/-- Asks the adapter for a topic and a family. -/
def request (g : Gateway) (t : Topic) (p : Protocol) (c : Adapter.Call) :
    Gateway × Except GatewayError Unit :=
  match g.adapterFor t p with
  | .error e => (g, .error e)
  | .ok n =>
    match g.call n c with
    | (g, .ok ()) => (g, .ok ())
    | (g, .error e) => (g, .error (.adapter e))

end Gateway

end SensorGateway
