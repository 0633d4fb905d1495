/-
# SensorGateway.Gateway.Interest -- sessions come, ask, and go

What an adapter has to watch on a topic is the union of what sessions ask for and
what the recorder keeps. Every change of interest ends with pointing the adapter at
that union. A subscription that the adapter refuses is taken back.

Closing a session and releasing its topics are two steps: the second may happen at
any time after the first.
-/
import SensorGateway.Gateway.State

namespace SensorGateway.Gateway

/-! ## What adapters have to watch -/

/-- All sensors of a topic that somebody wants. -/
def wanted (g : Gateway) (t : Topic) : KeySet :=
  (g.bus.sensorsOn t).union ((g.recorder.sensorsOn? t).getD .empty)

/-- The call that points an adapter at what is wanted. There is none for a topic that is
recorded without any sensor. -/
def pointingCall (g : Gateway) (t : Topic) : Option Adapter.Call :=
  if !(g.wanted t).isEmpty then some (.subscribe t.object (g.wanted t))
  else if g.recorder.isTracking t then none
  else some (.unsubscribe t.object)

/-- Points the adapter at what is wanted on a topic. -/
def reconcile (g : Gateway) (t : Topic) (p : Protocol) : Gateway × Except GatewayError Unit :=
  match g.adapterFor t p, g.pointingCall t with
  | .error e, _ => (g, .error e)
  | .ok _, none => (g, .ok ())
  | .ok _, some c => g.request t p c

/-- Points the adapters at what is wanted on several topics, in order. Refusals do not matter. -/
def releaseTopics (g : Gateway) (topics : List (Topic × Protocol)) : Gateway :=
  topics.foldl (fun g e => (g.reconcile e.1 e.2).1) g

/-! ## Sessions -/

/-- Opens a session under a new identifier. The result is its handshake. -/
def openSession (g : Gateway) (id : SessionId) : Gateway × Connected :=
  ({ g with bus := g.bus.register id }, ⟨id, g.arbiter.status none, g.recorder.status⟩)

/-- Closes a session. The result has the topics to release. -/
def closeSession (g : Gateway) (id : SessionId) : Gateway × List (Topic × Protocol) :=
  let (bus, topics) := g.bus.close id
  ({ g with bus }, topics)

/-! ## Subscriptions -/

/-- Gives a session back what it had before an adapter refused, and points the adapter at what
is wanted then. -/
def takeBack (g : Gateway) (id : SessionId) (t : Topic) (p : Protocol)
    (previous : Option Interest) (e : GatewayError) : Gateway × GatewayError :=
  match g.bus.restore id t previous with
  | .error e => (g, .bus e)
  | .ok bus => (({ g with bus }.reconcile t p).1, e)

/-- Replaces what a session asks for on a topic. The result has the number of sensors. A running
recording takes the sensors in, too. -/
def subscribe (g : Gateway) (id : SessionId) (t : Topic) (p : Protocol) (keys : KeySet) :
    Gateway × Except GatewayError Nat :=
  match g.adapterFor t p with
  | .error e => (g, .error e)
  | .ok _ =>
    let previous := g.bus.subscription? id t
    match g.bus.subscribe id t p keys with
    | .error e => (g, .error (.bus e))
    | .ok (bus, count) =>
      match { g with bus }.reconcile t p with
      | (g, .error e) =>
        let (g, e) := g.takeBack id t p previous e
        (g, .error e)
      | (g, .ok ()) => ({ g with recorder := (g.recorder.track t p keys).1 }, .ok count)

/-- Takes away what a session asks for on a topic. -/
def unsubscribe (g : Gateway) (id : SessionId) (t : Topic) (p : Protocol) :
    Gateway × Except GatewayError Unit :=
  match g.bus.unsubscribe id t with
  | .error e => (g, .error (.bus e))
  | .ok bus => { g with bus }.reconcile t p

end SensorGateway.Gateway
