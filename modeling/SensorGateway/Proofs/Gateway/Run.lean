/-
# SensorGateway.Proofs.Gateway.Run -- runs of a gateway

A run is a list of operations, one after the other, on an assembled gateway: sessions
come, ask and go, recordings start and stop, values are written, control changes hands,
adapters tell values on their own, browsers read and go away, and time passes. What a
closed session leaves is released later, topic by topic, with any other operations in
between; topics may be released at other times, too.

A `Run` carries the proof that each of its operations can happen where it does: a session
gets an identifier that was never used, and only what was left is cleaned up.
`Run.induction` is the induction over runs.
-/
import SensorGateway.Proofs.Gateway.Assembly
import SensorGateway.Proofs.Gateway.Calm

namespace SensorGateway

/-- What can happen to a gateway. -/
inductive Op where
  | openSession (id : SessionId)
  | closeSession (id : SessionId)
  /-- A topic that a closed session has left is released. -/
  | cleanUp (t : Topic) (p : Protocol)
  | subscribe (id : SessionId) (t : Topic) (p : Protocol) (keys : KeySet)
  | unsubscribe (id : SessionId) (t : Topic) (p : Protocol)
  | releaseTopics (topics : List (Topic × Protocol))
  | startRecording
  | stopRecording
  | clearRecording
  | setValue (token : Option String) (t : Topic) (p : Protocol) (k : SensorKey) (v : SensorValue)
  | takeControl (token : String)
  | releaseControl
  | expireControl
  | authorize (token : Option String)
  | publish (b : Batch)
  | broadcast (e : Event)
  | sendTo (id : SessionId) (e : Event)
  | receive (id : SessionId) (max : Nat)
  | hangUp (id : SessionId)
  /-- Some milliseconds pass, and the time of day is a new one. -/
  | elapse (ms : Nat) (wall : Instant)

namespace Op

/-- What an operation makes of a gateway. -/
def act (g : Gateway) : Op → Gateway
  | .openSession id => (g.openSession id).1
  | .closeSession id => (g.closeSession id).1
  | .cleanUp t p => g.releaseTopics [(t, p)]
  | .subscribe id t p keys => (g.subscribe id t p keys).1
  | .unsubscribe id t p => (g.unsubscribe id t p).1
  | .releaseTopics topics => g.releaseTopics topics
  | .startRecording => g.startRecording.1
  | .stopRecording => g.stopRecording.1
  | .clearRecording => g.clearRecording.1
  | .setValue token t p k v => (g.setValue token t p k v).1
  | .takeControl token => (g.takeControl token).1
  | .releaseControl => g.releaseControl.1
  | .expireControl => g.expireControl.1
  | .authorize token => (g.authorize token).1
  | .publish b => (g.publish b).1
  | .broadcast e => (g.broadcast e).1
  | .sendTo id e => (g.sendTo id e).1
  | .receive id max => { g with bus := (g.bus.receive id max).1 }
  | .hangUp id => { g with bus := (g.bus.hangUp id).1 }
  | .elapse ms wall => { g with clock := ⟨wall, g.clock.elapsed + ms⟩ }

/-- Whether an operation leaves all interests alone. -/
def isCalm : Op → Bool
  | .openSession _ => false
  | .closeSession _ => false
  | .cleanUp _ _ => false
  | .subscribe _ _ _ _ => false
  | .unsubscribe _ _ _ => false
  | .releaseTopics _ => false
  | .startRecording => false
  | .stopRecording => false
  | _ => true

theorem calm_act {op : Op} (h : op.isCalm = true) (g : Gateway) : g.Calm (op.act g) := by
  cases op with
  | clearRecording => exact g.calm_clearRecording
  | setValue token t p k v => exact g.calm_setValue token t p k v
  | takeControl token => exact g.calm_takeControl token
  | releaseControl => exact g.calm_announceControl _
  | expireControl => exact g.calm_expireControl
  | authorize token => exact g.calm_authorize token
  | publish b => exact (g.tells_publish b).calm
  | broadcast e => exact (g.tells_broadcast e).calm
  | sendTo id e => exact (g.tells_sendTo id e).calm
  | receive id max =>
    exact Gateway.Tells.calm (Gateway.tells_of (Bus.thins_receive g.bus id max) rfl rfl rfl rfl rfl)
  | hangUp id =>
    exact Gateway.Tells.calm (Gateway.tells_of (Bus.thins_hangUp g.bus id) rfl rfl rfl rfl rfl)
  | elapse ms wall =>
    exact Gateway.Tells.calm (Gateway.tells_of (.refl g.bus) rfl rfl rfl rfl rfl)
  | _ => cases h

theorem faithful_act {g : Gateway} (h : g.Faithful) (op : Op) : (op.act g).Faithful := by
  by_cases hc : op.isCalm = true
  · exact (calm_act hc g).faithful h
  cases op with
  | openSession id => exact h
  | closeSession id => exact h
  | cleanUp t p => exact Gateway.faithful_releaseTopics h [(t, p)]
  | subscribe id t p keys => exact Gateway.faithful_subscribe h id t p keys
  | unsubscribe id t p => exact Gateway.faithful_unsubscribe h id t p
  | releaseTopics topics => exact Gateway.faithful_releaseTopics h topics
  | startRecording => exact Gateway.faithful_startRecording h
  | stopRecording => exact Gateway.faithful_stopRecording h
  | _ => exact absurd rfl hc

/-- An operation asks for a topic, or gives it up, only under one family. Writing to the topic and
releasing it under another family do not matter. -/
def KeepsTo (t : Topic) (p : Protocol) : Op → Prop
  | .subscribe _ t' p' _ => t' = t → p' = p
  | .unsubscribe _ t' p' => t' = t → p' = p
  | _ => True

instance (t : Topic) (p : Protocol) (op : Op) : Decidable (op.KeepsTo t p) := by
  cases op <;> unfold KeepsTo <;> infer_instance

end Op

/-- The sessions that were closed while they were registered, after one more session is closed. -/
def Gateway.closing (g : Gateway) (closed : List SessionId) (id : SessionId) : List SessionId :=
  if g.bus.isRegistered id then closed ++ [id] else closed

/-- A gateway in use. -/
structure World where
  gateway : Gateway
  /-- The topics that closed sessions have left and that are still to be released. -/
  pending : List (Topic × Protocol)
  /-- The sessions that were closed while they were registered. -/
  closed : List SessionId

namespace World

/-- A gateway that nobody has used yet. -/
def start (g : Gateway) : World := ⟨g, [], []⟩

/-- The topics that are to be released after an operation. -/
def pendingAfter (w : World) : Op → List (Topic × Protocol)
  | .closeSession id => w.pending ++ (w.gateway.closeSession id).2
  | .cleanUp t p => w.pending.erase (t, p)
  | _ => w.pending

/-- The sessions that were closed up to and with an operation. -/
def closedAfter (w : World) : Op → List SessionId
  | .closeSession id => w.gateway.closing w.closed id
  | _ => w.closed

/-- What is due changes only when a session is closed, and when something is cleaned up. -/
theorem pendingAfter_of_calm (w : World) {op : Op} (h : op.isCalm = true) :
    w.pendingAfter op = w.pending := by
  cases op with
  | closeSession id => cases h
  | cleanUp t p => cases h
  | _ => rfl

theorem closedAfter_of_calm (w : World) {op : Op} (h : op.isCalm = true) :
    w.closedAfter op = w.closed := by
  cases op with
  | closeSession id => cases h
  | _ => rfl

/-- One operation. -/
def step (w : World) (op : Op) : World := ⟨op.act w.gateway, w.pendingAfter op, w.closedAfter op⟩

/-- Operations one after the other. -/
def after (w : World) (ops : List Op) : World := ops.foldl step w

/-- An operation can happen: a new session has a new identifier, and only what was left is
cleaned up. -/
def Admits (w : World) : Op → Prop
  | .openSession id => id ∉ w.gateway.bus.ids
  | .cleanUp t p => (t, p) ∈ w.pending
  | _ => True

instance (w : World) (op : Op) : Decidable (w.Admits op) := by
  cases op <;> unfold Admits <;> infer_instance

/-- Every operation can happen where it does. -/
def Admissible (w : World) : List Op → Prop
  | [] => True
  | op :: ops => w.Admits op ∧ (w.step op).Admissible ops

instance decidableAdmissible (w : World) : (ops : List Op) → Decidable (w.Admissible ops)
  | [] => isTrue trivial
  | op :: ops =>
    have := decidableAdmissible (w.step op) ops
    inferInstanceAs (Decidable (w.Admits op ∧ (w.step op).Admissible ops))

end World

/-- A run of an assembled gateway. -/
structure Run where
  config : Config
  clock : Clock
  /-- The adapters beside those of the settings. -/
  more : List Installation
  ops : List Op
  admissible : (World.start (.assemble config clock more)).Admissible ops

namespace Run

/-- Where a run ends. -/
def world (r : Run) : World := (World.start (.assemble r.config r.clock r.more)).after r.ops

/-- The gateway at the end of a run. -/
def gateway (r : Run) : Gateway := r.world.gateway

/-- What holds at first and is kept by every operation of some kind holds after every run of
operations of that kind. -/
theorem induction {P : World → Prop} {K : Op → Prop}
    (start : ∀ g : Gateway, g.Fresh → P (World.start g))
    (keep : ∀ w op, P w → w.Admits op → K op → P (w.step op)) (r : Run)
    (hkind : ∀ op ∈ r.ops, K op) : P r.world := by
  -- by induction on the operations, from any world at which they can happen
  have along (ops : List Op) (hkind : ∀ op ∈ ops, K op) (w : World) (hw : P w)
      (hops : w.Admissible ops) : P (w.after ops) := by
    induction ops generalizing w with
    | nil => exact hw
    | cons op ops ih =>
      have hstep : P (w.step op) := keep w op hw hops.1 (hkind op (by simp))
      exact ih (fun op' h => hkind op' (List.mem_cons_of_mem op h)) _ hstep hops.2
  exact along r.ops hkind _ (start _ (Gateway.fresh_assemble r.config r.clock r.more)) r.admissible

/-- The keys that an adapter watches are those that it accepted last. -/
theorem faithful_gateway (r : Run) : r.gateway.Faithful :=
  r.induction (P := fun w => w.gateway.Faithful) (K := fun _ => True)
    (fun _ hg => hg.faithful) (fun _ op hw _ _ => Op.faithful_act hw op) fun _ _ => trivial

end Run

end SensorGateway
