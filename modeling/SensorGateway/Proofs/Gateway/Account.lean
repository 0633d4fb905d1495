/-
# SensorGateway.Proofs.Gateway.Account -- what comes of everything that happens

An operation makes something of a gateway, and it answers something. `Interaction.perform` has
both, for the operations of runs and for what else can happen: a call about control may be split
where the lock of the arbiter is dropped, and the outcome of a health check is noted. An `Account`
follows a list of interactions with all their answers and with everything that was put into the
channels of sessions.
-/
import SensorGateway.Proofs.Gateway.Observations
import SensorGateway.Proofs.Gateway.Quiet
import SensorGateway.Proofs.Gateway.Revisions

namespace SensorGateway

namespace Op

/-- What an operation answers. -/
inductive Answer where
  | nothing
  | connected (c : Connected)
  | left (topics : List (Topic × Protocol))
  | counted (r : Except GatewayError Nat)
  | done (r : Except GatewayError Unit)
  | recording (s : RecordingStatus)
  | control (a : ControlAnswer)
  | reported (r : Report)
  | received (r : Option Bus.Receipt)
  /-- Whether the one that was asked for is known. -/
  | known (b : Bool)

/-- The answer of an operation. -/
def answer (g : Gateway) : Op → Answer
  | .openSession id => .connected (g.openSession id).2
  | .closeSession id => .left (g.closeSession id).2
  | .cleanUp _ _ => .nothing
  | .subscribe id t p keys => .counted (g.subscribe id t p keys).2
  | .unsubscribe id t p => .done (g.unsubscribe id t p).2
  | .releaseTopics _ => .nothing
  | .startRecording => .recording g.startRecording.2
  | .stopRecording => .recording g.stopRecording.2
  | .clearRecording => .recording g.clearRecording.2
  | .setValue token t p k v => .done (g.setValue token t p k v).2
  | .takeControl token => .control (.taken (g.takeControl token).2)
  | .releaseControl => .control (.released g.releaseControl.2)
  | .expireControl => .control (.expired g.expireControl.2)
  | .authorize token => .done (g.authorize token).2
  | .publish b => .reported (g.publish b).2
  | .broadcast e => .reported (g.broadcast e).2
  | .sendTo id e => .done (g.sendTo id e).2
  | .receive id max => .received (g.bus.receive id max).2
  | .hangUp id => .known (g.bus.hangUp id).2
  | .elapse _ _ => .nothing

end Op

/-- Something that happens to a gateway. -/
inductive Interaction where
  | op (o : Op)
  /-- A call about control up to where the lock of the arbiter is dropped. If it produced a status,
  that is broadcast by an operation of its own, at any time later. Whoever just looks how
  control stands has only this part. -/
  | locked (c : ControlCall)
  /-- The outcome of a health check is noted. -/
  | check (server : ServerId) (connected : Bool) (error : Option String)

namespace Interaction

/-- What somebody gets to know by an interaction. -/
inductive Answer where
  | op (a : Op.Answer)
  /-- The answer of the call, and the status that is to be broadcast. -/
  | locked (a : ControlAnswer) (news : Option ControlStatus)
  | check (known : Bool)

/-- What an interaction makes of a gateway, and its answer. -/
def perform (g : Gateway) : Interaction → Gateway × Answer
  | .op o => (o.act g, .op (o.answer g))
  | .locked c =>
    ({ g with arbiter := (c.locked g.arbiter g.clock.elapsed).1 },
      .locked (c.perform g).2 (c.locked g.arbiter g.clock.elapsed).2)
  | .check server connected error =>
    ({ g with registry := (g.registry.setConnected server connected error).1 },
      .check (g.registry.setConnected server connected error).2)

/-- Whether an interaction writes. -/
def isWrite : Interaction → Bool
  | .op o => o.isWrite
  | _ => false

/-- What leaves the channel of a session by an interaction. -/
def takes (g : Gateway) (id : SessionId) : Interaction → List Event
  | .op o => o.takes g id
  | _ => []

/-- Why an operation or a call was refused, if it was. -/
def Answer.refusal? : Answer → Option GatewayError
  | .op (.done (.error e)) => some e
  | .op (.control a) => a.refusal?
  | .locked a _ => a.refusal?
  | _ => none

end Interaction

/-- What comes of some interactions with a gateway: how the gateway is then, all answers in their
order, and what has left the channel of each session. -/
structure Account where
  gateway : Gateway
  answers : List Interaction.Answer
  taken : SessionId → List Event

namespace Account

/-- Nothing has happened yet. -/
def start (g : Gateway) : Account := ⟨g, [], fun _ => []⟩

/-- One interaction. -/
def step (x : Account) (i : Interaction) : Account :=
  ⟨(i.perform x.gateway).1, x.answers ++ [(i.perform x.gateway).2],
    fun id => x.taken id ++ i.takes x.gateway id⟩

/-- Interactions one after the other. -/
def after (x : Account) (h : List Interaction) : Account := h.foldl step x

/-- Everything that was ever put into the channel of a session, oldest first. -/
def mail (x : Account) (id : SessionId) : List Event := (Traffic.mk x.gateway.bus x.taken).mail id

end Account

end SensorGateway
