/-
# SensorGateway.Gateway.Writing -- control and writes

Every change of control is told to all sessions, after it has happened. A write asks
the arbiter first; a refused one never reaches an adapter.
-/
import SensorGateway.Gateway.State

namespace SensorGateway.Gateway

/-- Tells all sessions how control stands. -/
def announceControl (g : Gateway) : Gateway := (g.broadcast (.control g.arbiter.current)).1

/-- Takes control for a token. -/
def takeControl (g : Gateway) (token : String) : Gateway × Except GatewayError ControlView :=
  match g.arbiter.take g.clock.elapsed token with
  | .error e => (g, .error (.control e))
  | .ok arbiter => ({ g with arbiter }.announceControl, .ok ⟨true, true, arbiter.timeoutSec⟩)

/-- Makes control free. -/
def releaseControl (g : Gateway) : Gateway × ControlStatus :=
  let arbiter := g.arbiter.release
  ({ g with arbiter }.announceControl, arbiter.current)

/-- Makes control free when its holder is idle. The result says whether it was. -/
def expireControl (g : Gateway) : Gateway × Bool :=
  match g.arbiter.expire? g.clock.elapsed with
  | some arbiter => ({ g with arbiter }.announceControl, true)
  | none => (g, false)

/-- Lets the owner of a token write, if it holds control. -/
def authorize (g : Gateway) (token : Option String) : Gateway × Except GatewayError Unit :=
  match g.arbiter.authorize g.clock.elapsed token with
  | .error e => (g, .error (.control e))
  | .ok arbiter => ({ g with arbiter }, .ok ())

/-- Writes a value for the owner of a token. -/
def setValue (g : Gateway) (token : Option String) (t : Topic) (p : Protocol) (k : SensorKey)
    (v : SensorValue) : Gateway × Except GatewayError Unit :=
  match g.authorize token with
  | (g, .error e) => (g, .error e)
  | (g, .ok ()) => g.request t p (.setValue t.object k v)

end SensorGateway.Gateway
