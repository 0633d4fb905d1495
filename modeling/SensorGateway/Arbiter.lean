/-
# SensorGateway.Arbiter -- who may write

At most one token holds control, and whoever knows it may write. Control is free at
first. A token can take it when it is free, when it holds it already, or when the
holder has been idle for longer than the timeout. Every change of control gets the
next revision. Times are milliseconds of a clock that never goes back.
-/
import SensorGateway.Config
import SensorGateway.Sorted.Set
import SensorGateway.Status

namespace SensorGateway

/-- Why a request for control is refused. -/
inductive ControlError where
  /-- The token is empty or not among the allowed ones. -/
  | invalidToken
  /-- A write came without a token. -/
  | missingToken
  /-- Another token holds control. -/
  | controlTaken
  /-- The token does not hold control. -/
  | notController
deriving DecidableEq, Repr

/-- What a caller is told. -/
def ControlError.message : ControlError → String
  | .invalidToken => "invalid control token"
  | .missingToken => "control token required"
  | .controlTaken => "control is held by another controller"
  | .notController => "not the controller"

/-- The holder of control. -/
structure Holder where
  token : String
  /-- When it last took control or wrote. -/
  lastActivity : Nat
deriving DecidableEq, Repr

/-- The state of control. -/
structure Arbiter where
  /-- The tokens that may take control; any token may when there is none. -/
  allowed : SortedSet String
  /-- The idle timeout in seconds, if there is one. -/
  idleTimeout : Option UInt64
  holder : Option Holder
  /-- How often control has changed. -/
  revision : UInt64
deriving DecidableEq, Repr

namespace Arbiter

/-- Control is free. -/
def new (c : Config.Control) : Arbiter := ⟨.ofList c.tokens, c.idleTimeout?, none, 0⟩

/-- The idle timeout in seconds, zero when there is none. -/
def timeoutSec (a : Arbiter) : UInt64 := a.idleTimeout.getD 0

/-- How often somebody should look for an idle holder, in milliseconds: twice in a timeout,
but once a second at most. -/
def watchdogInterval (a : Arbiter) : Option Nat :=
  a.idleTimeout.map fun t => max (t.toNat * 1000 / 2) 1000

/-- Whether a token may take control at all. -/
def accepts (a : Arbiter) (token : String) : Bool :=
  token ≠ "" && (a.allowed.isEmpty || decide (token ∈ a.allowed))

/-- Whether a holder has been idle for longer than the timeout. -/
def isIdle (a : Arbiter) (now : Nat) (h : Holder) : Bool :=
  a.idleTimeout.any fun t => t.toNat * 1000 < now - h.lastActivity

/-- Control as every session sees it. -/
def current (a : Arbiter) : ControlStatus := ⟨a.holder.isSome, a.timeoutSec, a.revision⟩

/-- Control as the owner of a token sees it. -/
def status (a : Arbiter) (token : Option String) : ControlView :=
  let isController := match a.holder, token with
    | some h, some t => t ≠ "" && t = h.token
    | _, _ => false
  ⟨isController, a.holder.isSome, a.timeoutSec⟩

/-- Control in new hands, or free. -/
def pass (a : Arbiter) (holder : Option Holder) : Arbiter :=
  { a with holder, revision := a.revision + 1 }

/-- Takes control for a token. -/
def take (a : Arbiter) (now : Nat) (token : String) : Except ControlError Arbiter :=
  if !a.accepts token then .error .invalidToken
  else
    let blocked := a.holder.any fun h => h.token ≠ token && !a.isIdle now h
    if blocked then .error .controlTaken else .ok (a.pass (some ⟨token, now⟩))

/-- Makes control free, whoever holds it. -/
def release (a : Arbiter) : Arbiter := a.pass none

/-- Makes control free when its holder is idle; nothing otherwise. -/
def expire? (a : Arbiter) (now : Nat) : Option Arbiter :=
  if a.holder.any (a.isIdle now) then some (a.pass none) else none

/-- Lets the owner of a token write, if it holds control. That counts as activity. -/
def authorize (a : Arbiter) (now : Nat) (token : Option String) : Except ControlError Arbiter :=
  match token with
  | none => .error .missingToken
  | some t =>
    if t = "" then .error .missingToken
    else if a.holder.any (·.token = t) then .ok { a with holder := some ⟨t, now⟩ }
    else .error .notController

end Arbiter

end SensorGateway
