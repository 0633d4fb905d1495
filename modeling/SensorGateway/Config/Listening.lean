/-
# SensorGateway.Config.Listening -- the address to listen on

The host of the settings and their port, with a colon between, have to be the text of
a socket address. The name of a host is none.
-/
import SensorGateway.Address
import SensorGateway.Config

namespace SensorGateway.Config

/-- The settings name no address. -/
inductive BindError where
  | badAddress
deriving DecidableEq, Repr

/-- What is wrong. -/
def BindError.message : BindError → String
  | .badAddress => "bind error: invalid address: invalid socket address syntax"

/-- What an operator is told at the start. -/
def BindError.startupMessage (e : BindError) : String := "server start error: " ++ e.message

/-- The address to listen on. -/
def Http.address? (h : Http) : Except BindError SocketAddress :=
  match SocketAddress.ofText? (h.host ++ ":" ++ toString h.port.toNat) with
  | some a => .ok a
  | none => .error .badAddress

end SensorGateway.Config
