/-
# SensorGateway.Startup -- from settings to a gateway that can listen

A gateway starts with usable settings and the adapters for all objects in memory. It
can listen when its host is an address.
-/
import SensorGateway.Config.Listening
import SensorGateway.Config.Loading
import SensorGateway.Gateway.State

namespace SensorGateway.Startup

/-- The variable for the file with the settings. -/
def fileVariable : String := "GATEWAY_CONFIG"

/-- The file with the settings, where the variable names no other. -/
def defaultFile : String := "gateway-config.yaml"

/-- Why the gateway cannot start. -/
inductive Failure where
  | config (e : Config.LoadError)
  | bind (e : Config.BindError)
deriving DecidableEq, Repr

/-- What an operator is told. -/
def Failure.message : Failure → String
  | .config e => "config error: " ++ e.message
  | .bind e => "startup error: " ++ e.startupMessage

/-- A gateway that can listen. -/
structure Started where
  address : SocketAddress
  gateway : Gateway
  /-- How many adapters there are for objects in memory. -/
  adapters : Nat

/-- Starts a gateway. -/
def start (c : Config) (clock : Clock) : Except Failure Started :=
  let (gateway, adapters) := (Gateway.new c clock).registerLoopback c.servers
  match c.http.address? with
  | .ok address => .ok ⟨address, gateway, adapters⟩
  | .error e => .error (.bind e)

/-- What is said about a gateway at its start. -/
def report (c : Config) (source : String) (s : Started) : List String :=
  ["config: " ++ source,
   "servers: " ++ toString c.servers.length,
   "adapters: " ++ toString s.adapters,
   "address: " ++ s.address.text] ++
    if c.control.tokens = [] then
      ["No control tokens configured; any non-empty token may take control"]
    else []

end SensorGateway.Startup
