/-
# SensorGateway.Registry -- the automation servers and their health

The servers are those of the settings, in their order, and stay the same as long as
the gateway runs. Only the outcome of health checks changes.
-/
import SensorGateway.Config
import SensorGateway.Status

namespace SensorGateway

/-- The automation servers in the order of the settings. -/
structure Registry where
  servers : List Server
deriving DecidableEq, Repr

namespace Registry

/-- A server of the settings before its first health check. -/
def serverOf (s : Config.Server) : Server := ⟨s.serverId, s.url, s.displayName, false, none⟩

/-- The servers of the settings. -/
def new (servers : List Config.Server) : Registry := ⟨servers.map serverOf⟩

/-- The server with an identifier. -/
def get? (r : Registry) (id : ServerId) : Option Server := r.servers.find? (·.id = id)

/-- The identifier of the only server, if there is exactly one. -/
def sole? (r : Registry) : Option ServerId :=
  match r.servers with
  | [s] => some s.id
  | _ => none

/-- The outcome of a health check. Only a failed one has a message. -/
def checked (connected : Bool) (error : Option String) (s : Server) : Server :=
  { s with connected, lastError := if connected then none else error }

/-- Changes the first server with an identifier in a list. -/
def setFirst (id : ServerId) (f : Server → Server) : List Server → List Server
  | [] => []
  | s :: rest => if s.id = id then f s :: rest else s :: setFirst id f rest

/-- Notes the outcome of a health check. The result says whether the server is known. -/
def setConnected (r : Registry) (id : ServerId) (connected : Bool) (error : Option String) :
    Registry × Bool :=
  (⟨setFirst id (checked connected error) r.servers⟩, (r.get? id).isSome)

end Registry

end SensorGateway
