/-
# SensorGateway.Export.Filter -- which records an export takes

Every restriction is optional. Both ends of the time span belong to it; server and
object are compared exactly.
-/
import SensorGateway.Record

namespace SensorGateway.Export

/-- The restrictions on an export. -/
structure Filter where
  /-- Only records at this instant or after it. -/
  earliest : Option Instant := none
  /-- Only records at this instant or before it. -/
  latest : Option Instant := none
  server : Option ServerId := none
  object : Option String := none
deriving DecidableEq, Repr, Inhabited

/-- Whether a record passes every restriction. -/
def Filter.matches (f : Filter) (r : Record) : Bool :=
  f.earliest.all (fun t => t ≤ r.time) && f.latest.all (fun t => r.time ≤ t) &&
    f.server.all (r.server = ·) && f.object.all (r.object = ·)

end SensorGateway.Export
