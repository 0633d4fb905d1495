/-
# SensorGateway.Topic -- one object on one automation server

Sensor data is routed by topic. Topics are ordered by server and then by object, both
by their bytes.
-/
import SensorGateway.Json.Wire

namespace SensorGateway

/-- The identifier of an automation server. -/
abbrev ServerId := String

/-- The routing key of sensor data. -/
structure Topic where
  server : ServerId
  object : String
deriving DecidableEq, Repr, Inhabited

namespace Topic

/-- By server, then by object. -/
def order : Topic → Topic → Ordering :=
  compareLex (compareOn Topic.server) (compareOn Topic.object)

instance : Ord Topic := ⟨order⟩

instance : Std.TransOrd Topic :=
  inferInstanceAs (Std.TransCmp (compareLex (compareOn Topic.server) (compareOn Topic.object)))

instance : Std.LawfulEqOrd Topic where
  eq_of_compare {a b} h := by
    have h : compareLex (compareOn Topic.server) (compareOn Topic.object) a b = .eq := h
    rw [compareLex, Ordering.then_eq_eq] at h
    obtain ⟨h₁, h₂⟩ := h
    have h₁ : a.server = b.server := Std.LawfulEqOrd.eq_of_compare h₁
    have h₂ : a.object = b.object := Std.LawfulEqOrd.eq_of_compare h₂
    cases a; cases b; simp_all

/-- A topic as messages show it. -/
def display (t : Topic) : String := t.server ++ ":" ++ t.object

instance : Json.Wire Topic where
  encode t := .obj [("serverId", .str t.server), ("objectName", .str t.object)]
  decode r := do
    let fs ← Json.Fields.ofReading [.of String "serverId", .of String "objectName"] r
    return ⟨← fs.get "serverId", ← fs.get "objectName"⟩

end Topic

end SensorGateway
