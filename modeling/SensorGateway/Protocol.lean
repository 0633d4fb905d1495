/-
# SensorGateway.Protocol -- the protocol families of observed objects

Every object is served through one of four protocol families. The canonical name
stands in configuration and JSON; URLs also use the names of the object extensions,
in any case. Each family has its own name for the events that carry its batches.
-/
import SensorGateway.Json.Wire
import SensorGateway.Text.Blank

namespace SensorGateway

/-- A protocol family. -/
inductive Protocol where
  /-- Sensors of an input and output controller. -/
  | ionc
  /-- Registers of a Modbus master or slave. -/
  | modbus
  /-- Variables of an OPC-UA server or exchange. -/
  | opcua
  /-- Sensors streamed through a WebSocket gate. -/
  | uwsgate
deriving DecidableEq, Repr, Inhabited

namespace Protocol

/-- All families, in their order. -/
def all : List Protocol := [.ionc, .modbus, .opcua, .uwsgate]

/-- The canonical name. -/
def name : Protocol → String
  | .ionc => "ionc"
  | .modbus => "modbus"
  | .opcua => "opcua"
  | .uwsgate => "uwsgate"

/-- The name of the events that carry a batch. -/
def eventName : Protocol → String
  | .ionc => "ionc_sensor_batch"
  | .modbus => "modbus_register_batch"
  | .opcua => "opcua_sensor_batch"
  | .uwsgate => "uwsgate_sensor_batch"

/-- The position of a family in `all`. -/
def index : Protocol → Nat
  | .ionc => 0
  | .modbus => 1
  | .opcua => 2
  | .uwsgate => 3

theorem all_getElem?_index (p : Protocol) : all[p.index]? = some p := by cases p <;> rfl

theorem index_inj {p q : Protocol} (h : p.index = q.index) : p = q := by
  cases p <;> cases q <;> first | rfl | cases h

/-- Families are ordered as in `all`. -/
instance : Ord Protocol := ⟨compareOn index⟩

instance : Std.TransOrd Protocol := inferInstanceAs (Std.TransCmp (compareOn index))

instance : Std.LawfulEqOrd Protocol where
  eq_of_compare h := index_inj (Std.LawfulEqOrd.eq_of_compare (α := Nat) h)

/-- The family with a canonical name. -/
def ofName? (s : String) : Option Protocol := all.find? (·.name = s)

theorem ofName?_name (p : Protocol) : ofName? p.name = some p := by cases p <;> decide

/-- The extension names that stand for a family in URLs. -/
def aliases : List (String × Protocol) :=
  [("mbmaster", .modbus), ("mbslave", .modbus), ("opcuaserver", .opcua),
   ("opcuaexchange", .opcua)]

/-- The family that a URL names. -/
def ofUrl? (s : String) : Option Protocol :=
  let s := Text.asciiLower s
  ofName? s <|> aliases.lookup s

/-- The message for a name that no family has. -/
def unknownMessage (s : String) : String := "unknown protocol: " ++ s

/-- A canonical name, alone or as the only member of an object whose value is `null`. -/
instance : Json.Wire Protocol where
  encode p := .str p.name
  decode
    | .text (some s) =>
      match ofName? s with
      | some p => .ok p
      | none => .error .mismatched
    | .record [(some s, .null)] =>
      match ofName? s with
      | some p => .ok p
      | none => .error .mismatched
    | r => .error r.mismatch

end Protocol

end SensorGateway
