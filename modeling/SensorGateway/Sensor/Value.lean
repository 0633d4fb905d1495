/-
# SensorGateway.Sensor.Value -- the values that sensors carry

A value is a truth value, a 64-bit integer, a double or a text, and keeps its kind on
the wire: `1`, `1.0`, `"1"` and `true` are four values. An integer too large for 64
signed bits is read as a double.
-/
import SensorGateway.Json.Wire

namespace SensorGateway

/-- The value of a sensor, register or variable. -/
inductive SensorValue where
  /-- A discrete state. -/
  | bool (b : Bool)
  /-- An analog value or a register. -/
  | int (n : Int64)
  /-- A floating-point variable. -/
  | float (x : Binary64)
  /-- Anything else, as it came. -/
  | text (s : String)
deriving DecidableEq, Repr, Inhabited

namespace SensorValue

/-- The name of the kind of a value. -/
def kind : SensorValue → String
  | .bool _ => "bool"
  | .int _ => "int"
  | .float _ => "float"
  | .text _ => "text"

/-- A value as tables and messages show it. -/
def display : SensorValue → String
  | .bool b => if b then "true" else "false"
  | .int n => toString n.toInt
  | .float x => Binary64.Layout.display.text x
  | .text s => s

/-- The number that a value stands for. A text counts when it writes a number between
blanks. -/
def number? : SensorValue → Option Binary64
  | .bool b => some (Binary64.ofInt (if b then 1 else 0))
  | .int n => some (Binary64.ofInt n.toInt)
  | .float x => some x
  | .text s => Binary64.ofText? (Text.trim s)

/-- The bytes of a text value; the other kinds have none of their own. -/
def textSize : SensorValue → Nat
  | .text s => s.utf8ByteSize
  | _ => 0

/-- The value of an integer token. -/
def ofInt (n : Int) : SensorValue :=
  match Word.int64? n with
  | some n => .int n
  | none => .float (Binary64.ofInt n)

instance : Json.Wire SensorValue where
  encode
    | .bool b => .bool b
    | .int n => .int n.toInt
    | .float x => .ofBinary64 x
    | .text s => .str s
  decode
    | .bool b => .ok (.bool b)
    | .number t =>
      match t.value? with
      | some (.int n) => .ok (ofInt n)
      | some (.float x) => .ok (.float x)
      | none => .error .malformed
    | .text (some s) => .ok (.text s)
    | r => .error r.mismatchWhole

end SensorValue

end SensorGateway
