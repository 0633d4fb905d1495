/-
# SensorGateway.Sensor.Key -- how sensors are addressed

A key addresses a sensor by its number or by its name. Keys are ordered: numbers
first, by size, then names, by their bytes. A set of keys is a `SortedSet`, so it has
one form and one order.
-/
import SensorGateway.Json.Wire
import SensorGateway.Sorted.Set

namespace SensorGateway

/-- The address of a sensor on its object. -/
inductive SensorKey where
  /-- A number. -/
  | id (n : Int64)
  /-- A name. -/
  | name (s : String)
deriving DecidableEq, Repr, Inhabited

namespace SensorKey

/-- Numbers before names. -/
def order : SensorKey → SensorKey → Ordering
  | .id a, .id b => compare a b
  | .id _, .name _ => .lt
  | .name _, .id _ => .gt
  | .name a, .name b => compare a b

instance : Ord SensorKey := ⟨order⟩

instance : Std.TransOrd SensorKey where
  eq_swap {a b} := by
    match a, b with
    | .id a, .id b => exact Std.OrientedOrd.eq_swap (α := Int64)
    | .id _, .name _ => rfl
    | .name _, .id _ => rfl
    | .name a, .name b => exact Std.OrientedOrd.eq_swap (α := String)
  isLE_trans {a b c} h h' := by
    match a, b, c with
    | .id a, .id b, .id c => exact Std.TransOrd.isLE_trans (α := Int64) h h'
    | .id _, _, .name _ => rfl
    | .name _, .id _, _ => cases h
    | _, .name _, .id _ => cases h'
    | .name a, .name b, .name c =>
      exact Std.TransOrd.isLE_trans (α := String) h h'

instance : Std.LawfulEqOrd SensorKey where
  compare_self {a} := by
    cases a
    · exact Std.ReflOrd.compare_self (α := Int64)
    · exact Std.ReflOrd.compare_self (α := String)
  eq_of_compare {a b} h := by
    match a, b with
    | .id a, .id b => exact congrArg _ (Std.LawfulEqOrd.eq_of_compare (α := Int64) h)
    | .id _, .name _ => cases h
    | .name _, .id _ => cases h
    | .name a, .name b => exact congrArg _ (Std.LawfulEqOrd.eq_of_compare (α := String) h)

/-- A key as messages show it. -/
def display : SensorKey → String
  | .id n => toString n.toInt
  | .name s => s

/-- Whether the key addresses a sensor with the given number and name. -/
def addresses (k : SensorKey) (number : Int64) (label : String) : Bool :=
  match k with
  | .id n => n = number
  | .name s => s = label

instance : Json.Wire SensorKey where
  encode
    | .id n => .int n.toInt
    | .name s => .str s
  decode
    | .number t =>
      match t.value? with
      | some (.int n) =>
        match Word.int64? n with
        | some n => .ok (.id n)
        | none => .error .mismatched
      | some (.float _) => .error .mismatched
      | none => .error .malformed
    | .text (some s) => .ok (.name s)
    | r => .error r.mismatchWhole

end SensorKey

/-- A set of sensor addresses. -/
abbrev KeySet := SortedSet SensorKey

namespace KeySet

/-- Whether some key addresses a sensor with the given number and name. -/
def addresses (ks : KeySet) (number : Int64) (label : String) : Bool :=
  ks.any (·.addresses number label)

instance : Json.Wire KeySet where
  encode ks := Json.Wire.encode ks.toList
  decode r := (Json.Wire.decode r).map SortedSet.ofList

end KeySet

end SensorGateway
