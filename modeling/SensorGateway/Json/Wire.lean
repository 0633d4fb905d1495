/-
# SensorGateway.Json.Wire -- types with a JSON form

A type on the wire has an encoder to JSON and a decoder from a reading of JSON text.
Decoding keeps two causes apart: the text is not JSON, or it is JSON of another
shape; the one met first, reading from left to right, counts.

A record may leave out optional fields and have unknown ones, which are skipped. A
field given twice is refused. A record may also be written as the list of its fields
in order.
-/
import SensorGateway.Json.Reading
import SensorGateway.Word

namespace SensorGateway.Json

/-- Why a text does not decode. -/
inductive DecodeError where
  /-- The text is not JSON, or a number in it is past the largest double. -/
  | malformed
  /-- The text is JSON of another shape. -/
  | mismatched
deriving DecidableEq, Repr

namespace Reading

/-- How deep lists and records may nest inside a value. -/
def nestingLimit : Nat := 126

mutual

/-- Whether a value has a meaning throughout: no fault, every number a double, every string
whole, and nothing nested deeper than `room`. -/
def isMeaningful (room : Nat) : Reading → Bool
  | .null => true
  | .bool _ => true
  | .number t => t.value?.isSome
  | .text s => s.isSome
  | .list items => match room with
    | 0 => false
    | room + 1 => areMeaningful room items
  | .record members => match room with
    | 0 => false
    | room + 1 => membersMeaningful room members
  | .fault => false

/-- `isMeaningful` for the items of a list. -/
def areMeaningful (room : Nat) : List Reading → Bool
  | [] => true
  | r :: rest => isMeaningful room r && areMeaningful room rest

/-- `isMeaningful` for the members of a record. -/
def membersMeaningful (room : Nat) : List (Option String × Reading) → Bool
  | [] => true
  | (k, r) :: rest => k.isSome && isMeaningful room r && membersMeaningful room rest

end

mutual

/-- Whether a value that nobody asks for can be passed over: there is no fault in it. -/
def isPassable : Reading → Bool
  | .fault => false
  | .list items => arePassable items
  | .record members => membersPassable members
  | _ => true

/-- `isPassable` for the items of a list. -/
def arePassable : List Reading → Bool
  | [] => true
  | r :: rest => isPassable r && arePassable rest

/-- `isPassable` for the members of a record. -/
def membersPassable : List (Option String × Reading) → Bool
  | [] => true
  | (_, r) :: rest => isPassable r && membersPassable rest

end

/-- The error for a value of a shape that was not asked for. Such a value is read no further
than its first token. -/
def mismatch : Reading → DecodeError
  | .fault => .malformed
  | .number t => if t.value?.isSome then .mismatched else .malformed
  | .text none => .malformed
  | _ => .mismatched

/-- The error for a value that was read as a whole and has none of the shapes asked for. -/
def mismatchWhole (r : Reading) : DecodeError :=
  if r.isMeaningful nestingLimit then .mismatched else .malformed

/-- Passes over a value that nobody asks for. -/
def pass (r : Reading) : Except DecodeError Unit :=
  if r.isPassable then .ok () else .error .malformed

/-- Reads a text as a value decoded by `f`; nothing may follow it. -/
def decodeText {α : Type} (f : Reading → Except DecodeError α) (s : String) :
    Except DecodeError α := do
  let d := ofText s
  let a ← f d.value
  if d.complete then return a else .error .malformed

end Reading

/-! ## Types on the wire -/

/-- A type with a JSON form. -/
class Wire (α : Type) where
  /-- The JSON form of a value. -/
  encode : α → Json
  /-- The value that a reading gives. -/
  decode : Reading → Except DecodeError α

namespace Wire

/-- The compact text of a value. -/
def text {α : Type} [Wire α] (a : α) : String := (encode a).render

/-- The value that a text gives. -/
def ofText {α : Type} [Wire α] (s : String) : Except DecodeError α :=
  Reading.decodeText decode s

instance : Wire Bool where
  encode := .bool
  decode
    | .bool b => .ok b
    | r => .error r.mismatch

instance : Wire String where
  encode := .str
  decode
    | .text (some s) => .ok s
    | r => .error r.mismatch

/-- The integer in a reading, when it fits. -/
def decodeInt {α : Type} (fits? : Int → Option α) : Reading → Except DecodeError α
  | .number t =>
    match t.value? with
    | some (.int n) =>
      match fits? n with
      | some a => .ok a
      | none => .error .mismatched
    | some (.float _) => .error .mismatched
    | none => .error .malformed
  | r => .error r.mismatch

instance : Wire Int64 where
  encode n := .int n.toInt
  decode := decodeInt Word.int64?

instance : Wire UInt64 where
  encode n := .int n.toNat
  decode := decodeInt Word.uint64?

instance {α : Type} [Wire α] : Wire (Option α) where
  encode := .ofOption encode
  decode
    | .null => .ok none
    | r => (decode r).map some

/-- Decodes items in order. -/
def decodeItems {α : Type} [Wire α] : List Reading → Except DecodeError (List α)
  | [] => .ok []
  | r :: rest => do
    let a ← decode r
    return a :: (← decodeItems rest)

instance {α : Type} [Wire α] : Wire (List α) where
  encode l := .arr (l.map encode)
  decode
    | .list items => decodeItems items
    | r => .error r.mismatch

end Wire

/-! ## Records -/

/-- A named field of a record and the test that its values pass. -/
structure Field where
  name : String
  check : Reading → Except DecodeError Unit

/-- The field `name` with values of type `α`. -/
def Field.of (α : Type) [Wire α] (name : String) : Field :=
  ⟨name, fun r => (Wire.decode r : Except DecodeError α).map fun _ => ()⟩

/-- The fields found in a record, by name. -/
abbrev Fields := List (String × Reading)

namespace Fields

/-- The field `name`, which must be there. -/
def get {α : Type} [Wire α] (fs : Fields) (name : String) : Except DecodeError α :=
  match fs.lookup name with
  | some r => Wire.decode r
  | none => .error .mismatched

/-- The field `name`, or `default` when it is left out. -/
def getD {α : Type} [Wire α] (fs : Fields) (name : String) (default : α) :
    Except DecodeError α :=
  match fs.lookup name with
  | some r => Wire.decode r
  | none => .ok default

/-- Collects the known fields of a record, in the order of the text. -/
def ofMembers (known : List Field) (found : Fields) :
    List (Option String × Reading) → Except DecodeError Fields
  | [] => .ok found
  | (none, _) :: _ => .error .malformed
  | (some name, r) :: rest =>
    match known.find? (·.name = name) with
    | none => do
      r.pass
      ofMembers known found rest
    | some f =>
      if (found.lookup name).isSome then .error .mismatched
      else do
        f.check r
        ofMembers known (found ++ [(name, r)]) rest

/-- Collects the fields of a record that is written as a list. Items behind the last field
are no part of it. -/
def ofItems (known : List Field) (found : Fields) : List Reading → Except DecodeError Fields
  | [] => .ok found
  | r :: rest =>
    match known with
    | [] => .error .malformed
    | f :: known => do
      f.check r
      ofItems known (found ++ [(f.name, r)]) rest

/-- The fields of a record. -/
def ofReading (known : List Field) : Reading → Except DecodeError Fields
  | .record members => ofMembers known [] members
  | .list items => ofItems known [] items
  | r => .error r.mismatch

end Fields

end SensorGateway.Json
