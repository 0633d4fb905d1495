/-
# SensorGateway.Http.Form -- the fields of a query

A query is a list of fields with ampersands between; a field is a name, an equals sign
and a value, or a name alone, whose value is empty. A field that is asked for may be
missing but not be there twice; other fields do not matter.
-/
import SensorGateway.Export.Filter
import SensorGateway.Http.Percent

namespace SensorGateway.Http

/-- The fields of a query in their order. -/
abbrev Form := List (String × String)

/-- A query does not have the expected fields. -/
inductive FormError where
  /-- A field is there twice. -/
  | duplicate (name : String)
  /-- A value has no meaning. -/
  | badValue (name : String)
deriving DecidableEq, Repr

namespace Form

/-- One field. -/
def fieldOf (cs : List Char) : String × String :=
  (Percent.decodeForm (cs.takeWhile (· ≠ '=')),
    Percent.decodeForm ((cs.dropWhile (· ≠ '=')).drop 1))

/-- The fields of a query text. -/
def ofText (s : String) : Form :=
  ((Text.splitAt '&' s.toList).filter (· ≠ [])).map fieldOf

/-- The value of a field, if it is there. -/
def get? (f : Form) (name : String) : Except FormError (Option String) :=
  match f.filter (·.1 = name) with
  | [] => .ok none
  | [e] => .ok (some e.2)
  | _ => .error (.duplicate name)

/-- The instant in a field, if it is there. -/
def instant? (f : Form) (name : String) : Except FormError (Option Instant) := do
  match ← f.get? name with
  | none => return none
  | some s =>
    match Instant.ofText? s with
    | some t => return some t
    | none => throw (.badValue name)

end Form

/-- The restrictions on an export that a query asks for. -/
def filterOfForm (f : Form) : Except FormError Export.Filter := do
  return ⟨← f.instant? "from", ← f.instant? "to", ← f.get? "server", ← f.get? "object"⟩

/-- What a query says about the caller and the server it means. -/
structure Query where
  session : Option String
  server : Option String
  token : Option String
deriving DecidableEq, Repr

/-- The query of a form. -/
def Query.ofForm (f : Form) : Except FormError Query := do
  return ⟨← f.get? "session", ← f.get? "server", ← f.get? "token"⟩

end SensorGateway.Http
