/-
# SensorGateway.Yaml.Decode -- nodes as values

A text field takes the text of any scalar. A number has to be plain. A list or a
record that is left out is empty, but a null in its place is an error. A record may
have unknown fields, which are skipped; a field given twice is an error.
-/
import SensorGateway.Word
import SensorGateway.Yaml.Node
import SensorGateway.Yaml.Plain

namespace SensorGateway.Yaml

/-- The prefix of the tags that every YAML text knows. -/
def coreTag (name : String) : String := "tag:yaml.org,2002:" ++ name

/-- The name in a tag of one's own, which begins with an exclamation mark. -/
def ownTag? (tag : String) : Option String :=
  match tag.toList with
  | '!' :: name => some (String.ofList name)
  | _ => none

namespace Node

/-- Whether nothing stands in the place of the node. -/
def isLeftOut : Node → Bool
  | .scalar .plain _ text => text = ""
  | _ => false

/-- The text of a scalar. -/
def text : Node → Except Fault String
  | .scalar _ _ text => .ok text
  | _ => .error .wrongKind

/-- A node that may be null or left out. -/
def optional {α : Type} (f : Node → Except Fault α) : Node → Except Fault (Option α)
  | .scalar .plain none text =>
    if text = "" || Plain.isNull text then .ok none
    else (f (.scalar .plain none text)).map some
  | .scalar .plain (some tag) text =>
    if tag = coreTag "null" then
      if Plain.isNull text then .ok none else .error .wrongKind
    else (f (.scalar .plain (some tag) text)).map some
  | n => (f n).map some

/-- The text of a scalar that can be a number: a plain one, or a block marked as an integer. -/
def numberText? : Node → Option String
  | .scalar .plain _ text => some text
  | .scalar .literal tag text => if tag = some (coreTag "int") then some text else none
  | _ => none

/-- A number below `bound`. -/
def natural (bound : Nat) (n : Node) : Except Fault Nat :=
  match n.numberText?.bind Plain.natural? with
  | some k => if k < bound then .ok k else .error .outOfRange
  | none => .error .wrongKind

/-- An integer of 64 bits. -/
def int64 (n : Node) : Except Fault Int64 :=
  match n.numberText?.bind Plain.integer? with
  | some k =>
    match Word.int64? k with
    | some k => .ok k
    | none => .error .outOfRange
  | none => .error .wrongKind

/-- Decodes nodes in order. -/
def decodeAll {α : Type} (f : Node → Except Fault α) : List Node → Except Fault (List α)
  | [] => .ok []
  | n :: rest => do
    let a ← f n
    return a :: (← decodeAll f rest)

/-- A list. -/
def items {α : Type} (f : Node → Except Fault α) (n : Node) : Except Fault (List α) :=
  match n with
  | .list ns => decodeAll f ns
  | n => if n.isLeftOut then .ok [] else .error .wrongKind

/-- One of a few names: as the text of a scalar, or as the tag of nothing. -/
def choice {α : Type} (names : List (String × α)) (n : Node) : Except Fault α := do
  let name ← match n with
    | .scalar style tag text =>
      match tag.bind ownTag? with
      | none => pure text
      | some name =>
        if style = .plain ∧ (text = "" ∨ Plain.isNull text) then pure name else throw .wrongKind
    | _ => throw .wrongKind
  match names.lookup name with
  | some a => return a
  | none => throw (.unknownName name)

/-! ## Records -/

/-- The known fields among the entries of a mapping. -/
def knownEntries (known : List String) (found : List (String × Node)) :
    List (Node × Node) → Except Fault (List (String × Node))
  | [] => .ok found
  | (k, v) :: rest => do
    let name ← k.text
    if !known.contains name then knownEntries known found rest
    else if (found.lookup name).isSome then throw (.duplicateField name)
    else knownEntries known (found ++ [(name, v)]) rest

/-- The known fields of a record. -/
def fields (known : List String) (n : Node) : Except Fault (List (String × Node)) :=
  match n with
  | .mapping entries => knownEntries known [] entries
  | n => if n.isLeftOut then .ok [] else .error .wrongKind

end Node

/-- The field `name`, which must be there. -/
def field {α : Type} (fs : List (String × Node)) (name : String) (f : Node → Except Fault α) :
    Except Fault α :=
  match fs.lookup name with
  | some n => f n
  | none => .error (.missingField name)

/-- The field `name`, or `default` when it is missing. -/
def fieldD {α : Type} (fs : List (String × Node)) (name : String) (f : Node → Except Fault α)
    (default : α) : Except Fault α :=
  match fs.lookup name with
  | some n => f n
  | none => .ok default

end SensorGateway.Yaml
