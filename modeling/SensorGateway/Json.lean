/-
# SensorGateway.Json -- JSON data and its compact text

A JSON value keeps integers apart from floating-point numbers and the members of an
object in their order. `Json.render` writes it without any spaces; the text never
has a control character in it, whatever the strings hold.
-/
import SensorGateway.Binary64.Layout
import SensorGateway.Text.Hex

namespace SensorGateway

/-- A JSON value. -/
inductive Json where
  | null
  | bool (b : Bool)
  /-- A number without point and exponent. -/
  | int (n : Int)
  /-- A number with a point or an exponent. -/
  | float (x : Binary64)
  | str (s : String)
  | arr (items : List Json)
  | obj (members : List (String × Json))
deriving Inhabited, Repr, BEq

namespace Json

/-- A finite double is a number; JSON has no text for the others. -/
def ofBinary64 (x : Binary64) : Json := if x.isFinite then .float x else .null

/-- A value or `null`. -/
def ofOption {α : Type} (f : α → Json) : Option α → Json
  | none => .null
  | some a => f a

/-! ## Writing -/

/-- A character inside a string. Quotes, backslashes and control characters below
U+0020 are escaped, nothing else is. -/
def escape (c : Char) : List Char :=
  if c = '"' then ['\\', '"']
  else if c = '\\' then ['\\', '\\']
  else if c = '\x08' then ['\\', 'b']
  else if c = '\t' then ['\\', 't']
  else if c = '\n' then ['\\', 'n']
  else if c = '\x0c' then ['\\', 'f']
  else if c = '\r' then ['\\', 'r']
  else if c.toNat < 0x20 then '\\' :: 'u' :: Text.Hex.encode 4 c.toNat
  else [c]

/-- A string with its quotes. -/
def renderString (s : String) : List Char :=
  '"' :: (s.toList.flatMap escape ++ ['"'])

mutual

/-- The compact text of a value. -/
def renderChars : Json → List Char
  | .null => ['n', 'u', 'l', 'l']
  | .bool true => ['t', 'r', 'u', 'e']
  | .bool false => ['f', 'a', 'l', 's', 'e']
  | .int n => (toString n).toList
  | .float x => (Binary64.Layout.json.text x).toList
  | .str s => renderString s
  | .arr items => '[' :: renderItems items
  | .obj members => '{' :: renderMembers members

/-- The items of an array up to the closing bracket. -/
def renderItems : List Json → List Char
  | [] => [']']
  | [v] => renderChars v ++ [']']
  | v :: rest => renderChars v ++ ',' :: renderItems rest

/-- The members of an object up to the closing brace. -/
def renderMembers : List (String × Json) → List Char
  | [] => ['}']
  | [(k, v)] => renderString k ++ ':' :: (renderChars v ++ ['}'])
  | (k, v) :: rest => renderString k ++ ':' :: (renderChars v ++ ',' :: renderMembers rest)

end

/-- The compact text of a value. -/
def render (v : Json) : String := String.ofList v.renderChars

end Json

end SensorGateway
