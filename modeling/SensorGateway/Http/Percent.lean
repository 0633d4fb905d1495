/-
# SensorGateway.Http.Percent -- escaped bytes in URLs

A percent sign with two hexadecimal digits stands for a byte; any other percent sign
stands for itself. A part of a path has to be well-formed text after that, a part of a
query is made so.
-/
import SensorGateway.Text.Hex
import SensorGateway.Text.Utf8

namespace SensorGateway.Http.Percent

/-- The bytes of a text with escapes. -/
def bytes : List Char → List UInt8
  | [] => []
  | '%' :: a :: b :: rest =>
    match Text.Hex.decode? [a, b] with
    | some n => UInt8.ofNat n :: bytes rest
    | none => Text.Utf8.encode "%" ++ bytes (a :: b :: rest)
  | c :: rest => Text.Utf8.encode (String.singleton c) ++ bytes rest

/-- A part of a path without escapes, if it is well-formed text then. -/
def decode? (s : String) : Option String := Text.Utf8.decode? (bytes s.toList)

/-- A part of a query without escapes. A plus sign is a space there. -/
def decodeForm (cs : List Char) : String :=
  Text.Utf8.decodeLenient (bytes (cs.map fun c => if c = '+' then ' ' else c))

end SensorGateway.Http.Percent
