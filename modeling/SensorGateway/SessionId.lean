/-
# SensorGateway.SessionId -- identifiers of push sessions

A session is known by a 128-bit identifier. Its text is 32 hexadecimal digits in
groups of 8, 4, 4, 4 and 12; reading also takes the digits without dashes, and the
dashed form in braces or behind `urn:uuid:`. Digits are read in either case.
-/
import SensorGateway.Json.Wire
import SensorGateway.Text.Blank

namespace SensorGateway

/-- The identifier of a push session. -/
structure SessionId where
  bits : BitVec 128
deriving DecidableEq, Repr, Inhabited

namespace SessionId

/-- The text of an identifier. -/
def text (id : SessionId) : String :=
  let ds := Text.Hex.encode 32 id.bits.toNat
  String.ofList (ds.take 8 ++ '-' :: ((ds.drop 8).take 4 ++ '-' :: ((ds.drop 12).take 4 ++
    '-' :: ((ds.drop 16).take 4 ++ '-' :: ds.drop 20))))

/-- Thirty-two hexadecimal digits. -/
def ofDigits? (cs : List Char) : Option SessionId :=
  if cs.length = 32 then (Text.Hex.decode? cs).map fun n => ⟨BitVec.ofNat 128 n⟩ else none

/-- The dashed form. -/
def ofDashed? (cs : List Char) : Option SessionId :=
  match Text.splitAt '-' cs with
  | [a, b, c, d, e] =>
    if a.length = 8 ∧ b.length = 4 ∧ c.length = 4 ∧ d.length = 4 ∧ e.length = 12 then
      ofDigits? (a ++ b ++ c ++ d ++ e)
    else none
  | _ => none

/-- The dashed form in braces. -/
def ofBraced? : List Char → Option SessionId
  | '{' :: rest =>
    match rest.reverse with
    | '}' :: inner => ofDashed? inner.reverse
    | _ => none
  | _ => none

/-- The dashed form behind `urn:uuid:` in any case. -/
def ofUrn? (cs : List Char) : Option SessionId :=
  if (cs.take 9).map Char.toLower = "urn:uuid:".toList then ofDashed? (cs.drop 9) else none

/-- The identifier that a text names. -/
def ofText? (s : String) : Option SessionId :=
  let cs := s.toList
  ofDigits? cs <|> ofDashed? cs <|> ofBraced? cs <|> ofUrn? cs

instance : Json.Wire SessionId where
  encode id := .str id.text
  decode r := do
    match ofText? (← Json.Wire.decode r) with
    | some id => return id
    | none => .error .mismatched

end SessionId

end SensorGateway
