/-
# SensorGateway.Binary64.Reading -- doubles from text

A number in text is an optional sign before either a word for infinity or "not a
number", in any case, or decimal digits with an optional point and an optional
exponent. At least one digit stands on some side of the point. The value is rounded
once, so a number past the largest double is infinity.
-/
import SensorGateway.Binary64
import SensorGateway.Text.Blank

namespace SensorGateway.Binary64

/-- A sign in front of a text; no sign counts as plus. -/
def splitSign : List Char → Bool × List Char
  | '+' :: rest => (false, rest)
  | '-' :: rest => (true, rest)
  | cs => (false, cs)

/-- The exponent part of a number, zero when there is none. -/
def exponentPart? : List Char → Option Int
  | [] => some 0
  | c :: rest =>
    if c = 'e' ∨ c = 'E' then
      let (negative, digits) := splitSign rest
      if digits ≠ [] ∧ digits.all Char.isDigit then
        let n : Int := Text.decimalValue digits
        some (if negative then -n else n)
      else none
    else none

/-- A number written with digits, without its sign. -/
def decimal? (negative : Bool) (cs : List Char) : Option Binary64 :=
  let whole := cs.takeWhile Char.isDigit
  let rest := cs.dropWhile Char.isDigit
  let (fraction, rest) := match rest with
    | '.' :: rest => (rest.takeWhile Char.isDigit, rest.dropWhile Char.isDigit)
    | rest => ([], rest)
  if whole = [] ∧ fraction = [] then none
  else do
    let e ← exponentPart? rest
    return ofDecimal negative (Text.decimalValue (whole ++ fraction)) (e - fraction.length)

/-- The number that a text writes, if it writes one. -/
def ofText? (s : String) : Option Binary64 :=
  let (negative, rest) := splitSign s.toList
  let word := (String.ofList rest).toLower
  if word = "inf" ∨ word = "infinity" then some (infinity negative)
  else if word = "nan" then some (withSign negative nan.unsigned)
  else decimal? negative rest

end SensorGateway.Binary64
