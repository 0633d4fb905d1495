/-
# SensorGateway.Json.Number -- the two readings of a JSON number

A number token is either an integer or a floating-point number, and the spelling
decides which: a point, an exponent, a minus sign before a zero, or a size outside
64 bits make it floating-point.

The floating-point reading is the fast one. It collects digits while they fit in 64
bits, drops the rest, and scales by a power of ten in double precision, rounding at
every step. For short numbers this is the nearest double; for long ones it can be a
neighbour of it. A number past the largest double is refused.
-/
import SensorGateway.Binary64.Reading

namespace SensorGateway.Json

/-- A number token. All digits are ASCII digits and `whole` is not empty. -/
structure Number where
  negative : Bool
  /-- The digits before the point. -/
  whole : List Char
  /-- The digits after the point, if there is one. -/
  fraction : Option (List Char)
  /-- The exponent: whether it is negative, and its digits. -/
  exponent : Option (Bool × List Char)
deriving DecidableEq, Repr

/-- What a number token stands for. -/
inductive Number.Value where
  | int (n : Int)
  | float (x : Binary64)
deriving DecidableEq, Repr

namespace Number

/-- The greatest collected significand. -/
def maxSignificand : Nat := UInt64.size - 1

/-- Collects the digits that fit, in order; the first digit that does not fit ends the
collection. The result is the significand and the digits left over. -/
def collect (significand : Nat) : List Char → Nat × List Char
  | [] => (significand, [])
  | c :: rest =>
    let next := 10 * significand + Text.decimalValue [c]
    if next ≤ maxSignificand then collect next rest else (significand, c :: rest)

/-- The significand and its power of ten, before the exponent part. Digits before the point
that do not fit count as zeros; digits after the point that do not fit are dropped. -/
def significand (t : Number) : Nat × Int :=
  let (s, left) := collect 0 t.whole
  match t.fraction with
  | none => (s, left.length)
  | some digits =>
    let (s', left') := collect s digits
    (s', left.length - (digits.length - left'.length : Nat))

/-- The nearest double to a power of ten. -/
def powerOfTen (n : Nat) : Binary64 := Binary64.ofDecimal false 1 n

/-- Scales a double by a power of ten. The powers up to 308 are one step; a smaller scale
takes steps of 308 down, a larger one is refused. -/
def scale (x : Binary64) (exponent : Int) : (fuel : Nat) → Option Binary64
  | 0 => some x
  | fuel + 1 =>
    if exponent.natAbs ≤ 308 then
      if 0 ≤ exponent then
        let y := x.mul (powerOfTen exponent.toNat)
        if y.isFinite then some y else none
      else some (x.div (powerOfTen exponent.natAbs))
    else if x.isZero then some x
    else if 0 ≤ exponent then none
    else scale (x.div (powerOfTen 308)) (exponent + 308) fuel

/-- The greatest exponent that is read as a number. -/
def maxExponent : Nat := 0x7FFFFFFF

/-- The floating-point reading; `none` past the largest double. -/
def float? (t : Number) : Option Binary64 :=
  let (s, e) := t.significand
  let magnitude : Option Binary64 := match t.exponent with
    | none => scale (Binary64.ofInt s) e 8
    | some (down, digits) =>
      let n := Text.decimalValue digits
      if maxExponent < n then
        if s = 0 ∨ down then some Binary64.zero else none
      else scale (Binary64.ofInt s) (if down then e - n else e + n) 8
  magnitude.map fun x => if t.negative then x.neg else x

/-- The integer reading: neither point nor exponent, no minus before zero, and within 64
bits, unsigned or signed. -/
def int? (t : Number) : Option Int :=
  if t.fraction.isSome ∨ t.exponent.isSome then none
  else
    let n := Text.decimalValue t.whole
    if t.negative then
      if n = 0 ∨ 0x8000000000000000 < n then none else some (-n)
    else if n < UInt64.size then some n else none

/-- What the token stands for; `none` for a number past the largest double. -/
def value? (t : Number) : Option Value :=
  match t.int? with
  | some n => some (.int n)
  | none => t.float?.map .float

end Number

end SensorGateway.Json
