/-
# SensorGateway.Binary64 -- double-precision numbers by their bits

A number is its 64 bits in the IEEE 754 binary64 format. `magnitude` reads the bits
as an integer times a power of two, infinity or "not a number"; `ofRatio` is the
one way back: the nearest number to a ratio of integers, ties to the even
significand, infinity past the largest finite number. All conversions are made of
these two, in exact integer arithmetic.
-/

namespace SensorGateway

/-- A double-precision number. -/
structure Binary64 where
  /-- Sign, exponent and fraction, from the highest bit down. -/
  bits : UInt64
deriving DecidableEq, Repr, Inhabited

namespace Binary64

/-- The absolute value that some bits stand for. -/
inductive Magnitude where
  /-- No number. -/
  | nan
  /-- Beyond every finite number. -/
  | infinite
  /-- `significand * 2 ^ exponent`. -/
  | finite (significand : Nat) (exponent : Int)
deriving DecidableEq, Repr

/-- Whether the sign bit is set. -/
def isNegative (x : Binary64) : Bool := Nat.pow 2 63 ≤ x.bits.toNat

/-- The bits without the sign. -/
def unsigned (x : Binary64) : Nat := x.bits.toNat % Nat.pow 2 63

/-- The absolute value of a number. Significands below `2 ^ 52` occur at the least
exponent only. -/
def magnitude (x : Binary64) : Magnitude :=
  let field : Nat := x.unsigned / Nat.pow 2 52
  let fraction : Nat := x.unsigned % Nat.pow 2 52
  if field = 0x7FF then (if fraction = 0 then .infinite else .nan)
  else if field = 0 then .finite fraction (-1074)
  else .finite (Nat.pow 2 52 + fraction) ((field : Int) - 1075)

/-- The number with the given sign and remaining bits. -/
def withSign (negative : Bool) (unsigned : Nat) : Binary64 :=
  ⟨UInt64.ofNat (unsigned + if negative then Nat.pow 2 63 else 0)⟩

/-- The bits of infinity. -/
def infinityBits : Nat := 0x7FF * Nat.pow 2 52

/-- Infinity of either sign. -/
def infinity (negative : Bool) : Binary64 := withSign negative infinityBits

/-- The value that is no number. -/
def nan : Binary64 := ⟨0x7FF8000000000000⟩

/-- Zero without a sign. -/
def zero : Binary64 := ⟨0⟩

/-- Neither infinite nor "not a number". -/
def isFinite (x : Binary64) : Bool := x.unsigned < infinityBits

/-- Whether the value is "not a number". -/
def isNaN (x : Binary64) : Bool := infinityBits < x.unsigned

/-- Whether the value is zero of either sign. -/
def isZero (x : Binary64) : Bool := x.unsigned = 0

/-! ## Rounding -/

/-- The quotient of two numbers rounded to an integer, a half to the even neighbour. -/
def roundQuotient (num den : Nat) : Nat :=
  let q := num / den
  let twice := 2 * (num % den)
  if twice < den ∨ (twice = den ∧ q % 2 = 0) then q else q + 1

/-- The exponent at which a positive ratio has a significand of 53 bits, but no lower
than that of the smallest numbers. -/
def exponentOf (num den : Nat) : Int :=
  let e : Int := (Nat.log2 num : Int) - (Nat.log2 den : Int) - 53
  let below := if 0 ≤ e then num / (den * Nat.pow 2 e.toNat) else num * Nat.pow 2 (-e).toNat / den
  max (if below < Nat.pow 2 53 then e else e + 1) (-1074)

/-- The nearest double to `num / den`, a tie going to the even significand. A ratio that
rounds past the largest finite number gives infinity. -/
def ofRatio (negative : Bool) (num den : Nat) : Binary64 :=
  if num = 0 then withSign negative 0
  else
    let e := exponentOf num den
    let m := if 0 ≤ e then roundQuotient num (den * Nat.pow 2 e.toNat)
      else roundQuotient (num * Nat.pow 2 (-e).toNat) den
    withSign negative (min ((e + 1074).toNat * Nat.pow 2 52 + m) infinityBits)

/-- The nearest double to `significand * 2 ^ exponent`. -/
def ofDyadic (negative : Bool) (significand : Nat) (exponent : Int) : Binary64 :=
  if 0 ≤ exponent then ofRatio negative (significand * Nat.pow 2 exponent.toNat) 1
  else ofRatio negative significand (Nat.pow 2 (-exponent).toNat)

/-- The nearest double to an integer. -/
def ofInt (n : Int) : Binary64 := ofRatio (decide (n < 0)) n.natAbs 1

/-- The nearest double to `digits * 10 ^ exponent`. Exponents far outside the range of
doubles are decided without building the power. -/
def ofDecimal (negative : Bool) (digits : Nat) (exponent : Int) : Binary64 :=
  let top : Int := (Nat.log2 digits : Int) / 3 + exponent
  if digits = 0 then withSign negative 0
  else if 400 < exponent then infinity negative
  else if top < -400 then withSign negative 0
  else if 0 ≤ exponent then ofRatio negative (digits * Nat.pow 10 exponent.toNat) 1
  else ofRatio negative digits (Nat.pow 10 (-exponent).toNat)

/-! ## Products and quotients -/

/-- The sign of a product. -/
def signOfProduct (x y : Binary64) : Bool := x.isNegative != y.isNegative

/-- The product of two finite doubles, rounded once. -/
def mul (x y : Binary64) : Binary64 :=
  match x.magnitude, y.magnitude with
  | .finite m e, .finite n f => ofDyadic (signOfProduct x y) (m * n) (e + f)
  | .nan, _ | _, .nan => nan
  | .infinite, _ => if y.isZero then nan else infinity (signOfProduct x y)
  | _, .infinite => if x.isZero then nan else infinity (signOfProduct x y)

/-- The quotient of two finite doubles, rounded once. -/
def div (x y : Binary64) : Binary64 :=
  match x.magnitude, y.magnitude with
  | .nan, _ | _, .nan => nan
  | .infinite, .infinite => nan
  | .infinite, _ => infinity (signOfProduct x y)
  | _, .infinite => withSign (signOfProduct x y) 0
  | .finite m e, .finite n f =>
    if n = 0 then (if m = 0 then nan else infinity (signOfProduct x y))
    else if f ≤ e then ofRatio (signOfProduct x y) (m * Nat.pow 2 (e - f).toNat) n
    else ofRatio (signOfProduct x y) m (n * Nat.pow 2 (f - e).toNat)

/-- The number with the opposite sign. -/
def neg (x : Binary64) : Binary64 := withSign (!x.isNegative) x.unsigned

end Binary64

end SensorGateway
