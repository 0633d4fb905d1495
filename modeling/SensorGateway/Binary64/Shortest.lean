/-
# SensorGateway.Binary64.Shortest -- the fewest digits that read back

The reals that round to a double form an interval around it; its ends belong to it
exactly when the significand is even. `shortest` looks for a decimal with one digit,
then two, and so on: on the grid of decimals with that many digits only the two
neighbours of the value can be in the interval, the first grid with a hit gives the
answer, and of two hits the nearer one counts. Everything is integer arithmetic on
one common scale.
-/
import SensorGateway.Binary64

namespace SensorGateway.Binary64

/-- Which of two equally near decimals is written. -/
inductive TieRule where
  /-- The one whose last digit is even. -/
  | toEven
  /-- The one further from zero. -/
  | up
deriving DecidableEq, Repr

/-- A decimal: `digits * 10 ^ exponent`. -/
structure Decimal where
  /-- All significant digits as one number. -/
  digits : Nat
  /-- The power of ten of the last digit. -/
  exponent : Int
deriving DecidableEq, Repr

/-- The interval of reals that round to a double. All three numbers are numerators over
the common denominator `den`. -/
structure Interval where
  low : Nat
  value : Nat
  high : Nat
  den : Nat
  /-- Whether both ends belong to the interval. -/
  closed : Bool
deriving Repr

/-- The interval of a positive double. Below a power of two the neighbour is only half
as far, except at the least exponent. -/
def interval (significand : Nat) (exponent : Int) : Interval :=
  let scale := if 0 ≤ exponent then Nat.pow 2 exponent.toNat else 1
  let den := if 0 ≤ exponent then 4 else 4 * Nat.pow 2 (-exponent).toNat
  let below := if significand = Nat.pow 2 52 ∧ -1074 < exponent then 1 else 2
  { low := (4 * significand - below) * scale
    value := 4 * significand * scale
    high := (4 * significand + 2) * scale
    den := den
    closed := significand % 2 = 0 }

/-- Whether `n * num / den` lies in the interval. -/
def Interval.contains (i : Interval) (n : Nat) : Bool :=
  if i.closed then i.low ≤ n && n ≤ i.high else i.low < n && n < i.high

/-- The decimal on the grid `10 ^ exponent` that stands for the interval, if one of the
two neighbours of the value does. -/
def Interval.onGrid? (i : Interval) (tie : TieRule) (exponent : Int) : Option Decimal :=
  -- Bring the grid step and the interval to one denominator.
  let step := if 0 ≤ exponent then i.den * Nat.pow 10 exponent.toNat else i.den
  let up := if 0 ≤ exponent then 1 else Nat.pow 10 (-exponent).toNat
  let j : Interval := ⟨i.low * up, i.value * up, i.high * up, i.den, i.closed⟩
  let n := j.value / step
  let below := 0 < n && j.contains (n * step)
  let above := j.contains ((n + 1) * step)
  let fromBelow := j.value - n * step
  let fromAbove := (n + 1) * step - j.value
  let pickBelow := below &&
    (!above || fromBelow < fromAbove || (fromBelow = fromAbove && tie = .toEven && n % 2 = 0))
  if pickBelow then some ⟨n, exponent⟩
  else if above then some ⟨n + 1, exponent⟩
  else none

/-- The power of ten of the leading digit of `value / den`. -/
def leadingExponent (value den : Nat) : Int :=
  -- The decimal lengths fix the exponent up to one.
  let guess : Int := (Nat.toDigits 10 value).length - (Nat.toDigits 10 den).length
  let reached := if 0 ≤ guess then den * Nat.pow 10 guess.toNat ≤ value
    else den ≤ value * Nat.pow 10 (-guess).toNat
  if reached then guess else guess - 1

/-- Tries grids with one more digit each time; `fuel` is the greatest number of digits. -/
def Interval.search (i : Interval) (tie : TieRule) (exponent : Int) : (fuel : Nat) → Decimal
  | 0 => ⟨0, 0⟩
  | fuel + 1 =>
    match i.onGrid? tie exponent with
    | some d => d
    | none => i.search tie (exponent - 1) fuel

/-- A decimal without zeros at its end; `fuel` bounds their number. -/
def Decimal.strip (d : Decimal) : (fuel : Nat) → Decimal
  | 0 => d
  | fuel + 1 =>
    if d.digits ≠ 0 ∧ d.digits % 10 = 0 then
      Decimal.strip ⟨d.digits / 10, d.exponent + 1⟩ fuel
    else d

/-- The shortest decimal that rounds to `significand * 2 ^ exponent`, and of the shortest
the nearest. Seventeen digits are always enough. -/
def shortest (tie : TieRule) (significand : Nat) (exponent : Int) : Decimal :=
  if significand = 0 then ⟨0, 0⟩
  else
    let i := interval significand exponent
    (i.search tie (leadingExponent i.value i.den) 20).strip 20

end SensorGateway.Binary64
