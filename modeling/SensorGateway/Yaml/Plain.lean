/-
# SensorGateway.Yaml.Plain -- what plain scalars mean

A plain scalar may write nothing, a truth value, an integer or a floating-point
number; anything else is text. Integers are decimal, or hexadecimal, octal or binary
behind `0x`, `0o` or `0b`. Digits behind a leading zero are no number.
-/
import SensorGateway.Binary64.Reading
import SensorGateway.Text.Hex

namespace SensorGateway.Yaml.Plain

/-- Whether a text writes nothing. -/
def isNull (s : String) : Bool := ["~", "null", "Null", "NULL"].contains s

/-- The truth value that a text writes. -/
def bool? (s : String) : Option Bool :=
  if ["true", "True", "TRUE"].contains s then some true
  else if ["false", "False", "FALSE"].contains s then some false
  else none

/-- The number that digits of a base write; there is at least one. -/
def digits? (base : Nat) (cs : List Char) : Option Nat :=
  if cs = [] then none
  else cs.foldl (fun acc c => do
    let d ← Text.Hex.digit? c
    if d < base then return base * (← acc) + d else none) (some 0)

/-- Whether a text has only digits behind a leading zero, after its sign. -/
def isZeroPadded (cs : List Char) : Bool :=
  match (Binary64.splitSign cs).2 with
  | '0' :: d :: rest => (d :: rest).all Char.isDigit
  | _ => false

/-- The number behind the sign of an integer. -/
def magnitude? (cs : List Char) : Option Nat :=
  match cs with
  | '0' :: 'x' :: rest => digits? 16 rest
  | '0' :: 'o' :: rest => digits? 8 rest
  | '0' :: 'b' :: rest => digits? 2 rest
  | cs => if isZeroPadded cs then none else digits? 10 cs

/-- The number that a text without a minus sign writes. -/
def natural? (s : String) : Option Nat :=
  match s.toList with
  | '+' :: rest => magnitude? rest
  | cs => magnitude? cs

/-- The integer that a text writes. -/
def integer? (s : String) : Option Int :=
  match s.toList with
  | '-' :: rest => (magnitude? rest).map fun n => -(n : Int)
  | _ => (natural? s).map Int.ofNat

/-- The words for the special doubles. -/
def floatWords : List (String × Binary64) :=
  [(".inf", Binary64.infinity false), (".Inf", Binary64.infinity false),
   (".INF", Binary64.infinity false), ("+.inf", Binary64.infinity false),
   ("+.Inf", Binary64.infinity false), ("+.INF", Binary64.infinity false),
   ("-.inf", Binary64.infinity true), ("-.Inf", Binary64.infinity true),
   ("-.INF", Binary64.infinity true), (".nan", Binary64.nan), (".NaN", Binary64.nan),
   (".NAN", Binary64.nan)]

/-- The double that a text writes: one of the special words, or a finite number. -/
def float? (s : String) : Option Binary64 :=
  match floatWords.lookup s with
  | some x => some x
  | none => (Binary64.ofText? s).filter Binary64.isFinite

/-- What a plain scalar means. -/
inductive Meaning where
  | null
  | bool (b : Bool)
  /-- An integer; it fits in 128 bits, signed or unsigned. -/
  | int (n : Int)
  | float (x : Binary64)
  | text (s : String)
deriving DecidableEq, Repr

/-- The integer that a text writes, if it fits in 128 bits. -/
def wideInteger? (s : String) : Option Int :=
  (integer? s).filter fun n => -(Nat.pow 2 127 : Int) ≤ n && n < Nat.pow 2 128

/-- What a plain scalar means. -/
def meaning (s : String) : Meaning :=
  if s = "" || isNull s then .null
  else
    match bool? s, wideInteger? s with
    | some b, _ => .bool b
    | none, some n => .int n
    | none, none =>
      match if isZeroPadded s.toList then none else float? s with
      | some x => .float x
      | none => .text s

end SensorGateway.Yaml.Plain
