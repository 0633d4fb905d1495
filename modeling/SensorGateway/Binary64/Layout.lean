/-
# SensorGateway.Binary64.Layout -- how a double is written

A layout says which decimals are written with an exponent and how a whole number is
marked. The gateway has two: one for JSON text and one for everything that people
read (tables, messages, hypertext).
-/
import SensorGateway.Binary64.Shortest

namespace SensorGateway.Binary64

/-- The decisions that turn the shortest decimal into text. -/
structure Layout where
  /-- The least and the greatest exponent of the leading digit that are written without an
  exponent part; `none` writes every number so. -/
  positional : Option (Int × Int)
  /-- What follows a whole number that has no exponent part. -/
  wholeMark : String
  /-- Which of two equally near decimals is taken. -/
  tie : TieRule

/-- JSON text: plain from `0.00001` below `1e+16`, whole numbers end in `.0`, the
exponent has its sign. -/
def Layout.json : Layout := ⟨some (-5, 15), ".0", .toEven⟩

/-- Tables and messages: never an exponent, nothing after a whole number. -/
def Layout.display : Layout := ⟨none, "", .up⟩

/-- A decimal with its point in place. `lead` is the exponent of the leading digit. -/
def positionalText (wholeMark : String) (digits : List Char) (lead : Int) : String :=
  if lead < 0 then
    String.ofList ('0' :: '.' :: List.replicate (-lead - 1).toNat '0' ++ digits)
  else
    let whole := lead.toNat + 1
    if digits.length ≤ whole then
      String.ofList (digits ++ List.replicate (whole - digits.length) '0') ++ wholeMark
    else String.ofList (digits.take whole ++ '.' :: digits.drop whole)

/-- A decimal with an exponent part. -/
def scientificText (digits : List Char) (lead : Int) : String :=
  let mantissa := match digits with
    | [] => []
    | [d] => [d]
    | d :: rest => d :: '.' :: rest
  String.ofList mantissa ++ (if lead < 0 then "e-" else "e+") ++ toString lead.natAbs

/-- A finite double as text. -/
def Layout.finiteText (l : Layout) (negative : Bool) (significand : Nat) (exponent : Int) :
    String :=
  let d := shortest l.tie significand exponent
  let digits := Nat.toDigits 10 d.digits
  let lead : Int := d.exponent + digits.length - 1
  let plain := match l.positional with
    | none => true
    | some (low, high) => low ≤ lead && lead ≤ high
  (if negative then "-" else "") ++
    (if plain then positionalText l.wholeMark digits lead else scientificText digits lead)

/-- Any double as text. -/
def Layout.text (l : Layout) (x : Binary64) : String :=
  match x.magnitude with
  | .nan => "NaN"
  | .infinite => if x.isNegative then "-inf" else "inf"
  | .finite m e => l.finiteText x.isNegative m e

end SensorGateway.Binary64
