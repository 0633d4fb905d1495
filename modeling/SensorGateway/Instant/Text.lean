/-
# SensorGateway.Instant.Text -- instants in exports and messages

An instant is written as date, `T`, time and `Z`. The fraction has the fewest of 0, 3,
6 and 9 digits that lose nothing, and a leap second is second 60. Years outside 0 to
9999 have a sign.
-/
import SensorGateway.Instant
import SensorGateway.Text.Blank

namespace SensorGateway.Instant

/-- A year: four digits, with a sign when it is negative or needs more than four. -/
def yearText (year : Int) : String :=
  if 0 ≤ year ∧ year ≤ 9999 then Text.padded 4 year.toNat
  else (if year < 0 then "-" else "+") ++ Text.padded 4 year.natAbs

/-- The fraction of a second, with its point. -/
def fractionText (nanos : Nat) : String :=
  if nanos = 0 then ""
  else if nanos % 1000000 = 0 then "." ++ Text.padded 3 (nanos / 1000000)
  else if nanos % 1000 = 0 then "." ++ Text.padded 6 (nanos / 1000)
  else "." ++ Text.padded 9 nanos

/-- The text of an instant. -/
def text (t : Instant) : String :=
  let d := t.date
  let s := t.secondOfDay
  let second := if t.isLeap then s % 60 + 1 else s % 60
  let nanos := if t.isLeap then t.nanos - 1000000000 else t.nanos
  yearText d.year ++ "-" ++ Text.padded 2 d.month ++ "-" ++ Text.padded 2 d.day ++ "T" ++
    Text.padded 2 (s / 3600) ++ ":" ++ Text.padded 2 (s / 60 % 60) ++ ":" ++
    Text.padded 2 second ++ fractionText nanos ++ "Z"

/-- Date and time in digits, for the names of files. -/
def stamp (t : Instant) : String :=
  let d := t.date
  let s := t.secondOfDay
  let second := if t.isLeap then s % 60 + 1 else s % 60
  yearText d.year ++ Text.padded 2 d.month ++ Text.padded 2 d.day ++ "-" ++
    Text.padded 2 (s / 3600) ++ Text.padded 2 (s / 60 % 60) ++ Text.padded 2 second

end SensorGateway.Instant
