/-
# SensorGateway.Instant.Reading -- instants from text

The text is a date, a separator, a time and an offset from universal time. The
reading is lenient in its spacing: blanks may stand before every number, before the
colons, the dashes and the offset, and around the whole. Fields may have fewer digits
than two; a year has up to four, or any number after a sign. Second 60 is a leap
second. Digits of the fraction past the ninth are dropped.
-/
import SensorGateway.Instant.Text

namespace SensorGateway.Instant

/-- Between `1` and `limit` digits as a number, and what follows. -/
def number? (limit : Nat) (cs : List Char) : Option (Nat × List Char) :=
  let ds := (cs.takeWhile Char.isDigit).take limit
  if ds = [] then none else some (Text.decimalValue ds, cs.drop ds.length)

/-- A number field behind optional blanks, within bounds. -/
def field? (low high : Nat) (cs : List Char) : Option (Nat × List Char) := do
  let (n, rest) ← number? 2 (Text.trimStart cs)
  if low ≤ n ∧ n ≤ high then return (n, rest) else none

/-- A mark behind optional blanks. -/
def mark? (c : Char) (cs : List Char) : Option (List Char) :=
  match Text.trimStart cs with
  | d :: rest => if d = c then some rest else none
  | [] => none

/-- A year: up to four digits, or any number of them after a sign. -/
def year? (cs : List Char) : Option (Int × List Char) :=
  match Text.trimStart cs with
  | '-' :: rest => (number? rest.length rest).map fun r => (-(r.1 : Int), r.2)
  | '+' :: rest => (number? rest.length rest).map fun r => ((r.1 : Int), r.2)
  | rest => (number? 4 rest).map fun r => ((r.1 : Int), r.2)

/-- A fraction of a second in nanoseconds; nothing there is zero. -/
def fraction? : List Char → Option (Nat × List Char)
  | '.' :: rest =>
    let ds := rest.takeWhile Char.isDigit
    if ds = [] then none
    else
      let kept := ds.take 9
      some (Text.decimalValue kept * Nat.pow 10 (9 - kept.length), rest.drop ds.length)
  | cs => some (0, cs)

/-- Two digits. -/
def pair? : List Char → Option (Nat × List Char)
  | a :: b :: rest =>
    if a.isDigit ∧ b.isDigit then some (Text.decimalValue [a, b], rest) else none
  | _ => none

/-- The sign of an offset; the typographic minus counts as a minus. -/
def offsetSign? : List Char → Option (Int × List Char)
  | '+' :: rest => some (1, rest)
  | '-' :: rest => some (-1, rest)
  | '−' :: rest => some (-1, rest)
  | _ => none

/-- Hours and minutes of an offset as seconds. Any colons and blanks may stand between. -/
def offsetDigits? (cs : List Char) : Option (Int × List Char) := do
  let (sign, rest) ← offsetSign? cs
  let (hours, rest) ← pair? rest
  let (minutes, rest) ← pair? (rest.dropWhile fun c => c = ':' || Text.isBlank c)
  if minutes ≤ 59 ∧ hours ≤ 23 then return (sign * (hours * 3600 + minutes * 60 : Nat), rest)
  else none

/-- An offset from universal time in seconds. -/
def offset? (cs : List Char) : Option (Int × List Char) :=
  match Text.trimStart cs with
  | 'Z' :: rest => some (0, rest)
  | 'z' :: rest => some (0, rest)
  | u :: t :: c :: rest =>
    if u.toLower = 'u' ∧ t.toLower = 't' ∧ c.toLower = 'c' then some (0, rest)
    else offsetDigits? (u :: t :: c :: rest)
  | rest => offsetDigits? rest

/-- The instant that date, time of day and offset name. -/
def ofParts? (date : Date) (hour minute second nanos : Nat) (offset : Int) : Option Instant :=
  let leap := second = 60
  let local' : Int := date.toDays * 86400 +
    (hour * 3600 + minute * 60 + (if leap then 59 else second) : Nat)
  let t : Instant := ⟨local' - offset, if leap then nanos + 1000000000 else nanos⟩
  let inRange := fun (d : Date) => firstYear ≤ d.year && d.year ≤ lastYear
  if date.isValid && inRange date && inRange t.date then some t else none

/-- The instant that a text names. -/
def ofChars? (cs : List Char) : Option Instant := do
  let (year, cs) ← year? cs
  let cs ← mark? '-' cs
  let (month, cs) ← field? 1 12 cs
  let cs ← mark? '-' cs
  let (day, cs) ← field? 1 31 cs
  let cs ← match cs with
    | c :: rest => if c = 'T' ∨ c = 't' ∨ c = ' ' then some rest else none
    | [] => none
  let (hour, cs) ← field? 0 23 cs
  let cs ← mark? ':' cs
  let (minute, cs) ← field? 0 59 cs
  let cs ← mark? ':' cs
  let (second, cs) ← field? 0 60 cs
  let (nanos, cs) ← fraction? cs
  let (offset, cs) ← offset? cs
  if Text.trimStart cs = [] then ofParts? ⟨year, month, day⟩ hour minute second nanos offset
  else none

/-- The instant that a text names. -/
def ofText? (s : String) : Option Instant := ofChars? s.toList

end SensorGateway.Instant
