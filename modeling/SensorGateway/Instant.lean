/-
# SensorGateway.Instant -- moments in universal time

An instant counts seconds from the start of 1970 without leap seconds, and
nanoseconds within the second. A leap second is the continuation of the last second
of a minute: its nanoseconds go on past one thousand million. Instants are ordered
by second, then by nanosecond.

Dates are those of the proleptic Gregorian calendar. `Date.toDays` and
`Date.ofDays` go between a date and its day number.
-/

namespace SensorGateway

/-- A date of the proleptic Gregorian calendar; the year before 1 is 0. -/
structure Date where
  year : Int
  month : Nat
  day : Nat
deriving DecidableEq, Repr

namespace Date

/-- Whether a year has a 29th of February. -/
def isLeapYear (year : Int) : Bool :=
  year % 4 = 0 && (year % 100 ≠ 0 || year % 400 = 0)

/-- The number of days in a month. -/
def daysInMonth (year : Int) (month : Nat) : Nat :=
  if month = 2 then (if isLeapYear year then 29 else 28)
  else if month = 4 ∨ month = 6 ∨ month = 9 ∨ month = 11 then 30
  else 31

/-- Whether month and day exist. -/
def isValid (d : Date) : Bool :=
  1 ≤ d.month && d.month ≤ 12 && 1 ≤ d.day && d.day ≤ daysInMonth d.year d.month

/-- Days from 1970-01-01 to a date. The year is taken to begin in March, so that the leap
day is its last day. -/
def toDays (d : Date) : Int :=
  let year : Int := if d.month ≤ 2 then d.year - 1 else d.year
  let era := year / 400
  let yearOfEra := year % 400
  let month : Int := (d.month + 9) % 12
  let dayOfYear := (153 * month + 2) / 5 + d.day - 1
  let dayOfEra := yearOfEra * 365 + yearOfEra / 4 - yearOfEra / 100 + dayOfYear
  era * 146097 + dayOfEra - 719468

/-- The date of a day number. -/
def ofDays (days : Int) : Date :=
  let z := days + 719468
  let era := z / 146097
  let dayOfEra := z % 146097
  let yearOfEra := (dayOfEra - dayOfEra / 1460 + dayOfEra / 36524 - dayOfEra / 146096) / 365
  let dayOfYear := dayOfEra - (365 * yearOfEra + yearOfEra / 4 - yearOfEra / 100)
  let shifted := (5 * dayOfYear + 2) / 153
  let day := dayOfYear - (153 * shifted + 2) / 5 + 1
  let month := if shifted < 10 then shifted + 3 else shifted - 9
  let year := yearOfEra + era * 400
  ⟨if month ≤ 2 then year + 1 else year, month.toNat, day.toNat⟩

end Date

/-- A moment in universal time. -/
structure Instant where
  /-- Seconds since the start of 1970, leap seconds not counted. -/
  seconds : Int
  /-- Nanoseconds since the start of the second; those of a leap second follow the last
  second of a minute. -/
  nanos : Nat
deriving DecidableEq, Repr, Inhabited

namespace Instant

/-- Earlier second first, then fewer nanoseconds. -/
instance : LT Instant :=
  ⟨fun a b => a.seconds < b.seconds ∨ (a.seconds = b.seconds ∧ a.nanos < b.nanos)⟩

instance : LE Instant := ⟨fun a b => ¬ b < a⟩

instance (a b : Instant) : Decidable (a < b) :=
  inferInstanceAs (Decidable (a.seconds < b.seconds ∨ (a.seconds = b.seconds ∧ a.nanos < b.nanos)))

instance (a b : Instant) : Decidable (a ≤ b) := inferInstanceAs (Decidable (¬ b < a))

/-- The later of two instants, the second one when neither is earlier. -/
def later (a b : Instant) : Instant := if b < a then a else b

theorem lt_iff {a b : Instant} :
    a < b ↔ a.seconds < b.seconds ∨ (a.seconds = b.seconds ∧ a.nanos < b.nanos) := Iff.rfl

theorem le_iff {a b : Instant} : a ≤ b ↔ ¬ b < a := Iff.rfl

theorem le_refl (a : Instant) : a ≤ a := by
  rw [le_iff, lt_iff]
  omega

theorem le_trans {a b c : Instant} (hab : a ≤ b) (hbc : b ≤ c) : a ≤ c := by
  rw [le_iff, lt_iff] at *
  omega

theorem le_later_left (a b : Instant) : a ≤ a.later b := by
  unfold later
  split
  · exact le_refl a
  · next h => exact h

theorem le_later_right (a b : Instant) : b ≤ a.later b := by
  unfold later
  split
  · next h => rw [le_iff, lt_iff] at *; omega
  · exact le_refl b

theorem later_le {a b c : Instant} (ha : a ≤ c) (hb : b ≤ c) : a.later b ≤ c := by
  unfold later
  split
  · exact ha
  · exact hb

theorem later_assoc (a b c : Instant) : (a.later b).later c = a.later (b.later c) := by
  unfold later
  by_cases hab : b < a <;> by_cases hbc : c < b <;> by_cases hac : c < a <;>
    simp only [hab, hbc, hac, if_true, if_false]
  all_goals rw [lt_iff] at *; omega

/-- The date of an instant. -/
def date (t : Instant) : Date := Date.ofDays (t.seconds / 86400)

/-- Seconds since midnight. -/
def secondOfDay (t : Instant) : Nat := (t.seconds % 86400).toNat

/-- Whether the instant lies in a leap second. -/
def isLeap (t : Instant) : Bool := 1000000000 ≤ t.nanos

/-- The years that instants are read and written in. -/
def firstYear : Int := -262143

/-- See `firstYear`. -/
def lastYear : Int := 262142

end Instant

end SensorGateway
