/-
# SensorGateway.Proofs.Instant.Calendar -- dates and day numbers

A day number has just one date, which exists in the calendar (`Date.isValid_ofDays`), and the date
gives the day number back (`Date.toDays_ofDays`). Later days have later dates
(`Date.ofDays_precedes`).

The calendar repeats every four hundred years, so only the days of one such era matter. The year
of a day is a quotient that never goes down from one day to the next
(`Era.quotient_mono`); so it is right for all days of a year as soon as it is right for the
first and the last one, and those are few enough to be looked at one by one.
-/
import SensorGateway.Instant

namespace SensorGateway

/-! ## Days of an era -/

namespace Era

/-- A day of an era without the leap days before it, as far as a division by 365 can tell. -/
def quotient (day : Nat) : Nat := day - day / 1460 + day / 36524 - day / 146096

/-- The year of a day, which begins in March. -/
def yearOf (day : Nat) : Nat := quotient day / 365

/-- The first day of a year. -/
def firstDay (year : Nat) : Nat := 365 * year + year / 4 - year / 100

theorem quotient_le_succ (day : Nat) : quotient day ≤ quotient (day + 1) := by
  unfold quotient
  omega

theorem quotient_mono {a b : Nat} (h : a ≤ b) : quotient a ≤ quotient b := by
  induction h with
  | refl => exact Nat.le_refl _
  | step _ ih => exact Nat.le_trans ih (quotient_le_succ _)

theorem yearOf_mono {a b : Nat} (h : a ≤ b) : yearOf a ≤ yearOf b :=
  Nat.div_le_div_right (quotient_mono h)

theorem yearOf_firstDay : ∀ y < 400, yearOf (firstDay y) = y := by decide +kernel

theorem yearOf_lastDay : ∀ y < 399, yearOf (firstDay (y + 1) - 1) = y := by decide +kernel

/-- The year of a day is the one that the day lies in. -/
theorem yearOf_spec {day : Nat} (h : day < 146097) :
    yearOf day < 400 ∧ firstDay (yearOf day) ≤ day ∧
      (yearOf day < 399 → day < firstDay (yearOf day + 1)) := by
  have hlast : yearOf 146096 = 399 := by decide
  have hlt : yearOf day < 400 := by
    have hle := yearOf_mono (Nat.le_of_lt_succ h)
    omega
  refine ⟨hlt, Nat.le_of_not_lt fun hbefore => ?_, fun hyear => Nat.lt_of_not_le fun hbehind => ?_⟩
  · -- a day before the first one belongs to an earlier year
    obtain ⟨y, hy⟩ : ∃ y, yearOf day = y + 1 := by
      refine Nat.exists_eq_succ_of_ne_zero fun hzero => ?_
      rw [hzero] at hbefore
      exact absurd hbefore (Nat.not_lt_zero _)
    rw [hy] at hbefore hlt
    have hle := yearOf_mono (Nat.le_sub_one_of_lt hbefore)
    rw [yearOf_lastDay y (by omega)] at hle
    omega
  · have hle := yearOf_mono hbehind
    rw [yearOf_firstDay _ (by omega)] at hle
    omega

/-- The day of the year, counted from zero. The last one is the leap day. -/
theorem day_lt {day : Nat} (h : day < 146097) :
    day - firstDay (yearOf day) < 365 ∨
      (day - firstDay (yearOf day) = 365 ∧ (yearOf day + 1) % 4 = 0 ∧
        ((yearOf day + 1) % 100 = 0 → yearOf day = 399)) := by
  obtain ⟨hlt, hfirst, hnext⟩ := yearOf_spec h
  generalize yearOf day = y at hlt hfirst hnext
  unfold firstDay at hfirst hnext ⊢
  by_cases hy : y < 399
  · have hbefore := hnext hy
    have hfour : (y + 1) / 4 = y / 4 ∨ ((y + 1) / 4 = y / 4 + 1 ∧ (y + 1) % 4 = 0) := by omega
    have hhundred : ((y + 1) / 100 = y / 100 ∧ (y + 1) % 100 ≠ 0) ∨
        (y + 1) / 100 = y / 100 + 1 := by omega
    rcases hfour with hfour | hfour <;> rcases hhundred with hhundred | hhundred <;> omega
  · omega

end Era

/-! ## Dates -/

namespace Date

/-- The date of a day of a year that begins in March. -/
def ofYear (year : Int) (day : Nat) : Date :=
  let shifted := (5 * day + 2) / 153
  let dayOfMonth := day - (153 * shifted + 2) / 5 + 1
  if shifted < 10 then ⟨year, shifted + 3, dayOfMonth⟩ else ⟨year + 1, shifted - 9, dayOfMonth⟩

/-- The day number of the first of March. -/
def firstOfMarch (year : Int) : Int :=
  year / 400 * 146097 + (year % 400 * 365 + year % 400 / 4 - year % 400 / 100) - 719468

/-- The day number of a date is found from the first of March before it. -/
theorem toDays_ofYear (year : Int) {day : Nat} (h : day ≤ 365) :
    (ofYear year day).toDays = firstOfMarch year + day := by
  unfold ofYear firstOfMarch
  dsimp only
  generalize hs : (5 * day + 2) / 153 = s
  split
  · have hmonth : ¬ s + 3 ≤ 2 := by omega
    have hback : ((s + 3 : Nat) + 9 : Int) % 12 = s := by omega
    simp only [toDays, if_neg hmonth, hback]
    omega
  · have hmonth : s - 9 ≤ 2 := by omega
    have hback : ((s - 9 : Nat) + 9 : Int) % 12 = s := by omega
    simp only [toDays, if_pos hmonth, hback, Int.add_sub_cancel]
    omega

/-- Month and day exist, if the year has a leap day where one is asked for. -/
theorem isValid_ofYear {year : Int} {day : Nat} (h : day ≤ 365)
    (hleap : day = 365 → isLeapYear (year + 1) = true) : (ofYear year day).isValid = true := by
  unfold ofYear
  dsimp only
  generalize hs : (5 * day + 2) / 153 = s
  obtain ⟨offset, hoffset⟩ : ∃ offset, day - (153 * s + 2) / 5 = offset := ⟨_, rfl⟩
  rw [hoffset]
  split
  · next hten =>
    have hlast : offset + 1 ≤ daysInMonth year (s + 3) := by
      unfold daysInMonth
      rw [if_neg (by omega)]
      split <;> omega
    simp only [isValid, Bool.and_eq_true, decide_eq_true_eq]
    omega
  · have hlast : offset + 1 ≤ daysInMonth (year + 1) (s - 9) := by
      unfold daysInMonth
      by_cases hjanuary : s = 10
      · rw [if_neg (by omega), if_neg (by omega)]
        omega
      · rw [if_pos (by omega)]
        by_cases hday : day = 365
        · rw [if_pos (hleap hday)]
          omega
        · split <;> omega
    simp only [isValid, Bool.and_eq_true, decide_eq_true_eq]
    omega

/-- A day number is a day of a year that begins in March, and its date is the date of that day. -/
theorem exists_ofDays_eq (days : Int) :
    ∃ (year : Int) (day : Nat), day ≤ 365 ∧ (day = 365 → isLeapYear (year + 1) = true) ∧
      days = firstOfMarch year + day ∧ ofDays days = ofYear year day := by
  obtain ⟨n, hn⟩ : ∃ n : Nat, (days + 719468) % 146097 = n :=
    ⟨((days + 719468) % 146097).toNat, by omega⟩
  obtain ⟨era, hera⟩ : ∃ era, (days + 719468) / 146097 = era := ⟨_, rfl⟩
  have hlt : n < 146097 := by omega
  obtain ⟨hyear, hfirst, -⟩ := Era.yearOf_spec hlt
  have hday := Era.day_lt hlt
  have hyearOf : ((n : Int) - n / 1460 + n / 36524 - n / 146096) / 365 = (Era.yearOf n : Nat) := by
    unfold Era.yearOf Era.quotient
    omega
  obtain ⟨y, hy⟩ : ∃ y, Era.yearOf n = y := ⟨_, rfl⟩
  rw [hy] at hyear hfirst hday hyearOf
  obtain ⟨d, hd⟩ : ∃ d, n - Era.firstDay y = d := ⟨_, rfl⟩
  rw [hd] at hday
  have hdayOf : (n : Int) - (365 * (y : Nat) + (y : Nat) / 4 - (y : Nat) / 100) = d := by
    unfold Era.firstDay at hfirst hd
    omega
  refine ⟨y + era * 400, d, by omega, fun hlast => ?_, ?_, ?_⟩
  · simp only [isLeapYear, Bool.and_eq_true, Bool.or_eq_true, decide_eq_true_eq]
    omega
  · have hquot : ((y : Int) + era * 400) / 400 = era := by omega
    have hrem : ((y : Int) + era * 400) % 400 = y := by omega
    unfold firstOfMarch
    rw [hquot, hrem]
    omega
  · simp only [ofDays, ofYear, hn, hera, hyearOf, hdayOf]
    obtain ⟨s, hs⟩ : ∃ s, (5 * d + 2) / 153 = s := ⟨_, rfl⟩
    have hshifted : (5 * (d : Int) + 2) / 153 = (s : Nat) := by omega
    rw [hs, hshifted]
    by_cases hten : s < 10
    · have hten' : (s : Int) < 10 := by omega
      have hmonth : ¬ (s : Int) + 3 ≤ 2 := by omega
      simp only [if_pos hten, if_pos hten', if_neg hmonth, Date.mk.injEq]
      exact ⟨trivial, by omega, by omega⟩
    · have hten' : ¬ (s : Int) < 10 := by omega
      have hmonth : (s : Int) - 9 ≤ 2 := by omega
      simp only [if_neg hten, if_neg hten', if_pos hmonth, Date.mk.injEq]
      exact ⟨trivial, by omega, by omega⟩

/-- The date of a day number gives the day number back. -/
theorem toDays_ofDays (days : Int) : (ofDays days).toDays = days := by
  obtain ⟨year, day, hday, -, hdays, hdate⟩ := exists_ofDays_eq days
  rw [hdate, toDays_ofYear year hday, hdays]

/-- The date of a day number exists. -/
theorem isValid_ofDays (days : Int) : (ofDays days).isValid = true := by
  obtain ⟨year, day, hday, hleap, -, hdate⟩ := exists_ofDays_eq days
  rw [hdate]
  exact isValid_ofYear hday hleap

/-- The month and the day of a date have at most two digits. -/
theorem ofDays_bounds (days : Int) :
    (1 ≤ (ofDays days).month ∧ (ofDays days).month ≤ 12) ∧
      1 ≤ (ofDays days).day ∧ (ofDays days).day ≤ 31 := by
  have hvalid := isValid_ofDays days
  simp only [isValid, Bool.and_eq_true, decide_eq_true_eq] at hvalid
  obtain ⟨⟨hmonth, hfirst⟩, hlast⟩ := hvalid
  have hdays : daysInMonth (ofDays days).year (ofDays days).month ≤ 31 := by
    unfold daysInMonth
    split
    · split <;> decide
    · split <;> decide
  exact ⟨hmonth, hfirst, Nat.le_trans hlast hdays⟩

/-! ## Order -/

/-- An earlier year, or an earlier month of it, or an earlier day of that. -/
def Precedes (d e : Date) : Prop :=
  d.year < e.year ∨
    (d.year = e.year ∧ (d.month < e.month ∨ (d.month = e.month ∧ d.day < e.day)))

/-- A year that begins in March is over before the next one begins. -/
theorem firstOfMarch_add_lt {year : Int} {day : Nat} (h : day ≤ 365)
    (hleap : day = 365 → isLeapYear (year + 1) = true) :
    firstOfMarch year + day < firstOfMarch (year + 1) := by
  unfold firstOfMarch
  by_cases hday : day = 365
  · have hleap := hleap hday
    simp only [isLeapYear, Bool.and_eq_true, Bool.or_eq_true, decide_eq_true_eq] at hleap
    omega
  · omega

theorem firstOfMarch_mono {year year' : Int} (h : year ≤ year') :
    firstOfMarch year ≤ firstOfMarch year' := by
  unfold firstOfMarch
  omega

theorem ofYear_precedes {year year' : Int} {day day' : Nat} (hday : day ≤ 365)
    (h : year < year' ∨ (year = year' ∧ day < day')) :
    (ofYear year day).Precedes (ofYear year' day') := by
  unfold Precedes ofYear
  dsimp only
  split <;> split <;> dsimp only <;> omega

/-- The dates of days rise with them. -/
theorem ofDays_precedes {days days' : Int} (h : days < days') :
    (ofDays days).Precedes (ofDays days') := by
  obtain ⟨year, day, hday, hleap, rfl, hdate⟩ := exists_ofDays_eq days
  obtain ⟨year', day', hday', hleap', rfl, hdate'⟩ := exists_ofDays_eq days'
  rw [hdate, hdate']
  refine ofYear_precedes hday ?_
  rcases Int.lt_trichotomy year year' with hlt | rfl | hgt
  · exact .inl hlt
  · exact .inr ⟨rfl, by omega⟩
  · have hover := firstOfMarch_add_lt hday' hleap'
    have hmono := firstOfMarch_mono (Int.add_one_le_of_lt hgt)
    omega

end Date

end SensorGateway
