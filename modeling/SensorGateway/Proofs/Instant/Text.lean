/-
# SensorGateway.Proofs.Instant.Text -- instants that read back

The text of an instant names this instant and no other (`Instant.ofText?_text`), as far as it is an
instant that a clock can show (`Instant.IsOrdinary`): the year has four digits, and nanoseconds
go past one thousand million in the last second of a minute only, where they are a leap second.

The reader takes one field after the other, so there is a lemma for each kind of field, with
whatever follows behind it.
-/
import SensorGateway.Instant.Reading
import SensorGateway.Proofs.Instant.Calendar
import SensorGateway.Proofs.Text.Digits

namespace SensorGateway.Instant

/-- An instant that a clock can show in a year with four digits. -/
structure IsOrdinary (t : Instant) : Prop where
  year : 0 ≤ t.date.year ∧ t.date.year ≤ 9999
  nanos : t.nanos < 1000000000 ∨ (t.nanos < 2000000000 ∧ t.seconds % 60 = 59)

instance (t : Instant) : Decidable t.IsOrdinary :=
  decidable_of_iff ((0 ≤ t.date.year ∧ t.date.year ≤ 9999) ∧
      (t.nanos < 1000000000 ∨ (t.nanos < 2000000000 ∧ t.seconds % 60 = 59)))
    ⟨fun h => ⟨h.1, h.2⟩, fun h => ⟨h.year, h.nanos⟩⟩

/-! ## Fields -/

open Text (Writes EndsDigits)

variable {width n : Nat} {ds rest : List Char}

theorem trimStart_digits (h : Writes width n ds) (hpos : 0 < width) (rest : List Char) :
    Text.trimStart (ds ++ rest) = ds ++ rest := by
  cases ds with
  | nil => exact absurd h.length (by simp; omega)
  | cons c cs =>
    exact List.dropWhile_cons_of_neg (by simp [Text.isBlank_of_isDigit (h.digits c (by simp))])

theorem number?_digits {limit : Nat} (h : Writes width n ds) (hpos : 0 < width)
    (hwidth : width ≤ limit) (hrest : EndsDigits rest) :
    number? limit (ds ++ rest) = some (n, rest) := by
  have hlength := h.length
  have hne : ds ≠ [] := List.ne_nil_of_length_pos (by omega)
  unfold number?
  simp only [Text.takeWhile_digits h.digits hrest,
    List.take_of_length_le (by omega : ds.length ≤ limit), if_neg hne, h.value, List.drop_left]

theorem year?_digits (h : Writes 4 n ds) (hrest : EndsDigits rest) :
    year? (ds ++ rest) = some ((n : Int), rest) := by
  have hsign (c : Char) (cs : List Char) (hc : c.isDigit = false) : ds ++ rest ≠ c :: cs := by
    cases ds with
    | nil => exact absurd h.length (by simp)
    | cons d ds =>
      rintro heq
      obtain ⟨rfl, -⟩ := List.cons.inj heq
      exact absurd (h.digits d (by simp)) (by simp [hc])
  unfold year?
  rw [trimStart_digits h (by decide)]
  split
  · next cs heq => exact absurd heq (hsign '-' cs (by decide))
  · next cs heq => exact absurd heq (hsign '+' cs (by decide))
  · rw [number?_digits h (by decide) (Nat.le_refl 4) hrest]
    rfl

theorem field?_digits {low high : Nat} (h : Writes 2 n ds) (hlow : low ≤ n) (hhigh : n ≤ high)
    (hrest : EndsDigits rest) : field? low high (ds ++ rest) = some (n, rest) := by
  unfold field?
  rw [trimStart_digits h (by decide), number?_digits h (by decide) (Nat.le_refl 2) hrest]
  simp [hlow, hhigh]

theorem mark?_cons {c : Char} (h : Text.isBlank c = false) (rest : List Char) :
    mark? c (c :: rest) = some rest := by
  unfold mark?
  rw [Text.trimStart, List.dropWhile_cons_of_neg (by simp [h])]
  simp

theorem fraction?_digits (h : Writes width n ds) (hpos : 0 < width) (hwidth : width ≤ 9)
    (hrest : EndsDigits rest) :
    fraction? ('.' :: (ds ++ rest)) = some (n * Nat.pow 10 (9 - width), rest) := by
  have hlength := h.length
  have hne : ds ≠ [] := List.ne_nil_of_length_pos (by omega)
  simp only [fraction?, Text.takeWhile_digits h.digits hrest, if_neg hne,
    List.take_of_length_le (by omega : ds.length ≤ 9), h.value, hlength, List.drop_left']

/-- The fraction of a second is read with all its nanoseconds. -/
theorem fraction?_fractionText {nanos : Nat} (h : nanos < 1000000000) (hrest : EndsDigits rest)
    (hpoint : ∀ cs, rest ≠ '.' :: cs) :
    fraction? ((fractionText nanos).toList ++ rest) = some (nanos, rest) := by
  have hdigits {width n : Nat} (hpos : 0 < width) (hwidth : width ≤ 9) (hn : n < 10 ^ width)
      (hnanos : n * 10 ^ (9 - width) = nanos) :
      fraction? (("." ++ Text.padded width n).toList ++ rest) = some (nanos, rest) := by
    rw [String.toList_append]
    show fraction? ('.' :: ((Text.padded width n).toList ++ rest)) = _
    rw [fraction?_digits (Text.writes_padded hpos hn) hpos hwidth hrest]
    exact congrArg (fun n => some (n, rest)) hnanos
  unfold fractionText
  split
  · next hzero =>
    rw [hzero]
    show fraction? rest = _
    unfold fraction?
    split
    · next cs => exact absurd rfl (hpoint cs)
    · rfl
  · split
    · exact hdigits (by decide) (by decide) (by omega) (by omega)
    · split
      · exact hdigits (by decide) (by decide) (by omega) (by omega)
      · exact hdigits (by decide) (by decide) (by omega) (by omega)

/-- A fraction begins with its point. -/
theorem endsDigits_fractionText (nanos : Nat) (hrest : EndsDigits rest) :
    EndsDigits ((fractionText nanos).toList ++ rest) := by
  have hpoint (s : String) : EndsDigits (("." ++ s).toList ++ rest) := by
    rw [String.toList_append]
    exact .cons (by decide) _
  unfold fractionText
  split
  · exact hrest
  · split
    · exact hpoint _
    · split
      · exact hpoint _
      · exact hpoint _

/-! ## The whole text -/

/-- The second of the minute that the text shows. -/
def shownSecond (t : Instant) : Nat :=
  if t.isLeap then t.secondOfDay % 60 + 1 else t.secondOfDay % 60

/-- The nanoseconds that the text shows. -/
def shownNanos (t : Instant) : Nat := if t.isLeap then t.nanos - 1000000000 else t.nanos

theorem secondOfDay_lt (t : Instant) : t.secondOfDay < 86400 := by
  unfold secondOfDay
  omega

variable {t : Instant}

/-- What the text shows of an instant within its minute, as far as it is a leap second. -/
theorem shown_of_isLeap (h : t.IsOrdinary) (hleap : t.isLeap = true) :
    t.shownSecond = 60 ∧ t.shownNanos < 1000000000 ∧ t.secondOfDay % 60 = 59 ∧
      t.shownNanos + 1000000000 = t.nanos := by
  have hge : 1000000000 ≤ t.nanos := by simpa [isLeap] using hleap
  have hnanos := h.nanos
  have hlast : t.secondOfDay % 60 = 59 := by
    unfold secondOfDay
    omega
  unfold shownSecond shownNanos
  rw [if_pos hleap, if_pos hleap]
  omega

/-- What the text shows of an instant within its minute, as far as it is no leap second. -/
theorem shown_of_not_isLeap (hleap : t.isLeap = false) :
    t.shownSecond = t.secondOfDay % 60 ∧ t.shownNanos = t.nanos ∧ t.nanos < 1000000000 := by
  have hlt : t.nanos < 1000000000 := by simpa [isLeap] using hleap
  unfold shownSecond shownNanos
  rw [hleap, if_neg (by decide), if_neg (by decide)]
  exact ⟨rfl, rfl, hlt⟩

theorem shownSecond_le (h : t.IsOrdinary) : t.shownSecond ≤ 60 := by
  cases hleap : t.isLeap with
  | true => exact Nat.le_of_eq (shown_of_isLeap h hleap).1
  | false =>
    have := (shown_of_not_isLeap hleap).1
    omega

theorem shownNanos_lt (h : t.IsOrdinary) : t.shownNanos < 1000000000 := by
  cases hleap : t.isLeap with
  | true => exact (shown_of_isLeap h hleap).2.1
  | false =>
    have := (shown_of_not_isLeap hleap).2
    omega

/-- Parts that come to the second and the nanoseconds of an instant are put together to it. -/
theorem ofParts?_eq (h : t.IsOrdinary) {hour minute second nanos : Nat}
    (hseconds : hour * 3600 + minute * 60 + (if second = 60 then 59 else second) = t.secondOfDay)
    (hnanos : (if second = 60 then nanos + 1000000000 else nanos) = t.nanos) :
    ofParts? t.date hour minute second nanos 0 = some t := by
  have hdays : t.date.toDays = t.seconds / 86400 := Date.toDays_ofDays _
  have hvalid : t.date.isValid = true := Date.isValid_ofDays _
  have hfirst : firstYear ≤ t.date.year := Int.le_trans (by decide) h.year.1
  have hlast : t.date.year ≤ lastYear := Int.le_trans h.year.2 (by decide)
  have hlocal : t.date.toDays * 86400 + (t.secondOfDay : Nat) - 0 = t.seconds := by
    unfold secondOfDay
    omega
  unfold ofParts?
  dsimp only
  rw [hseconds, hnanos, hlocal]
  simp only [hvalid, hfirst, hlast, decide_true, Bool.and_self, if_true]

/-- The parts that the text shows are those of the instant. -/
theorem ofParts?_shown (h : t.IsOrdinary) :
    ofParts? t.date (t.secondOfDay / 3600) (t.secondOfDay / 60 % 60) t.shownSecond t.shownNanos 0 =
      some t := by
  cases hleap : t.isLeap with
  | true =>
    obtain ⟨hsecond, -, hlast, hnanos⟩ := shown_of_isLeap h hleap
    refine ofParts?_eq h ?_ (by rw [if_pos hsecond, hnanos])
    rw [if_pos hsecond]
    omega
  | false =>
    obtain ⟨hsecond, hnanos, -⟩ := shown_of_not_isLeap hleap
    refine ofParts?_eq h ?_ (by rw [if_neg (by omega), hnanos])
    rw [if_neg (by omega)]
    omega

/-- The text of an ordinary instant in its fields. -/
theorem toList_text (h : t.IsOrdinary) :
    t.text.toList = (Text.padded 4 t.date.year.toNat).toList ++ '-' ::
      ((Text.padded 2 t.date.month).toList ++ '-' :: ((Text.padded 2 t.date.day).toList ++ 'T' ::
        ((Text.padded 2 (t.secondOfDay / 3600)).toList ++ ':' ::
          ((Text.padded 2 (t.secondOfDay / 60 % 60)).toList ++ ':' ::
            ((Text.padded 2 t.shownSecond).toList ++
              ((fractionText t.shownNanos).toList ++ ['Z'])))))) := by
  have hdash : "-".toList = ['-'] := rfl
  have hT : "T".toList = ['T'] := rfl
  have hcolon : ":".toList = [':'] := rfl
  have hZ : "Z".toList = ['Z'] := rfl
  simp only [text, yearText, if_pos h.year, shownSecond, shownNanos, String.toList_append, hdash,
    hT, hcolon, hZ, List.append_assoc, List.cons_append, List.nil_append]

/-- The time of day and the offset behind a date. -/
def timeOfDay? (date : Date) (cs : List Char) : Option Instant := do
  let (hour, cs) ← field? 0 23 cs
  let cs ← mark? ':' cs
  let (minute, cs) ← field? 0 59 cs
  let cs ← mark? ':' cs
  let (second, cs) ← field? 0 60 cs
  let (nanos, cs) ← fraction? cs
  let (offset, cs) ← offset? cs
  if Text.trimStart cs = [] then ofParts? date hour minute second nanos offset else none

/-- An instant is read as a date, a separator and a time of day. -/
theorem ofChars?_eq (cs : List Char) :
    ofChars? cs = (do
      let (year, cs) ← year? cs
      let cs ← mark? '-' cs
      let (month, cs) ← field? 1 12 cs
      let cs ← mark? '-' cs
      let (day, cs) ← field? 1 31 cs
      match cs with
      | c :: rest =>
        if c = 'T' ∨ c = 't' ∨ c = ' ' then timeOfDay? ⟨year, month, day⟩ rest else none
      | [] => none) := rfl

theorem writes_two {n : Nat} (h : n < 100) : Writes 2 n (Text.padded 2 n).toList :=
  Text.writes_padded (by decide) h

theorem timeOfDay?_text (h : t.IsOrdinary) :
    timeOfDay? t.date ((Text.padded 2 (t.secondOfDay / 3600)).toList ++ ':' ::
      ((Text.padded 2 (t.secondOfDay / 60 % 60)).toList ++ ':' ::
        ((Text.padded 2 t.shownSecond).toList ++
          ((fractionText t.shownNanos).toList ++ ['Z'])))) = some t := by
  have hday := t.secondOfDay_lt
  have hsecond := shownSecond_le h
  have hcolon (rest : List Char) : EndsDigits (':' :: rest) := .cons (by decide) rest
  have hZ : EndsDigits ['Z'] := .cons (by decide) []
  have hhour (rest : List Char) :=
    field?_digits (writes_two (by omega : t.secondOfDay / 3600 < 100)) (Nat.zero_le _)
      (by omega : t.secondOfDay / 3600 ≤ 23) (hcolon rest)
  have hminute (rest : List Char) :=
    field?_digits (writes_two (by omega : t.secondOfDay / 60 % 60 < 100)) (Nat.zero_le _)
      (by omega : t.secondOfDay / 60 % 60 ≤ 59) (hcolon rest)
  have hshown := field?_digits (writes_two (by omega : t.shownSecond < 100)) (Nat.zero_le _) hsecond
    (endsDigits_fractionText t.shownNanos hZ)
  have hfraction := fraction?_fractionText (shownNanos_lt h) hZ (by simp)
  have hoffset : offset? ['Z'] = some (0, []) := by decide
  have hnothing : Text.trimStart [] = [] := rfl
  simp only [timeOfDay?, Option.bind_eq_bind, Option.bind_some, hhour, hminute, hshown, hfraction,
    mark?_cons (by decide : Text.isBlank ':' = false), hoffset, hnothing, if_true, ofParts?_shown h]

/-- **The text of an instant names it.** -/
theorem ofText?_text (h : t.IsOrdinary) : ofText? t.text = some t := by
  obtain ⟨year, hyear⟩ : ∃ year : Nat, t.date.year = year := ⟨t.date.year.toNat, by
    have := h.year
    omega⟩
  have hdate : (⟨year, t.date.month, t.date.day⟩ : Date) = t.date := by rw [← hyear]
  have hfour : year < 10000 := by
    have := h.year
    omega
  obtain ⟨⟨hmonthLow, hmonthHigh⟩, hdayLow, hdayHigh⟩ :
      (1 ≤ t.date.month ∧ t.date.month ≤ 12) ∧ 1 ≤ t.date.day ∧ t.date.day ≤ 31 :=
    Date.ofDays_bounds _
  have hdash (rest : List Char) : EndsDigits ('-' :: rest) := .cons (by decide) rest
  have hT (rest : List Char) : EndsDigits ('T' :: rest) := .cons (by decide) rest
  have hmonth (rest : List Char) :=
    field?_digits (writes_two (by omega)) hmonthLow hmonthHigh (hdash rest)
  have hday (rest : List Char) :=
    field?_digits (writes_two (by omega)) hdayLow hdayHigh (hT rest)
  have htime := timeOfDay?_text h
  unfold ofText?
  rw [toList_text h, ofChars?_eq, hyear, Int.toNat_natCast]
  simp only [Option.bind_eq_bind, Option.bind_some, hmonth, hday,
    year?_digits (Text.writes_padded (by decide) hfour) (hdash _),
    mark?_cons (by decide : Text.isBlank '-' = false), true_or, if_true, hdate, htime]

/-! ## Nothing else is read -/

theorem lt_of_fraction? {cs : List Char} (h : fraction? cs = some (n, rest)) : n < 1000000000 := by
  unfold fraction? at h
  split at h
  · next cs =>
    dsimp only at h
    split at h
    · cases h
    · cases h
      obtain ⟨kept, hkept⟩ : ∃ kept, (cs.takeWhile Char.isDigit).take 9 = kept := ⟨_, rfl⟩
      have hdigits : ∀ c ∈ kept, c.isDigit = true := fun c hc =>
        List.all_eq_true.mp List.all_takeWhile c (List.mem_of_mem_take (hkept ▸ hc))
      have hlength : kept.length ≤ 9 := by
        rw [← hkept, List.length_take]
        omega
      rw [hkept]
      calc Text.decimalValue kept * Nat.pow 10 (9 - kept.length)
          < Nat.pow 10 kept.length * Nat.pow 10 (9 - kept.length) :=
            Nat.mul_lt_mul_of_pos_right (Text.decimalValue_lt hdigits) (Nat.pow_pos (by decide))
        _ = Nat.pow 10 9 := by
          show 10 ^ kept.length * 10 ^ (9 - kept.length) = 10 ^ 9
          rw [← Nat.pow_add, Nat.add_sub_cancel' hlength]
  · cases h
    decide

theorem offsetDigits?_mod {cs : List Char} {offset : Int}
    (h : offsetDigits? cs = some (offset, rest)) : offset % 60 = 0 := by
  simp only [offsetDigits?, Option.bind_eq_bind, Option.bind_eq_some_iff] at h
  obtain ⟨⟨sign, _⟩, -, ⟨hours, _⟩, -, ⟨minutes, _⟩, -, hbounds⟩ := h
  split at hbounds
  · cases hbounds
    have hminutes : hours * 3600 + minutes * 60 = 60 * (hours * 60 + minutes) := by omega
    rw [hminutes, Int.natCast_mul, Int.mul_left_comm]
    exact Int.mul_emod_right 60 _
  · cases hbounds

theorem offset?_mod {cs : List Char} {offset : Int} (h : offset? cs = some (offset, rest)) :
    offset % 60 = 0 := by
  unfold offset? at h
  split at h
  · cases h
    rfl
  · cases h
    rfl
  · split at h
    · cases h
      rfl
    · exact offsetDigits?_mod h
  · exact offsetDigits?_mod h

/-- Parts within their bounds are put together to an instant that a clock can show. -/
theorem nanos_of_ofParts? {date : Date} {hour minute second nanos : Nat} {offset : Int}
    (h : ofParts? date hour minute second nanos offset = some t) (hnanos : nanos < 1000000000)
    (hoffset : offset % 60 = 0) :
    t.nanos < 1000000000 ∨ (t.nanos < 2000000000 ∧ t.seconds % 60 = 59) := by
  unfold ofParts? at h
  extract_lets leap local' u inRange at h
  split at h
  · obtain rfl := Option.some.inj h
    simp only [u, local', leap]
    by_cases hleap : second = 60
    · rw [if_pos hleap, if_pos hleap]
      omega
    · rw [if_neg hleap]
      exact .inl hnanos
  · cases h

theorem nanos_of_timeOfDay? {date : Date} {cs : List Char} (h : timeOfDay? date cs = some t) :
    t.nanos < 1000000000 ∨ (t.nanos < 2000000000 ∧ t.seconds % 60 = 59) := by
  simp only [timeOfDay?, Option.bind_eq_bind, Option.bind_eq_some_iff] at h
  obtain ⟨_, -, _, -, _, -, _, -, _, -, _, hnanos, _, hoffset, hparts⟩ := h
  split at hparts
  · exact nanos_of_ofParts? hparts (lt_of_fraction? hnanos) (offset?_mod hoffset)
  · cases hparts

/-- A text names no instant beyond the last second of its minute. -/
theorem nanos_of_ofText? {s : String} (h : ofText? s = some t) :
    t.nanos < 1000000000 ∨ (t.nanos < 2000000000 ∧ t.seconds % 60 = 59) := by
  unfold ofText? at h
  rw [ofChars?_eq] at h
  simp only [Option.bind_eq_bind, Option.bind_eq_some_iff] at h
  obtain ⟨_, -, _, -, _, -, _, -, _, -, htime⟩ := h
  split at htime
  · split at htime
    · exact nanos_of_timeOfDay? htime
    · cases htime
  · cases htime

/-- Within the years of four digits, just the ordinary instants come back from their text. -/
theorem ofText?_text_iff (hyear : 0 ≤ t.date.year ∧ t.date.year ≤ 9999) :
    ofText? t.text = some t ↔ t.IsOrdinary :=
  ⟨fun h => ⟨hyear, nanos_of_ofText? h⟩, ofText?_text⟩

end SensorGateway.Instant
