/-
# SensorGateway.Proofs.Instant.Order -- instants and their texts in order

The fields of a text have fixed widths, the greatest unit first, so the texts of instants in
different seconds are in the order of the instants (`Instant.text_lt_of_secondBefore`). Fractions
have as many digits as they need, and behind them stands a letter that is greater than a point and
greater than all digits. So within a second a text whose fraction is where another one begins
is the greater of the two, although its instant is the earlier one
(`Instant.text_lt_of_continuedBy`). In all other cases the texts are in order
(`Instant.text_lt_text_iff`).
-/
import SensorGateway.Export.Csv
import SensorGateway.Export.Table
import SensorGateway.Proofs.Instant.Text
import SensorGateway.Proofs.Text.Bytes

namespace SensorGateway.Instant

open Text (Writes)

variable {a b : Instant} {m n : Nat}

/-! ## Fractions -/

/-- How many digits the fraction of a second has. -/
def fractionDigits (nanos : Nat) : Nat :=
  if nanos = 0 then 0 else if nanos % 1000000 = 0 then 3 else if nanos % 1000 = 0 then 6 else 9

/-- A fraction that is written has its point and digits, and what these leave out is zero. -/
theorem exists_fractionText (hpos : n ≠ 0) (hlt : n < 1000000000) :
    ∃ ds, (fractionText n).toList = '.' :: ds ∧
      Writes (fractionDigits n) (n / Nat.pow 10 (9 - fractionDigits n)) ds ∧
      fractionDigits n ≤ 9 ∧ n % Nat.pow 10 (9 - fractionDigits n) = 0 := by
  have hthree : n / 1000000 < 1000 := by omega
  have hsix : n / 1000 < 1000000 := by omega
  have hnine : n / Nat.pow 10 (9 - 9) = n := Nat.div_one n
  unfold fractionText fractionDigits
  rw [if_neg hpos, if_neg hpos]
  split
  · next hrest =>
    exact ⟨_, String.toList_append, Text.writes_padded (by decide) hthree, by decide, hrest⟩
  · split
    · next hrest =>
      exact ⟨_, String.toList_append, Text.writes_padded (by decide) hsix, by decide, hrest⟩
    · refine ⟨_, String.toList_append, ?_, Nat.le_refl 9, Nat.mod_one n⟩
      rw [hnine]
      exact Text.writes_padded (by decide) hlt

/-- The first digits of a fraction are the fraction in fewer digits. -/
theorem writes_take {j k : Nat} {ds : List Char} (hjk : j ≤ k) (hk : k ≤ 9)
    (h : Writes k (n / Nat.pow 10 (9 - k)) ds) : Writes j (n / Nat.pow 10 (9 - j)) (ds.take j) := by
  obtain ⟨i, rfl⟩ := Nat.exists_eq_add_of_le hjk
  have hpow : Nat.pow 10 (9 - (j + i)) * Nat.pow 10 i = Nat.pow 10 (9 - j) := by
    have hwidth : 9 - (j + i) + i = 9 - j := by omega
    rw [← hwidth]
    exact (Nat.pow_add 10 _ _).symm
  have hfirst := h.split.1
  rwa [Nat.div_div_eq_div_mul, hpow] at hfirst

/-- Nothing in a fraction is as great as the letter behind it. -/
theorem lt_of_mem_fractionText (hlt : n < 1000000000) {c : Char}
    (h : c ∈ (fractionText n).toList) : c < 'Z' := by
  by_cases hn : n = 0
  · rw [hn] at h
    exact absurd h List.not_mem_nil
  · obtain ⟨ds, htext, hwrites, -⟩ := exists_fractionText hn hlt
    rw [htext] at h
    rcases List.mem_cons.mp h with rfl | h
    · decide
    · have hrange := Char.isDigit_iff_toNat.mp (hwrites.digits c h)
      have hnine : '9'.toNat < 'Z'.toNat := by decide
      exact Nat.lt_of_le_of_lt hrange.2 hnine

theorem fractionText_ne (hmn : m ≠ n) (hm : m < 1000000000) (hn : n < 1000000000) :
    (fractionText m).toList ≠ (fractionText n).toList := by
  intro heq
  have hread {n : Nat} (h : n < 1000000000) :
      fraction? ((fractionText n).toList ++ []) = some (n, []) :=
    fraction?_fractionText h .nil nofun
  have hsame := (hread hm).symm.trans (heq ▸ hread hn)
  exact hmn (congrArg Prod.fst (Option.some.inj hsame))

/-- A fraction that another one goes on from is the greater text. -/
theorem fractionText_lt_of_continues (hmn : m ≠ n) (hm : m < 1000000000) (hn : n < 1000000000)
    (h : (fractionText m).toList <+: (fractionText n).toList) :
    (fractionText n).toList ++ ['Z'] < (fractionText m).toList ++ ['Z'] := by
  obtain ⟨more, hmore⟩ := h
  cases more with
  | nil => exact absurd ((List.append_nil _).symm.trans hmore) (fractionText_ne hmn hm hn)
  | cons c cs =>
    have hmem : c ∈ (fractionText n).toList :=
      hmore ▸ List.mem_append_right _ List.mem_cons_self
    have hc : c < 'Z' := lt_of_mem_fractionText hn hmem
    rw [← hmore, List.append_assoc]
    exact List.append_left_lt (List.cons_lt_cons_iff.mpr (.inl hc))

/-- If no fraction goes on from the other, the smaller one is the smaller text. -/
theorem fractionText_lt_of_lt (hmn : m < n) (hn : n < 1000000000)
    (h : ¬ (fractionText m).toList <+: (fractionText n).toList) :
    (fractionText m).toList ++ ['Z'] < (fractionText n).toList ++ ['Z'] := by
  have hm0 : m ≠ 0 := fun hzero => h (hzero ▸ List.nil_prefix)
  obtain ⟨ds, hdsText, hds, hdsWidth, hdsRest⟩ := exists_fractionText hm0 (Nat.lt_trans hmn hn)
  obtain ⟨es, hesText, hes, hesWidth, hesRest⟩ := exists_fractionText (Nat.ne_of_gt (by omega)) hn
  rw [hdsText, hesText] at h ⊢
  rw [List.cons_append, List.cons_append, List.cons_lt_cons_iff]
  refine .inr ⟨rfl, ?_⟩
  generalize fractionDigits m = j at hds hdsWidth
  generalize fractionDigits n = k at hes hesWidth hesRest
  rcases Nat.le_total j k with hjk | hkj
  · have hfirst := writes_take hjk hesWidth hes
    have hle : m / Nat.pow 10 (9 - j) ≤ n / Nat.pow 10 (9 - j) :=
      Nat.div_le_div_right (Nat.le_of_lt hmn)
    rcases Nat.lt_or_eq_of_le hle with hlt | heq
    · rw [← List.take_append_drop j es, List.append_assoc]
      exact hds.append_lt_append hfirst (.inl hlt)
    · have hsame : ds = es.take j := (heq ▸ hds).unique hfirst
      exact absurd (hsame ▸ List.cons_prefix_cons.mpr ⟨rfl, List.take_prefix j es⟩) h
  · have hfirst := writes_take hkj hdsWidth hds
    have hlt : m / Nat.pow 10 (9 - k) < n / Nat.pow 10 (9 - k) :=
      -- all digits of the greater fraction are written, so it is not below its first ones
      Nat.div_lt_of_lt_mul (by rw [Nat.mul_div_cancel' (Nat.dvd_of_mod_eq_zero hesRest)]; exact hmn)
    rw [← List.take_append_drop k ds, List.append_assoc]
    exact hfirst.append_lt_append hes (.inl hlt)

/-! ## Whole texts -/

/-- A field with the mark behind it decides, and what follows only after the same field. -/
theorem field_lt_field {width : Nat} {c : Char} {rest rest' : List Char} (hpos : 0 < width)
    (hm : m < Nat.pow 10 width) (hn : n < Nat.pow 10 width) (h : m < n ∨ (m = n ∧ rest < rest')) :
    (Text.padded width m).toList ++ c :: rest < (Text.padded width n).toList ++ c :: rest' :=
  (Text.writes_padded hpos hm).append_lt_append (Text.writes_padded hpos hn)
    (h.imp_right fun h => ⟨h.1, List.cons_lt_cons_iff.mpr (.inr ⟨rfl, h.2⟩)⟩)

theorem two_lt_two {c : Char} {rest rest' : List Char} (hm : m < 100) (hn : n < 100)
    (h : m < n ∨ (m = n ∧ rest < rest')) :
    (Text.padded 2 m).toList ++ c :: rest < (Text.padded 2 n).toList ++ c :: rest' :=
  field_lt_field (by decide) hm hn h

/-- The clock shows an earlier second. A leap second comes after the last second of its
minute. -/
def SecondBefore (a b : Instant) : Prop :=
  a.seconds < b.seconds ∨ (a.seconds = b.seconds ∧ a.isLeap = false ∧ b.isLeap = true)

/-- Within a day an earlier second is an earlier second that is shown, or stands in an earlier
minute. -/
theorem SecondBefore.of_same_day (ha : a.IsOrdinary) (hb : b.IsOrdinary) (h : a.SecondBefore b)
    (hday : a.seconds / 86400 = b.seconds / 86400) :
    a.secondOfDay / 60 < b.secondOfDay / 60 ∨
      (a.secondOfDay / 60 = b.secondOfDay / 60 ∧ a.shownSecond < b.shownSecond) := by
  have hclock : a.secondOfDay < b.secondOfDay ∨
      (a.secondOfDay = b.secondOfDay ∧ a.isLeap = false ∧ b.isLeap = true) := by
    unfold secondOfDay
    rcases h with h | ⟨h, hleap⟩
    · exact .inl (by omega)
    · exact .inr ⟨by rw [h], hleap⟩
  have hshown : b.secondOfDay % 60 ≤ b.shownSecond := by
    unfold shownSecond
    split <;> omega
  rcases hclock with hlt | ⟨heq, hleap, hleap'⟩
  · cases hleap : a.isLeap with
    | true =>
      -- after a leap second there is no second left in the minute
      have hlast := (shown_of_isLeap ha hleap).2.2.1
      omega
    | false =>
      have hsecond := (shown_of_not_isLeap hleap).1
      omega
  · have hsecond := (shown_of_not_isLeap hleap).1
    have hsecond' := shown_of_isLeap hb hleap'
    omega

/-- An earlier second is earlier in the first field of the text that differs. -/
theorem SecondBefore.fields (ha : a.IsOrdinary) (hb : b.IsOrdinary) (h : a.SecondBefore b) :
    a.date.year.toNat < b.date.year.toNat ∨ (a.date.year.toNat = b.date.year.toNat ∧
      (a.date.month < b.date.month ∨ (a.date.month = b.date.month ∧
        (a.date.day < b.date.day ∨ (a.date.day = b.date.day ∧
          (a.secondOfDay / 3600 < b.secondOfDay / 3600 ∨
            (a.secondOfDay / 3600 = b.secondOfDay / 3600 ∧
              (a.secondOfDay / 60 % 60 < b.secondOfDay / 60 % 60 ∨
                (a.secondOfDay / 60 % 60 = b.secondOfDay / 60 % 60 ∧
                  a.shownSecond < b.shownSecond))))))))) := by
  have hyear := ha.year
  have hyear' := hb.year
  have hdays : a.seconds / 86400 ≤ b.seconds / 86400 := by
    rcases h with h | h <;> omega
  rcases Int.lt_or_eq_of_le hdays with hlt | heq
  · have hdate : a.date.Precedes b.date := Date.ofDays_precedes hlt
    unfold Date.Precedes at hdate
    omega
  · have hdate : a.date = b.date := congrArg Date.ofDays heq
    have htime := h.of_same_day ha hb heq
    refine .inr ⟨by rw [hdate], .inr ⟨by rw [hdate], .inr ⟨by rw [hdate], ?_⟩⟩⟩
    omega

/-- **The texts of instants in different seconds are in order.** -/
theorem text_lt_of_secondBefore (ha : a.IsOrdinary) (hb : b.IsOrdinary) (h : a.SecondBefore b) :
    a.text < b.text := by
  show a.text.toList < b.text.toList
  have hyear : a.date.year.toNat < 10000 := by
    have hrange := ha.year
    omega
  have hyear' : b.date.year.toNat < 10000 := by
    have hrange := hb.year
    omega
  have hclock := a.secondOfDay_lt
  have hclock' := b.secondOfDay_lt
  have hsecond := shownSecond_le ha
  have hsecond' := shownSecond_le hb
  have hfields := h.fields ha hb
  have hdate : (1 ≤ a.date.month ∧ a.date.month ≤ 12) ∧ 1 ≤ a.date.day ∧ a.date.day ≤ 31 :=
    Date.ofDays_bounds _
  have hdate' : (1 ≤ b.date.month ∧ b.date.month ≤ 12) ∧ 1 ≤ b.date.day ∧ b.date.day ≤ 31 :=
    Date.ofDays_bounds _
  rw [toList_text ha, toList_text hb]
  refine field_lt_field (by decide) hyear hyear'
    (hfields.imp_right (And.imp_right fun hfields => ?_))
  refine two_lt_two (by omega) (by omega)
    (hfields.imp_right (And.imp_right fun hfields => ?_))
  refine two_lt_two (by omega) (by omega)
    (hfields.imp_right (And.imp_right fun hfields => ?_))
  refine two_lt_two (by omega) (by omega)
    (hfields.imp_right (And.imp_right fun hfields => ?_))
  refine two_lt_two (by omega) (by omega)
    (hfields.imp_right (And.imp_right fun hfields => ?_))
  exact (writes_two (by omega)).append_lt_append (writes_two (by omega)) (.inl hfields)

/-! ## Texts within a second -/

/-- Both instants lie in the same second, and the written fraction of the later one begins with
that of the earlier one. An instant without a fraction is continued by all others in its second. -/
structure ContinuedBy (a b : Instant) : Prop where
  seconds : a.seconds = b.seconds
  isLeap : a.isLeap = b.isLeap
  fraction : (fractionText a.shownNanos).toList <+: (fractionText b.shownNanos).toList

instance (a b : Instant) : Decidable (a.ContinuedBy b) :=
  decidable_of_iff (a.seconds = b.seconds ∧ a.isLeap = b.isLeap ∧
      (fractionText a.shownNanos).toList <+: (fractionText b.shownNanos).toList)
    ⟨fun h => ⟨h.1, h.2.1, h.2.2⟩, fun h => ⟨h.seconds, h.isLeap, h.fraction⟩⟩

/-- In the same second the texts differ in their fractions only. -/
theorem exists_toList_text (ha : a.IsOrdinary) (hb : b.IsOrdinary)
    (hseconds : a.seconds = b.seconds) (hleap : a.isLeap = b.isLeap) :
    ∃ front, a.text.toList = front ++ ((fractionText a.shownNanos).toList ++ ['Z']) ∧
      b.text.toList = front ++ ((fractionText b.shownNanos).toList ++ ['Z']) := by
  have hdate : a.date = b.date := congrArg (fun s => Date.ofDays (s / 86400)) hseconds
  have hclock : a.secondOfDay = b.secondOfDay := congrArg (fun s => (s % 86400).toNat) hseconds
  have hsecond : a.shownSecond = b.shownSecond := by
    unfold shownSecond
    rw [hclock, hleap]
  rw [toList_text ha, toList_text hb, hdate, hclock, hsecond]
  simp only [← List.cons_append, ← List.append_assoc]
  exact ⟨_, rfl, rfl⟩

theorem shownNanos_lt_of_lt (h : a < b) (hseconds : a.seconds = b.seconds)
    (hleap : a.isLeap = b.isLeap) (ha : a.IsOrdinary) (hb : b.IsOrdinary) :
    a.shownNanos < b.shownNanos := by
  have hnanos : a.nanos < b.nanos := by
    rw [lt_iff] at h
    omega
  cases hb' : b.isLeap with
  | true =>
    have hshown := shown_of_isLeap ha (hleap.trans hb')
    have hshown' := shown_of_isLeap hb hb'
    omega
  | false =>
    have hshown := shown_of_not_isLeap (hleap.trans hb')
    have hshown' := shown_of_not_isLeap hb'
    omega

/-- The text of an instant is greater than the texts that continue it. -/
theorem text_lt_of_continuedBy (ha : a.IsOrdinary) (hb : b.IsOrdinary) (h : a < b)
    (hcontinued : a.ContinuedBy b) : b.text < a.text := by
  show b.text.toList < a.text.toList
  obtain ⟨hseconds, hleap, hfraction⟩ := hcontinued
  have hnanos := shownNanos_lt_of_lt h hseconds hleap ha hb
  obtain ⟨front, hfront, hfront'⟩ := exists_toList_text ha hb hseconds hleap
  rw [hfront, hfront']
  exact List.append_left_lt (fractionText_lt_of_continues (Nat.ne_of_lt hnanos) (shownNanos_lt ha)
    (shownNanos_lt hb) hfraction)

/-- The text of an instant is smaller than the texts of all later instants that do not
continue it. -/
theorem text_lt_of_not_continuedBy (ha : a.IsOrdinary) (hb : b.IsOrdinary) (h : a < b)
    (hcontinued : ¬ a.ContinuedBy b) : a.text < b.text := by
  by_cases hsame : a.seconds = b.seconds ∧ a.isLeap = b.isLeap
  · show a.text.toList < b.text.toList
    obtain ⟨hseconds, hleap⟩ := hsame
    obtain ⟨front, hfront, hfront'⟩ := exists_toList_text ha hb hseconds hleap
    rw [hfront, hfront']
    exact List.append_left_lt (fractionText_lt_of_lt (shownNanos_lt_of_lt h hseconds hleap ha hb)
      (shownNanos_lt hb) fun hfraction => hcontinued ⟨hseconds, hleap, hfraction⟩)
  · refine text_lt_of_secondBefore ha hb ?_
    rcases lt_iff.mp h with hlt | ⟨heq, hnanos⟩
    · exact .inl hlt
    · refine .inr ⟨heq, ?_⟩
      -- of two instants that count the same seconds, the later one is the leap second
      have hdiffer : ¬ (1000000000 ≤ a.nanos ↔ 1000000000 ≤ b.nanos) := fun hiff =>
        hsame ⟨heq, decide_eq_decide.mpr hiff⟩
      exact ⟨decide_eq_false (by omega), decide_eq_true (by omega)⟩

/-- The order of texts is the order of instants, turned round where one text continues the
other. -/
theorem text_lt_text_iff (ha : a.IsOrdinary) (hb : b.IsOrdinary) :
    a.text < b.text ↔ (a < b ∧ ¬ a.ContinuedBy b) ∨ (b < a ∧ b.ContinuedBy a) := by
  constructor
  · intro h
    have hasymm : ¬ b.text < a.text := Std.Asymm.asymm _ _ h
    have hcases : a < b ∨ a = b ∨ b < a := by
      cases a
      cases b
      simp only [lt_iff, mk.injEq]
      omega
    rcases hcases with hlt | rfl | hgt
    · exact .inl ⟨hlt, fun hcontinued => hasymm (text_lt_of_continuedBy ha hb hlt hcontinued)⟩
    · exact absurd h hasymm
    · exact .inr ⟨hgt, Decidable.byContradiction fun hcontinued =>
        hasymm (text_lt_of_not_continuedBy hb ha hgt hcontinued)⟩
  · rintro (⟨hlt, hcontinued⟩ | ⟨hgt, hcontinued⟩)
    · exact text_lt_of_not_continuedBy ha hb hlt hcontinued
    · exact text_lt_of_continuedBy hb ha hgt hcontinued

end SensorGateway.Instant

/-! ## Exports -/

namespace SensorGateway.Export

open Text.Utf8 (encode)

/-- **Exported times sort like the instants, unless one continues the other.** The first field of
a row of text and the column of the database hold the same text. Byte by byte, the text of the
earlier of two records is the smaller one just when the later one does not continue it; so in
the order of the texts a record stands in front of an earlier one only where it continues it. -/
theorem timestamps_in_order {r s : Record} (hr : r.time.IsOrdinary) (hs : s.time.IsOrdinary)
    (i j : Nat) :
    (Csv.fields r).head? = some (RecordRow.ofRecord i r).timestamp ∧
      (r.time < s.time →
        (encode (RecordRow.ofRecord i r).timestamp < encode (RecordRow.ofRecord j s).timestamp ↔
          ¬ r.time.ContinuedBy s.time)) ∧
      (encode (RecordRow.ofRecord i r).timestamp < encode (RecordRow.ofRecord j s).timestamp →
        r.time < s.time ∨ s.time.ContinuedBy r.time) := by
  have horder : encode (RecordRow.ofRecord i r).timestamp <
      encode (RecordRow.ofRecord j s).timestamp ↔
        (r.time < s.time ∧ ¬ r.time.ContinuedBy s.time) ∨
          (s.time < r.time ∧ s.time.ContinuedBy r.time) :=
    Text.Utf8.encode_lt_encode.trans (Instant.text_lt_text_iff hr hs)
  refine ⟨rfl, fun hlt => ⟨fun h => ?_, fun hcontinued => horder.mpr (.inl ⟨hlt, hcontinued⟩)⟩,
    fun h => (horder.mp h).imp And.left And.right⟩
  rcases horder.mp h with ⟨-, hcontinued⟩ | ⟨hgt, -⟩
  · exact hcontinued
  · rw [Instant.lt_iff] at hlt hgt
    omega

/-- A record of a temperature. -/
def temperatureAt (t : Instant) : Record := ⟨t, "srv", "obj", "temp", .int 21⟩

/-- Half a second and three quarters of the same second. -/
theorem fractions_in_order :
    encode (RecordRow.ofRecord 1 (temperatureAt ⟨1772366400, 500000000⟩)).timestamp <
      encode (RecordRow.ofRecord 2 (temperatureAt ⟨1772366400, 750000000⟩)).timestamp :=
  ((timestamps_in_order (by decide) (by decide) 1 2).2.1 (by decide)).mpr (by decide)

/-- A record at the start of a second. -/
def atNoon : Record := temperatureAt ⟨1772366400, 0⟩

/-- A record half a second later. -/
def afterNoon : Record := temperatureAt ⟨1772366400, 500000000⟩

/-- The start of a second is written without a fraction, and its text is greater than the texts of
all that follows in the second. -/
theorem whole_second_sorts_last :
    atNoon.time.IsOrdinary ∧ afterNoon.time.IsOrdinary ∧ atNoon.time < afterNoon.time ∧
      (RecordRow.ofRecord 1 atNoon).timestamp = "2026-03-01T12:00:00Z" ∧
      (RecordRow.ofRecord 2 afterNoon).timestamp = "2026-03-01T12:00:00.500Z" ∧
      ¬ encode (RecordRow.ofRecord 1 atNoon).timestamp <
        encode (RecordRow.ofRecord 2 afterNoon).timestamp := by
  refine ⟨by decide, by decide, by decide, by decide, by decide, ?_⟩
  rw [Text.Utf8.encode_lt_encode]
  decide

end SensorGateway.Export
