/-
# SensorGateway.Proofs.Text.Digits -- decimal digits that read back

A number is written with its digits, with zeros in front where the width is fixed, and read by
taking as many digits as there are. `decimalValue_toDigits` and `writes_padded` say that this
gives the number back; a zero in front stands alone
(`eq_nil_of_toDigits_eq`). In a fixed width the digits of numbers are ordered as the numbers are
(`Writes.append_lt_append`).
-/
import SensorGateway.Proofs.General.Lists
import SensorGateway.Text.Blank

namespace SensorGateway.Text

/-! ## Runs of digits -/

/-- A text does not go on with a digit. -/
def EndsDigits (cs : List Char) : Prop := ∀ c rest, cs = c :: rest → c.isDigit = false

theorem EndsDigits.nil : EndsDigits [] := nofun

theorem EndsDigits.cons {c : Char} (h : c.isDigit = false) (rest : List Char) :
    EndsDigits (c :: rest) := by
  rintro _ _ ⟨⟩
  exact h

variable {ds rest : List Char}

theorem takeWhile_digits (hds : ∀ c ∈ ds, c.isDigit = true) (hrest : EndsDigits rest) :
    (ds ++ rest).takeWhile Char.isDigit = ds :=
  General.takeWhile_run hds hrest

theorem dropWhile_digits (hds : ∀ c ∈ ds, c.isDigit = true) (hrest : EndsDigits rest) :
    (ds ++ rest).dropWhile Char.isDigit = rest :=
  General.dropWhile_run hds hrest

theorem endsDigits_dropWhile (cs : List Char) : EndsDigits (cs.dropWhile Char.isDigit) :=
  fun _ _ => General.eq_false_of_dropWhile

theorem notMem_of_digits {c : Char} (hc : c.isDigit = false) (hds : ∀ d ∈ ds, d.isDigit = true) :
    c ∉ ds := by
  intro hmem
  rw [hds c hmem] at hc
  cases hc

/-! ## The digits of a number -/

theorem isDigit_zeros {n : Nat} : ∀ c ∈ List.replicate n '0', c.isDigit = true := by
  intro c hc
  rw [List.eq_of_mem_replicate hc]
  decide

theorem isDigit_toDigits {n : Nat} : ∀ c ∈ Nat.toDigits 10 n, c.isDigit = true :=
  fun _ => Nat.isDigit_of_mem_toDigits (by decide) (by decide)

theorem decimalValue_toDigits (n : Nat) : decimalValue (Nat.toDigits 10 n) = n :=
  Nat.ofDigitChars_ten_toDigits

/-- There is no zero in front of the digits of another number. -/
theorem exists_toDigits_eq_cons {n : Nat} (h : n ≠ 0) :
    ∃ c cs, Nat.toDigits 10 n = c :: cs ∧ c ≠ '0' := by
  induction n using Nat.strongRecOn with
  | ind n ih =>
    by_cases hlt : n < 10
    · refine ⟨n.digitChar, [], Nat.toDigits_of_lt_base hlt, ?_⟩
      have hdigits : ∀ n < 10, n ≠ 0 → n.digitChar ≠ '0' := by decide
      exact hdigits n hlt h
    · have hle : 10 ≤ n := Nat.le_of_not_lt hlt
      obtain ⟨c, cs, hcs, hc⟩ := ih (n / 10) (by omega) (by omega)
      exact ⟨c, cs ++ [(n % 10).digitChar],
        by rw [Nat.toDigits_of_base_le (by decide) hle, hcs, List.cons_append], hc⟩

/-- A zero in front stands alone. -/
theorem eq_nil_of_toDigits_eq {n : Nat} {cs : List Char} (h : Nat.toDigits 10 n = '0' :: cs) :
    cs = [] := by
  by_cases hn : n = 0
  · rw [hn, Nat.toDigits_zero] at h
    exact (List.cons.inj h).2.symm
  · obtain ⟨c, ds, heq, hc⟩ := exists_toDigits_eq_cons hn
    rw [heq] at h
    exact absurd (List.cons.inj h).1 hc

/-! ## Fixed widths -/

/-- Just so many digits write a number. -/
structure Writes (width n : Nat) (cs : List Char) : Prop where
  length : cs.length = width
  digits : ∀ c ∈ cs, c.isDigit = true
  value : decimalValue cs = n

theorem decimalValue_replicate_append (k : Nat) (cs : List Char) :
    decimalValue (List.replicate k '0' ++ cs) = decimalValue cs := by
  induction k with
  | zero => rfl
  | succ k ih =>
    rw [List.replicate_succ, List.cons_append]
    exact ih

theorem writes_padded {width n : Nat} (hpos : 0 < width) (h : n < Nat.pow 10 width) :
    Writes width n (padded width n).toList := by
  have hlength : (Nat.toDigits 10 n).length ≤ width :=
    (Nat.length_toDigits_le_iff (by decide) hpos).mpr h
  unfold padded
  rw [String.toList_ofList]
  refine ⟨?_, fun c hc => ?_, ?_⟩
  · rw [List.length_append, List.length_replicate]
    omega
  · rcases List.mem_append.mp hc with hc | hc
    · exact isDigit_zeros c hc
    · exact isDigit_toDigits c hc
  · rw [decimalValue_replicate_append, decimalValue_toDigits]

/-- A number with so many digits is below that power of ten. -/
theorem decimalValue_lt {ds : List Char} (h : ∀ c ∈ ds, c.isDigit = true) :
    decimalValue ds < Nat.pow 10 ds.length := by
  have hfold (n : Nat) : ds.foldl (fun n c => 10 * n + (c.toNat - '0'.toNat)) n <
      (n + 1) * Nat.pow 10 ds.length := by
    induction ds generalizing n with
    | nil => simp
    | cons c ds ih =>
      have hrange : 48 ≤ c.toNat ∧ c.toNat ≤ 57 := Char.isDigit_iff_toNat.mp (h c (by simp))
      have hzero : '0'.toNat = 48 := rfl
      have hstep : 10 * n + (c.toNat - '0'.toNat) + 1 ≤ (n + 1) * 10 := by omega
      calc ds.foldl _ (10 * n + (c.toNat - '0'.toNat))
          < (10 * n + (c.toNat - '0'.toNat) + 1) * Nat.pow 10 ds.length :=
            ih (fun d hd => h d (by simp [hd])) _
        _ ≤ (n + 1) * 10 * Nat.pow 10 ds.length := Nat.mul_le_mul_right _ hstep
        _ = (n + 1) * Nat.pow 10 (c :: ds).length := by
          rw [List.length_cons, Nat.mul_assoc, Nat.mul_comm 10]
          rfl
  have hvalue := hfold 0
  rwa [Nat.zero_add, Nat.one_mul] at hvalue

/-- A digit is not blank. -/
theorem isBlank_of_isDigit {c : Char} (h : c.isDigit = true) : isBlank c = false := by
  have hrange : 48 ≤ c.toNat ∧ c.toNat ≤ 57 := Char.isDigit_iff_toNat.mp h
  simp only [isBlank, blankRanges, List.any_cons, List.any_nil, Bool.or_false, Bool.or_eq_false_iff,
    Bool.and_eq_false_iff, decide_eq_false_iff_not]
  omega

/-! ## Order -/

theorem decimalValue_append (xs ys : List Char) :
    decimalValue (xs ++ ys) = decimalValue xs * Nat.pow 10 ys.length + decimalValue ys := by
  have hfold (n : Nat) : ys.foldl (fun n c => 10 * n + (c.toNat - '0'.toNat)) n =
      n * Nat.pow 10 ys.length + decimalValue ys := by
    unfold decimalValue
    induction ys generalizing n with
    | nil => simp
    | cons c ys ih =>
      have hpow : Nat.pow 10 (c :: ys).length = 10 * Nat.pow 10 ys.length := Nat.mul_comm _ _
      rw [List.foldl_cons, List.foldl_cons, ih, ih (10 * 0 + _), hpow, Nat.add_mul, ← Nat.mul_assoc,
        Nat.mul_comm 10 n, Nat.mul_zero, Nat.zero_add, Nat.add_assoc]
  unfold decimalValue
  rw [List.foldl_append, hfold]
  rfl

variable {width n : Nat} {cs : List Char}

theorem Writes.lt (h : Writes width n cs) : n < Nat.pow 10 width := by
  rw [← h.value, ← h.length]
  exact decimalValue_lt h.digits

/-- The first digits write the quotient by a power of ten and the others the remainder. -/
theorem Writes.split {j k : Nat} (h : Writes (j + k) n cs) :
    Writes j (n / Nat.pow 10 k) (cs.take j) ∧ Writes k (n % Nat.pow 10 k) (cs.drop j) := by
  have hlength := h.length
  have hdrop : (cs.drop j).length = k := by rw [List.length_drop]; omega
  have hlow : decimalValue (cs.drop j) < Nat.pow 10 k := by
    rw [← hdrop]
    exact decimalValue_lt fun c hc => h.digits c (List.mem_of_mem_drop hc)
  have hvalue : decimalValue (cs.take j) * Nat.pow 10 k + decimalValue (cs.drop j) = n := by
    rw [← h.value, ← hdrop, ← decimalValue_append, List.take_append_drop]
  have hpos : 0 < Nat.pow 10 k := Nat.zero_lt_of_lt hlow
  refine ⟨⟨by rw [List.length_take]; omega, fun c hc => h.digits c (List.mem_of_mem_take hc), ?_⟩,
    ⟨hdrop, fun c hc => h.digits c (List.mem_of_mem_drop hc), ?_⟩⟩
  · rw [← hvalue, Nat.mul_comm, Nat.mul_add_div hpos, Nat.div_eq_of_lt hlow, Nat.add_zero]
  · rw [← hvalue, Nat.mul_comm, Nat.mul_add_mod, Nat.mod_eq_of_lt hlow]

/-- The first digit writes the quotient by the power of ten that the others stand below. -/
theorem Writes.uncons (h : Writes (width + 1) n cs) :
    ∃ c ds, cs = c :: ds ∧ c.toNat = '0'.toNat + n / Nat.pow 10 width ∧
      Writes width (n % Nat.pow 10 width) ds := by
  obtain ⟨hfirst, hrest⟩ := (Nat.add_comm width 1 ▸ h).split
  cases cs with
  | nil => exact absurd h.length (Nat.succ_ne_zero width).symm
  | cons c ds =>
    have hvalue : 10 * 0 + (c.toNat - '0'.toNat) = n / Nat.pow 10 width := hfirst.value
    have hrange := (Char.isDigit_iff_toNat.mp (h.digits c List.mem_cons_self)).1
    exact ⟨c, ds, rfl, by omega, hrest⟩

variable {m : Nat} {ds rest rest' : List Char}

/-- In a given width a number is written in one way. -/
theorem Writes.unique (hcs : Writes width n cs) (hds : Writes width n ds) : cs = ds := by
  induction width generalizing n cs ds with
  | zero => rw [List.eq_nil_of_length_eq_zero hcs.length, List.eq_nil_of_length_eq_zero hds.length]
  | succ width ih =>
    obtain ⟨c, cs, rfl, hc, hcs⟩ := hcs.uncons
    obtain ⟨d, ds, rfl, hd, hds⟩ := hds.uncons
    rw [Char.toNat_inj.mp (hc.trans hd.symm), ih hcs hds]

/-- In a given width the smaller number has the smaller digits, whatever follows; after the same
digits the rest decides. -/
theorem Writes.append_lt_append (hcs : Writes width m cs) (hds : Writes width n ds)
    (h : m < n ∨ (m = n ∧ rest < rest')) : cs ++ rest < ds ++ rest' := by
  rcases h with h | ⟨rfl, h⟩
  · induction width generalizing m n cs ds with
    | zero =>
      have hn : n < 1 := hds.lt
      exact absurd h (by omega)
    | succ width ih =>
      obtain ⟨c, cs, rfl, hc, hcs⟩ := hcs.uncons
      obtain ⟨d, ds, rfl, hd, hds⟩ := hds.uncons
      rw [List.cons_append, List.cons_append, List.cons_lt_cons_iff]
      rcases Nat.lt_or_eq_of_le (Nat.div_le_div_right (Nat.le_of_lt h)) with hlt | heq
      · have hlt : c.toNat < d.toNat := hc ▸ hd ▸ Nat.add_lt_add_left hlt _
        exact .inl hlt
      · have hrest : m % Nat.pow 10 width < n % Nat.pow 10 width := by
          have hm := Nat.div_add_mod m (Nat.pow 10 width)
          have hn := Nat.div_add_mod n (Nat.pow 10 width)
          rw [heq] at hm
          omega
        exact .inr ⟨Char.toNat_inj.mp (by rw [hc, hd, heq]), ih hcs hds hrest⟩
  · rw [hcs.unique hds]
    exact List.append_left_lt h

/-- Digits without a zero in front are the digits of their number. -/
theorem toDigits_decimalValue {c : Char} {cs : List Char} (h : ∀ d ∈ c :: cs, d.isDigit = true)
    (hzero : c = '0' → cs = []) : Nat.toDigits 10 (decimalValue (c :: cs)) = c :: cs := by
  by_cases hc : c = '0'
  · rw [hc, hzero hc]
    exact Nat.toDigits_zero 10
  · have hrange : 48 ≤ c.toNat ∧ c.toNat ≤ 57 :=
      Char.isDigit_iff_toNat.mp (h c List.mem_cons_self)
    have hfirst : 1 ≤ decimalValue [c] := by
      have hne : c.toNat ≠ 48 := fun heq => hc (Char.toNat_inj.mp heq)
      show 1 ≤ 10 * 0 + (c.toNat - 48)
      omega
    have hvalue : decimalValue (c :: cs) =
        decimalValue [c] * Nat.pow 10 cs.length + decimalValue cs := decimalValue_append [c] cs
    have hlow : Nat.pow 10 cs.length ≤ decimalValue (c :: cs) := by
      have hmul := Nat.mul_le_mul_right (Nat.pow 10 cs.length) hfirst
      omega
    have hhigh : decimalValue (c :: cs) < Nat.pow 10 (cs.length + 1) := decimalValue_lt h
    have hlength : (Nat.toDigits 10 (decimalValue (c :: cs))).length = cs.length + 1 := by
      refine Nat.le_antisymm ?_ ?_
      · exact (Nat.length_toDigits_le_iff (by decide) (Nat.succ_pos _)).mpr hhigh
      · refine Nat.succ_le_of_lt (Nat.lt_of_not_le fun hle => ?_)
        have hpos : 0 < cs.length := Nat.lt_of_lt_of_le
          (List.length_pos_iff.mpr Nat.toDigits_ne_nil) hle
        exact Nat.not_lt_of_le hlow ((Nat.length_toDigits_le_iff (by decide) hpos).mp hle)
    exact Writes.unique ⟨hlength, isDigit_toDigits, decimalValue_toDigits _⟩ ⟨rfl, h, rfl⟩

end SensorGateway.Text
