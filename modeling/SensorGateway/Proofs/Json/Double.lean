/-
# SensorGateway.Proofs.Json.Double -- how a finite double is written

A finite double is written as a number that has a point or an exponent
(`exists_spelling_text`), and the reader takes it as a double (`exists_tokenOfText`). Integers have
neither, so the two kinds of number never meet in a text. Which double the reader makes of the
digits is another matter, and not settled here.

The whole part of the text must not begin with a zero. It is made of the digits of the shortest
decimal with zeros behind them, so the point is that a decimal of no value has no zeros
behind it (`Decimal.IsTrimmed`).
-/
import SensorGateway.Proofs.Json.Token

/-! ## Decimals -/

namespace SensorGateway.Binary64

/-- A decimal that is zero has no zeros behind it. -/
def Decimal.IsTrimmed (d : Decimal) : Prop := d.digits = 0 → d.exponent = 0

theorem Interval.digits_ne_zero_of_onGrid? {i : Interval} {tie : TieRule} {e : Int} {d : Decimal}
    (h : i.onGrid? tie e = some d) : d.digits ≠ 0 := by
  unfold onGrid? at h
  extract_lets step up j n below above fromBelow fromAbove pickBelow at h
  split at h
  · next hpick =>
    obtain rfl := Option.some.inj h
    simp only [pickBelow, below, Bool.and_eq_true, decide_eq_true_eq] at hpick
    exact Nat.pos_iff_ne_zero.mp hpick.1.1
  · split at h
    · obtain rfl := Option.some.inj h
      exact Nat.succ_ne_zero _
    · cases h

theorem Interval.isTrimmed_search (i : Interval) (tie : TieRule) (e : Int) (fuel : Nat) :
    (i.search tie e fuel).IsTrimmed := by
  induction fuel generalizing e with
  | zero => exact fun _ => rfl
  | succ fuel ih =>
    unfold search
    split
    · next d hd => exact fun hzero => absurd hzero (digits_ne_zero_of_onGrid? hd)
    · exact ih (e - 1)

theorem Decimal.IsTrimmed.strip {d : Decimal} (h : d.IsTrimmed) (fuel : Nat) :
    (d.strip fuel).IsTrimmed := by
  induction fuel generalizing d with
  | zero => exact h
  | succ fuel ih =>
    unfold Decimal.strip
    split
    · next hdigits =>
      -- digits that end in a zero and are not zero have other digits in front of it
      refine ih fun hzero => ?_
      have hzero : d.digits / 10 = 0 := hzero
      omega
    · exact h

theorem isTrimmed_shortest (tie : TieRule) (m : Nat) (e : Int) :
    (shortest tie m e).IsTrimmed := by
  unfold shortest
  split
  · exact fun _ => rfl
  · exact (Interval.isTrimmed_search _ _ _ _).strip _

theorem Layout.toList_finiteText (l : Layout) (negative : Bool) (m : Nat) (e : Int) :
    (l.finiteText negative m e).toList =
      (if negative then ['-'] else []) ++ (l.finiteText false m e).toList := by
  unfold finiteText
  cases negative <;> simp [String.toList_append]

theorem exists_magnitude_eq {x : Binary64} (h : x.isFinite = true) :
    ∃ m e, x.magnitude = .finite m e := by
  have hfinite : x.unsigned < 0x7FF * Nat.pow 2 52 := of_decide_eq_true h
  have hfield : x.unsigned / Nat.pow 2 52 ≠ 0x7FF :=
    Nat.ne_of_lt ((Nat.div_lt_iff_lt_mul (by decide)).mpr hfinite)
  unfold magnitude
  simp only [if_neg hfield]
  split
  · exact ⟨_, _, rfl⟩
  · exact ⟨_, _, rfl⟩

end SensorGateway.Binary64

/-! ## Texts -/

namespace SensorGateway.Json

open Binary64 (Layout positionalText scientificText)

/-- A text writes a number without a sign that has a point or an exponent. -/
def WritesFloating (s : String) : Prop :=
  ∃ t : Number, t.negative = false ∧ t.WellFormed ∧ t.IsFloating ∧ s.toList = t.spelling

section

variable {whole fraction digits : List Char} {lead : Int} {s : String}

theorem WritesFloating.of_point (hwhole : AreWhole whole) (hfraction : AreDigits fraction)
    (h : s.toList = whole ++ '.' :: fraction) : WritesFloating s := by
  refine ⟨⟨false, whole, some fraction, none⟩, rfl, ⟨hwhole, ?_, nofun⟩, .inl rfl, ?_⟩
  · rintro _ ⟨⟩
    exact hfraction
  · simp [Number.spelling, h]

theorem WritesFloating.of_exponent (fraction : Option (List Char)) (down : Bool)
    (hwhole : AreWhole whole) (hfraction : ∀ ds, fraction = some ds → AreDigits ds)
    (hdigits : AreDigits digits) (h : s.toList = whole ++ (Number.fractionSpelling fraction ++
      Number.exponentSpelling (some (down, digits)))) : WritesFloating s := by
  refine ⟨⟨false, whole, fraction, some (down, digits)⟩, rfl, ⟨hwhole, hfraction, ?_⟩, .inr rfl, h⟩
  rintro _ ⟨⟩
  exact hdigits

/-- With its point in place, a decimal is a number with a point. -/
theorem writesFloating_positionalText (h : AreWhole digits) (hzero : digits = ['0'] → lead ≤ 0) :
    WritesFloating (positionalText ".0" digits lead) := by
  unfold positionalText
  split
  · exact .of_point (.toDigits 0) (h.toAreDigits.zeros_append (-lead - 1).toNat)
      (by simp)
  · next hlead =>
    dsimp only
    split
    · refine .of_point (h.append_zeros (lead.toNat + 1 - digits.length) fun hone => ?_)
        (.toDigits 0) ?_
      · have hle := hzero hone
        rw [hone, List.length_singleton]
        omega
      · rw [String.toList_append, String.toList_ofList]
        rfl
    · next hlength =>
      exact .of_point (h.take (Nat.succ_pos _) (Nat.lt_of_not_le hlength))
        (h.toAreDigits.drop (Nat.lt_of_not_le hlength)) String.toList_ofList

/-- With an exponent part, a decimal is a number with an exponent. -/
theorem writesFloating_scientificText (h : AreWhole digits) (lead : Int) :
    WritesFloating (scientificText digits lead) := by
  have hexponent : (toString lead.natAbs).toList = Nat.toDigits 10 lead.natAbs :=
    String.toList_ofList
  cases digits with
  | nil => exact absurd rfl h.ne_nil
  | cons d ds =>
    have hone : AreWhole [d] := ⟨h.toAreDigits.take (n := 1) (by decide), fun _ hcs =>
      (List.cons.inj hcs).2.symm⟩
    cases ds with
    | nil =>
      refine .of_exponent none (decide (lead < 0)) hone nofun (.toDigits lead.natAbs) ?_
      by_cases hlead : lead < 0 <;>
        simp [scientificText, String.toList_append, hlead]
    | cons e ds =>
      have hrest : AreDigits (e :: ds) := ⟨by simp, fun c hc => h.digits c (by simp [hc])⟩
      refine .of_exponent (some (e :: ds)) (decide (lead < 0)) hone ?_ (.toDigits lead.natAbs) ?_
      · rintro _ ⟨⟩
        exact hrest
      · by_cases hlead : lead < 0 <;>
          simp [scientificText, String.toList_append, hlead]

end

theorem writesFloating_finiteText (m : Nat) (e : Int) :
    WritesFloating (Layout.json.finiteText false m e) := by
  unfold Layout.finiteText
  extract_lets d digits lead plain
  simp only [Bool.false_eq_true, if_false, String.empty_append]
  split
  · refine writesFloating_positionalText (.toDigits _) fun hdigits => ?_
    have hzero : d.digits = 0 := by
      have hvalue := congrArg Text.decimalValue hdigits
      rwa [Text.decimalValue_toDigits] at hvalue
    have hexponent : d.exponent = 0 := Binary64.isTrimmed_shortest _ m e hzero
    have hlength : digits.length = 1 := by rw [hdigits]; rfl
    simp only [lead, hexponent, hlength]
    decide
  · exact writesFloating_scientificText (.toDigits _) lead

/-- A finite double is written as a number that has a point or an exponent. -/
theorem exists_spelling_text {x : Binary64} (h : x.isFinite = true) :
    ∃ t : Number, t.WellFormed ∧ t.IsFloating ∧ (Layout.json.text x).toList = t.spelling := by
  obtain ⟨m, e, hmagnitude⟩ := Binary64.exists_magnitude_eq h
  obtain ⟨t, hsign, hformed, hfloating, htext⟩ := writesFloating_finiteText m e
  refine ⟨⟨x.isNegative, t.whole, t.fraction, t.exponent⟩,
    ⟨hformed.whole, hformed.fraction, hformed.exponent⟩, hfloating, ?_⟩
  unfold Layout.text
  rw [hmagnitude]
  dsimp only
  rw [Layout.toList_finiteText, htext]
  simp [Number.spelling, hsign]

/-! ## Readings -/

/-- The floating-point reading of a text that is a number. -/
def float? (s : String) : Option Binary64 :=
  match Reading.number? s.toList with
  | some (t, []) => t.float?
  | _ => none

theorem Number.value?_of_isFloating {t : Number} (h : t.IsFloating) :
    t.value? = t.float?.map .float := by
  have hint : t.int? = none := if_pos h
  unfold value?
  rw [hint]

/-- The text of a finite double is read as one number, and this one is no integer. -/
theorem exists_tokenOfText {x : Binary64} (h : x.isFinite = true) :
    ∃ t : Number, t.WellFormed ∧ (Layout.json.text x).toList = t.spelling ∧
      Reading.tokenOfText (Layout.json.text x) = .number t ∧
      t.value? = (float? (Layout.json.text x)).map .float := by
  obtain ⟨t, hformed, hfloating, htext⟩ := exists_spelling_text h
  have hnumber : Reading.number? (Layout.json.text x).toList = some (t, []) := by
    rw [htext, ← List.append_nil t.spelling]
    exact Reading.number?_spelling hformed .nil
  refine ⟨t, hformed, htext, ?_, ?_⟩
  · unfold Reading.tokenOfText
    rw [hnumber]
  · unfold float?
    rw [hnumber, Number.value?_of_isFloating hfloating]

end SensorGateway.Json
