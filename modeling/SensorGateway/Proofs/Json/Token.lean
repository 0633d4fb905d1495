/-
# SensorGateway.Proofs.Json.Token -- tokens that read back

A number token has one spelling (`Number.spelling`), and the reader takes exactly it from the front
of a text (`Reading.number?_spelling`), whatever follows, as long as that is no part of a number.
An integer is written as such a spelling without point and exponent (`toList_toString_int`).

A string is written character by character, and each character's text is read as that
character (`Reading.stringRest?_escape`).
-/
import SensorGateway.Json.Wire
import SensorGateway.Proofs.Text.Digits

namespace SensorGateway.Json

open Text (EndsDigits)

/-! ## The spelling of a number -/

/-- Digits, at least one. -/
structure AreDigits (ds : List Char) : Prop where
  ne_nil : ds ≠ []
  digits : ∀ c ∈ ds, c.isDigit = true

namespace AreDigits

variable {ds : List Char}

theorem toDigits (n : Nat) : AreDigits (Nat.toDigits 10 n) :=
  ⟨Nat.toDigits_ne_nil, Text.isDigit_toDigits⟩

theorem append_zeros (h : AreDigits ds) (n : Nat) : AreDigits (ds ++ List.replicate n '0') :=
  ⟨by simp [h.ne_nil], fun c hc =>
    (List.mem_append.mp hc).elim (h.digits c) (Text.isDigit_zeros c)⟩

theorem zeros_append (h : AreDigits ds) (n : Nat) : AreDigits (List.replicate n '0' ++ ds) :=
  ⟨by simp [h.ne_nil], fun c hc =>
    (List.mem_append.mp hc).elim (Text.isDigit_zeros c) (h.digits c)⟩

theorem take (h : AreDigits ds) {n : Nat} (hpos : 0 < n) : AreDigits (ds.take n) where
  ne_nil hnil := (List.take_eq_nil_iff.mp hnil).elim (Nat.ne_of_gt hpos) h.ne_nil
  digits c hc := h.digits c (List.mem_of_mem_take hc)

theorem drop (h : AreDigits ds) {n : Nat} (hlength : n < ds.length) : AreDigits (ds.drop n) where
  ne_nil hnil := Nat.not_le_of_lt hlength (List.drop_eq_nil_iff.mp hnil)
  digits c hc := h.digits c (List.mem_of_mem_drop hc)

end AreDigits

/-- Digits before the point: a zero stands there alone only. -/
structure AreWhole (ds : List Char) : Prop extends AreDigits ds where
  zero : ∀ cs, ds = '0' :: cs → cs = []

theorem AreWhole.toDigits (n : Nat) : AreWhole (Nat.toDigits 10 n) where
  toAreDigits := .toDigits n
  zero _ := Text.eq_nil_of_toDigits_eq

/-- Whole digits that begin with a zero are this zero. -/
theorem AreWhole.eq_zero {ds cs : List Char} (h : AreWhole ds) (hds : ds = '0' :: cs) :
    ds = ['0'] := by
  rw [hds, h.zero cs hds]

theorem AreWhole.append_zeros {ds : List Char} (h : AreWhole ds) (n : Nat)
    (hzero : ds = ['0'] → n = 0) : AreWhole (ds ++ List.replicate n '0') where
  toAreDigits := h.toAreDigits.append_zeros n
  zero cs hcs := by
    obtain ⟨c, rest, hds⟩ := List.exists_cons_of_ne_nil h.ne_nil
    rw [hds, List.cons_append] at hcs
    obtain ⟨rfl, hrest⟩ := List.cons.inj hcs
    rw [← hrest, h.zero rest hds, hzero (h.eq_zero hds)]
    rfl

theorem AreWhole.take {ds : List Char} (h : AreWhole ds) {n : Nat} (hpos : 0 < n)
    (hlength : n < ds.length) : AreWhole (ds.take n) where
  toAreDigits := h.toAreDigits.take hpos
  zero cs hcs := by
    obtain ⟨c, rest, hds⟩ := List.exists_cons_of_ne_nil h.ne_nil
    obtain ⟨n, rfl⟩ := Nat.exists_eq_succ_of_ne_zero (Nat.ne_of_gt hpos)
    rw [hds, List.take_succ_cons] at hcs
    obtain ⟨rfl, -⟩ := List.cons.inj hcs
    rw [h.eq_zero hds, List.length_singleton] at hlength
    omega

namespace Number

/-- The text of an exponent, with its sign. -/
@[simp] def exponentSpelling : Option (Bool × List Char) → List Char
  | none => []
  | some (down, ds) => 'e' :: (if down then '-' else '+') :: ds

/-- The text of a fraction, with its point. -/
@[simp] def fractionSpelling : Option (List Char) → List Char
  | none => []
  | some ds => '.' :: ds

/-- A number token as text. -/
def spelling (t : Number) : List Char :=
  (if t.negative then ['-'] else []) ++
    (t.whole ++ (fractionSpelling t.fraction ++ exponentSpelling t.exponent))

/-- Every part of the token has its digits. -/
structure WellFormed (t : Number) : Prop where
  whole : AreWhole t.whole
  fraction : ∀ ds, t.fraction = some ds → AreDigits ds
  exponent : ∀ e, t.exponent = some e → AreDigits e.2

/-- The token has a point or an exponent. -/
def IsFloating (t : Number) : Prop := t.fraction.isSome ∨ t.exponent.isSome

end Number

/-- A text does not go on with a part of a number. -/
structure EndsNumber (cs : List Char) : Prop where
  digits : EndsDigits cs
  point : ∀ rest, cs ≠ '.' :: rest
  exponent : ∀ c rest, cs = c :: rest → c ≠ 'e' ∧ c ≠ 'E'

theorem EndsNumber.nil : EndsNumber [] := ⟨.nil, nofun, nofun⟩

theorem EndsNumber.cons {c : Char} (hdigit : c.isDigit = false) (hpoint : c ≠ '.')
    (hexponent : c ≠ 'e' ∧ c ≠ 'E') (rest : List Char) : EndsNumber (c :: rest) where
  digits := .cons hdigit rest
  point _ h := hpoint (List.cons.inj h).1
  exponent _ _ h := (List.cons.inj h).1 ▸ hexponent

namespace Reading

variable {ds rest : List Char}

theorem digits?_append (h : AreDigits ds) (hrest : EndsDigits rest) :
    digits? (ds ++ rest) = some (ds, rest) := by
  unfold digits?
  rw [Text.takeWhile_digits h.digits hrest, Text.dropWhile_digits h.digits hrest]
  simp only [if_neg h.ne_nil]

theorem whole?_append (h : AreWhole ds) (hrest : EndsDigits rest) :
    whole? (ds ++ rest) = some (ds, rest) := by
  cases ds with
  | nil => exact absurd rfl h.ne_nil
  | cons c cs =>
    by_cases hc : c = '0'
    · subst hc
      obtain rfl : cs = [] := h.zero cs rfl
      cases rest with
      | nil => rfl
      | cons d rest =>
        show (if d.isDigit then none else some (['0'], d :: rest)) = _
        rw [hrest d rest rfl, if_neg (by decide)]
    · have hdigits := digits?_append h.toAreDigits hrest
      rw [List.cons_append] at hdigits ⊢
      unfold whole?
      split
      · next heq => exact absurd (List.cons.inj heq).1 hc
      · exact hdigits

theorem exponent?_append {e : Option (Bool × List Char)} (h : ∀ x, e = some x → AreDigits x.2)
    (hrest : EndsNumber rest) :
    exponent? (Number.exponentSpelling e ++ rest) = some (e, rest) := by
  cases e with
  | none =>
    show exponent? rest = _
    cases rest with
    | nil => rfl
    | cons c cs =>
      simp only [exponent?, hrest.exponent c cs rfl, or_self, if_false]
  | some x =>
    obtain ⟨down, ds⟩ := x
    have hdigits := digits?_append (h _ rfl) hrest.digits
    cases down <;>
      simp [Number.exponentSpelling, exponent?, hdigits]

theorem unsigned?_append {t : Number} (h : t.WellFormed) (hrest : EndsNumber rest) :
    unsigned? t.negative (t.whole ++ (Number.fractionSpelling t.fraction ++
      (Number.exponentSpelling t.exponent ++ rest))) = some (t, rest) := by
  obtain ⟨negative, whole, fraction, exponent⟩ := t
  have hexponent := exponent?_append h.exponent hrest
  have hdigits : EndsDigits (Number.exponentSpelling exponent ++ rest) := by
    cases exponent with
    | none => exact hrest.digits
    | some e => exact .cons (by decide) _
  cases fraction with
  | none =>
    have hwhole := whole?_append h.whole hdigits
    -- without a fraction, what stands behind the whole digits is no point
    have hpoint (cs : List Char) : Number.exponentSpelling exponent ++ rest ≠ '.' :: cs := by
      cases exponent with
      | none => exact hrest.point cs
      | some e => simp [Number.exponentSpelling]
    simp only [unsigned?, Number.fractionSpelling, List.nil_append, hwhole, Option.bind_eq_bind,
      Option.bind_some, hexponent]
    rfl
  | some fs =>
    have hwhole := whole?_append h.whole
      (.cons (by decide) (fs ++ (Number.exponentSpelling exponent ++ rest)) : EndsDigits ('.' :: _))
    have hfraction := digits?_append (h.fraction fs rfl) hdigits
    simp only [unsigned?, Number.fractionSpelling, List.cons_append, hwhole, Option.bind_eq_bind,
      Option.bind_some, hfraction, Option.map_some, hexponent]
    rfl

/-- The reader takes the spelling of a token from the front of a text. -/
theorem number?_spelling {t : Number} (h : t.WellFormed) (hrest : EndsNumber rest) :
    number? (t.spelling ++ rest) = some (t, rest) := by
  have hunsigned := unsigned?_append h hrest
  unfold Number.spelling
  cases hsign : t.negative with
  | true =>
    rw [hsign] at hunsigned
    simpa [number?] using hunsigned
  | false =>
    rw [hsign] at hunsigned
    simp only [Bool.false_eq_true, if_false, List.nil_append, List.append_assoc]
    unfold number?
    split
    · next cs heq =>
      -- a token without a sign begins with a digit
      obtain ⟨c, ds, hwhole⟩ := List.exists_cons_of_ne_nil h.whole.ne_nil
      rw [hwhole, List.cons_append] at heq
      have hdigit := h.whole.digits c (by simp [hwhole])
      rw [(List.cons.inj heq).1] at hdigit
      exact absurd hdigit (by decide)
    · exact hunsigned

/-! ## Integers -/

theorem wellFormed_tokenOfInt (n : Int) : (tokenOfInt n).WellFormed :=
  ⟨.toDigits _, nofun, nofun⟩

theorem toList_toString_int (n : Int) : (toString n).toList = (tokenOfInt n).spelling := by
  cases n with
  | ofNat n =>
    show (String.ofList (Nat.toDigits 10 n)).toList = _
    simp [Number.spelling, tokenOfInt]
  | negSucc n =>
    show ("-" ++ String.ofList (Nat.toDigits 10 (n + 1))).toList = _
    have hneg : Int.negSucc n < 0 := Int.negSucc_lt_zero n
    simp [Number.spelling, tokenOfInt, hneg, String.toList_append]

/-- The token of an integer stands for it, as far as it has 64 bits. -/
theorem value?_tokenOfInt {n : Int} (hlow : -0x8000000000000000 ≤ n) (hhigh : n < UInt64.size) :
    (tokenOfInt n).value? = some (.int n) := by
  have hint : (tokenOfInt n).int? = some n := by
    unfold Number.int? tokenOfInt
    simp only [Option.isSome_none, Bool.false_eq_true, or_self, if_false, decide_eq_true_eq,
      Text.decimalValue_toDigits]
    split
    · rw [if_neg (by omega)]
      exact congrArg some (by omega)
    · rw [if_pos (by omega)]
      exact congrArg some (by omega)
  unfold Number.value?
  rw [hint]

end Reading

/-! ## Strings -/

namespace Reading

theorem hexEscape?_encode {n : Nat} (h : n < 0x10000) (rest : List Char) :
    hexEscape? (Text.Hex.encode 4 n ++ rest) = some (n, rest) := by
  have hdecode : Text.Hex.decode? (Text.Hex.encode 4 n) = some n := Text.Hex.decode?_encode 4 n h
  simp only [Text.Hex.encode, List.nil_append, List.cons_append] at hdecode ⊢
  simp only [hexEscape?, hdecode, Option.map_some]

/-- What a character is written as is read as this character. -/
theorem stringRest?_escape (c : Char) (fuel : Nat) (rest : List Char) :
    stringRest? (fuel + 1) (escape c ++ rest) =
      (stringRest? fuel rest).map fun r => (some c :: r.1, r.2) := by
  by_cases hsimple : c ∈ ['"', '\\', '\x08', '\t', '\n', '\x0c', '\r']
  · simp only [List.mem_cons, List.not_mem_nil, or_false] at hsimple
    rcases hsimple with rfl | rfl | rfl | rfl | rfl | rfl | rfl <;> rfl
  · simp only [List.mem_cons, List.not_mem_nil, or_false, not_or] at hsimple
    obtain ⟨hquote, hbackslash, hb, ht, hn, hf, hr⟩ := hsimple
    simp only [escape, hquote, hbackslash, hb, ht, hn, hf, hr, if_false]
    split
    · -- a control character is far below the surrogates
      next hcontrol =>
      have hhex := hexEscape?_encode (by omega : c.toNat < 0x10000) rest
      have hhigh : isHighSurrogate c.toNat = false := by
        simp only [isHighSurrogate, Bool.and_eq_false_iff, decide_eq_false_iff_not]
        omega
      have hlow : isLowSurrogate c.toNat = false := by
        simp only [isLowSurrogate, Bool.and_eq_false_iff, decide_eq_false_iff_not]
        omega
      simp [stringRest?, hhex, hhigh, hlow, Char.ofNat_toNat]
    · next hplain => simp [stringRest?, hquote, hbackslash, hplain]

theorem stringRest?_flatMap_escape {cs : List Char} {fuel : Nat} (h : cs.length < fuel)
    (rest : List Char) :
    stringRest? fuel (cs.flatMap escape ++ '"' :: rest) = some (cs.map some, rest) := by
  induction cs generalizing fuel with
  | nil =>
    obtain ⟨fuel, rfl⟩ := Nat.exists_eq_succ_of_ne_zero (Nat.ne_of_gt h)
    rfl
  | cons c cs ih =>
    obtain ⟨fuel, rfl⟩ := Nat.exists_eq_succ_of_ne_zero (Nat.ne_of_gt (Nat.zero_lt_of_lt h))
    rw [List.flatMap_cons, List.append_assoc, stringRest?_escape, ih (Nat.lt_of_succ_lt_succ h)]
    rfl

theorem length_le_flatMap_escape (cs : List Char) : cs.length ≤ (cs.flatMap escape).length := by
  have hone (c : Char) : 1 ≤ (escape c).length := by
    unfold escape
    repeat' split
    all_goals simp
  induction cs with
  | nil => exact Nat.le_refl 0
  | cons c cs ih =>
    have hc := hone c
    simp only [List.length_cons, List.flatMap_cons, List.length_append]
    omega

/-- The text of a string behind its opening quote is read as the string. -/
theorem string?_render (s : String) (rest : List Char) :
    string? (s.toList.flatMap escape ++ '"' :: rest) = some (some s, rest) := by
  have hlength := length_le_flatMap_escape s.toList
  have hwhole : (s.toList.map some).mapM id = some s.toList := by
    rw [List.mapM_map]
    exact List.mapM_pure.trans (by rw [List.map_id']; rfl)
  unfold string?
  rw [stringRest?_flatMap_escape (by simp only [List.length_append]; omega)]
  simp only [Option.map_some, hwhole, String.ofList_toList]

end Reading

end SensorGateway.Json
