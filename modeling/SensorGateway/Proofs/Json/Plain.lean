/-
# SensorGateway.Proofs.Json.Plain -- JSON text without control characters

The compact text of a value has no character below U+0020 (`Json.plain_render`), so it is one line,
whatever the strings in it hold. Outside of strings there are only numbers, words and marks; inside
of them a control character is written with its escape.
-/
import SensorGateway.Proofs.Json.Double
import SensorGateway.Proofs.Text.Hex

namespace SensorGateway.Json

/-- A text without control characters. -/
def Plain (cs : List Char) : Prop := ∀ c ∈ cs, 0x20 ≤ c.toNat

instance (cs : List Char) : Decidable (Plain cs) :=
  List.decidableBAll (fun c : Char => 0x20 ≤ c.toNat) cs

namespace Plain

variable {c : Char} {cs ds : List Char}

theorem nil : Plain [] := nofun

theorem cons (hc : 0x20 ≤ c.toNat) (h : Plain cs) : Plain (c :: cs) :=
  List.forall_mem_cons.mpr ⟨hc, h⟩

theorem append (h : Plain cs) (h' : Plain ds) : Plain (cs ++ ds) :=
  List.forall_mem_append.mpr ⟨h, h'⟩

theorem of_digits (h : ∀ c ∈ cs, c.isDigit = true) : Plain cs := fun c hc => by
  have hrange : 48 ≤ c.toNat ∧ c.toNat ≤ 57 := Char.isDigit_iff_toNat.mp (h c hc)
  omega

/-- A text without control characters is one line. -/
theorem ne_lineBreak (h : Plain cs) (hc : c ∈ cs) : c ≠ '\n' ∧ c ≠ '\r' := by
  have hlow := h c hc
  constructor <;> rintro rfl <;> exact absurd hlow (by decide)

end Plain

/-! ## Tokens -/

theorem plain_escape (c : Char) : Plain (escape c) := by
  by_cases hsimple : c ∈ ['"', '\\', '\x08', '\t', '\n', '\x0c', '\r']
  · simp only [List.mem_cons, List.not_mem_nil, or_false] at hsimple
    rcases hsimple with rfl | rfl | rfl | rfl | rfl | rfl | rfl <;> decide
  · simp only [List.mem_cons, List.not_mem_nil, or_false, not_or] at hsimple
    obtain ⟨hquote, hbackslash, hb, ht, hn, hf, hr⟩ := hsimple
    simp only [escape, hquote, hbackslash, hb, ht, hn, hf, hr, if_false]
    split
    · -- the digits of an escape are no control characters, whichever they are
      have hdigits : Plain (Text.Hex.encode 4 c.toNat) :=
        Text.Hex.forall_mem_encode (by decide) 4 c.toNat
      exact .cons (by decide) (.cons (by decide) hdigits)
    · next hplain => exact .cons (Nat.le_of_not_lt hplain) .nil

theorem plain_renderString (s : String) : Plain (renderString s) := by
  refine .cons (by decide) (.append (fun c hc => ?_) (by decide))
  obtain ⟨d, -, hd⟩ := List.mem_flatMap.mp hc
  exact plain_escape d c hd

theorem Number.WellFormed.plain_spelling {t : Number} (h : t.WellFormed) : Plain t.spelling := by
  have hfraction : Plain (fractionSpelling t.fraction) := by
    cases hds : t.fraction with
    | none => exact .nil
    | some ds => exact .cons (by decide) (.of_digits (h.fraction ds hds).digits)
  have hexponent : Plain (exponentSpelling t.exponent) := by
    cases he : t.exponent with
    | none => exact .nil
    | some e =>
      refine .cons (by decide) (.cons ?_ (.of_digits (h.exponent e he).digits))
      split <;> decide
  refine .append ?_ ((Plain.of_digits h.whole.digits).append (hfraction.append hexponent))
  split <;> decide

theorem plain_text (x : Binary64) : Plain (Binary64.Layout.json.text x).toList := by
  unfold Binary64.Layout.text
  split
  · decide
  · split <;> decide
  · next m e _ =>
    obtain ⟨t, -, hformed, -, htext⟩ := writesFloating_finiteText m e
    rw [Binary64.Layout.toList_finiteText, htext]
    refine .append ?_ hformed.plain_spelling
    split <;> decide

/-! ## Values -/

mutual

theorem plain_renderChars : (v : Json) → Plain v.renderChars
  | .null => by decide
  | .bool true => by decide
  | .bool false => by decide
  | .int n => by
    rw [renderChars, Reading.toList_toString_int]
    exact (Reading.wellFormed_tokenOfInt n).plain_spelling
  | .float x => plain_text x
  | .str s => plain_renderString s
  | .arr items => .cons (by decide) (plain_renderItems items)
  | .obj members => .cons (by decide) (plain_renderMembers members)

theorem plain_renderItems : (items : List Json) → Plain (renderItems items)
  | [] => by decide
  | [v] => (plain_renderChars v).append (by decide)
  | v :: w :: items =>
    (plain_renderChars v).append (.cons (by decide) (plain_renderItems (w :: items)))

theorem plain_renderMembers : (members : List (String × Json)) → Plain (renderMembers members)
  | [] => by decide
  | [(k, v)] =>
    (plain_renderString k).append (.cons (by decide) ((plain_renderChars v).append (by decide)))
  | (k, v) :: m :: members =>
    (plain_renderString k).append (.cons (by decide)
      ((plain_renderChars v).append (.cons (by decide) (plain_renderMembers (m :: members)))))

end

/-- **The text of a value has no control character in it.** -/
theorem plain_render (v : Json) : Plain v.render.toList := by
  rw [render, String.toList_ofList]
  exact plain_renderChars v

end SensorGateway.Json
