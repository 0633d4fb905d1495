/-
# SensorGateway.Proofs.Export.Csv -- comma-separated values lose nothing

`Csv.Writes` says which texts write a table of fields: fields stand between commas, rows end in a
line break of two characters, and a field stands in quotes, with every quote in it written
twice, unless it holds no comma, quote or part of a line break. A field may stand in quotes
without need, so many texts write one table.

`Csv.parse?_eq_some_iff` says that reading accepts just these texts, and so no text writes two
tables. An export is one of them (`Csv.encode_is_lossless`): whatever texts its records hold, it
is read as the header and one row of five fields for each record.
-/
import SensorGateway.Export.Csv
import SensorGateway.Export.Document

namespace SensorGateway.Export.Csv

/-! ## Which texts write a table -/

/-- A character that may stand in a field without quotes. -/
def IsPlain (c : Char) : Prop := c ≠ ',' ∧ c ≠ '"' ∧ c ≠ '\r' ∧ c ≠ '\n'

/-- A text that writes a field. -/
inductive WritesField : List Char → List Char → Prop
  | bare {f : List Char} : (∀ c ∈ f, IsPlain c) → WritesField f f
  | quoted (f : List Char) : WritesField ('"' :: (doubleQuotes f ++ ['"'])) f

/-- A text that writes a row, with its line break. -/
inductive WritesRow : List Char → List (List Char) → Prop
  | last {t f : List Char} : WritesField t f → WritesRow (t ++ ['\r', '\n']) [f]
  | cons {t f u : List Char} {r : List (List Char)} :
      WritesField t f → WritesRow u r → WritesRow (t ++ ',' :: u) (f :: r)

/-- A text that writes a table, row by row. -/
inductive Writes : List Char → List (List (List Char)) → Prop
  | nil : Writes [] []
  | cons {t u : List Char} {r : List (List Char)} {rs : List (List (List Char))} :
      WritesRow t r → Writes u rs → Writes (t ++ u) (r :: rs)

/-- What follows a field: a comma, or the line break. -/
def Delimits (cs : List Char) : Prop := ∃ c rest, cs = c :: rest ∧ (c = ',' ∨ c = '\r')

theorem delimits_comma (cs : List Char) : Delimits (',' :: cs) := ⟨',', cs, rfl, .inl rfl⟩

theorem delimits_break (cs : List Char) : Delimits ('\r' :: cs) := ⟨'\r', cs, rfl, .inr rfl⟩

/-! ## Every such text is read -/

/-- A quoted field ends at the first quote that does not stand twice. -/
theorem quoted?_doubleQuotes (f : List Char) {rest : List Char} (hrest : Delimits rest) :
    quoted? (doubleQuotes f ++ '"' :: rest) = some (f, rest) := by
  induction f with
  | nil =>
    obtain ⟨c, cs, rfl, rfl | rfl⟩ := hrest <;> rfl
  | cons c f ih =>
    by_cases hc : c = '"'
    · subst hc
      show quoted? ('"' :: '"' :: (doubleQuotes f ++ '"' :: rest)) = _
      rw [quoted?, ih]
      rfl
    · have hcons : doubleQuotes (c :: f) = c :: doubleQuotes f := by simp [doubleQuotes, hc]
      rw [hcons, List.cons_append, quoted?, ih]
      · rfl
      all_goals simp [hc]

theorem bare?_append {f : List Char} (hf : ∀ c ∈ f, IsPlain c) {rest : List Char}
    (hrest : Delimits rest) : bare? (f ++ rest) = some (f, rest) := by
  induction f with
  | nil =>
    obtain ⟨c, cs, rfl, hc⟩ := hrest
    exact if_pos hc
  | cons c f ih =>
    obtain ⟨⟨hcomma, hquote, hreturn, hfeed⟩, hf⟩ := List.forall_mem_cons.mp hf
    rw [List.cons_append, bare?, ih hf]
    simp [hcomma, hquote, hreturn, hfeed]

theorem field?_of_writes {t f rest : List Char} (h : WritesField t f) (hrest : Delimits rest) :
    field? (t ++ rest) = some (f, rest) := by
  cases h with
  | quoted f =>
    show quoted? ((doubleQuotes f ++ ['"']) ++ rest) = _
    rw [List.append_assoc]
    exact quoted?_doubleQuotes f hrest
  | bare hf =>
    have hbare := bare?_append hf hrest
    -- it does not begin with a quote, so it is taken for a field without quotes
    cases t with
    | nil =>
      obtain ⟨c, cs, rfl, rfl | rfl⟩ := hrest <;> exact hbare
    | cons c t =>
      have hquote : c ≠ '"' := (hf c List.mem_cons_self).2.1
      rw [List.cons_append] at hbare ⊢
      rw [field?, hbare]
      simp [hquote]

theorem row?_of_writes {t : List Char} {r : List (List Char)} (h : WritesRow t r) {fuel : Nat}
    (hfuel : r.length ≤ fuel) (rest : List Char) : row? fuel (t ++ rest) = some (r, rest) := by
  induction h generalizing fuel with
  | @last t f hfield =>
    obtain ⟨fuel, rfl⟩ := Nat.exists_eq_add_of_le' hfuel
    have hread := field?_of_writes hfield (delimits_break ('\n' :: rest))
    rw [List.append_assoc]
    show row? (fuel + 1) (t ++ '\r' :: '\n' :: rest) = _
    rw [row?, hread]
    rfl
  | @cons t f u r hfield _ ih =>
    have hsome : 0 < _ := Nat.lt_of_lt_of_le (Nat.succ_pos r.length) hfuel
    obtain ⟨fuel, rfl⟩ := Nat.exists_eq_add_of_le' hsome
    have hread := field?_of_writes hfield (delimits_comma (u ++ rest))
    have htail := ih (Nat.le_of_succ_le_succ hfuel)
    rw [List.append_assoc]
    show row? (fuel + 1) (t ++ ',' :: (u ++ rest)) = _
    rw [row?, hread]
    show (row? fuel (u ++ rest)).map _ = _
    rw [htail]
    rfl

/-- Every field takes at least the character behind it. -/
theorem WritesRow.length_le {t : List Char} {r : List (List Char)} (h : WritesRow t r) :
    r.length < t.length := by
  induction h with
  | last hfield => simp
  | cons hfield _ ih =>
    simp only [List.length_cons, List.length_append]
    omega

theorem Writes.length_le {t : List Char} {rs : List (List (List Char))} (h : Writes t rs) :
    rs.length ≤ t.length := by
  induction h with
  | nil => exact Nat.le_refl 0
  | cons hrow _ ih =>
    have hlength := hrow.length_le
    simp only [List.length_cons, List.length_append]
    omega

theorem rows?_of_writes {t : List Char} {rs : List (List (List Char))} (h : Writes t rs)
    {fuel : Nat} (hfuel : rs.length ≤ fuel) : rows? fuel t = some rs := by
  induction h generalizing fuel with
  | nil => cases fuel <;> rfl
  | @cons t u r rs hrow _ ih =>
    obtain ⟨fuel, rfl⟩ :=
      Nat.exists_eq_add_of_le' (Nat.lt_of_lt_of_le (Nat.succ_pos rs.length) hfuel)
    have hlength := hrow.length_le
    cases t with
    | nil => exact absurd hlength (Nat.not_lt_zero _)
    | cons c t =>
      have hfields : r.length ≤ (t ++ u).length + 1 := by
        rw [List.length_cons] at hlength
        rw [List.length_append]
        omega
      have hread : row? ((t ++ u).length + 1) (c :: (t ++ u)) = some (r, u) :=
        row?_of_writes hrow hfields u
      have htail := ih (Nat.le_of_succ_le_succ hfuel)
      show rows? (fuel + 1) (c :: (t ++ u)) = _
      rw [rows?, hread]
      show (do return r :: (← rows? fuel u)) = _
      rw [htail]
      rfl

/-! ## Nothing else is read -/

theorem quoted?_eq_some {cs f rest : List Char} (h : quoted? cs = some (f, rest)) :
    cs = doubleQuotes f ++ '"' :: rest := by
  fun_induction quoted? cs generalizing f with
  | case1 => cases h
  | case2 cs ih =>
    obtain ⟨⟨g, rest'⟩, hread, heq⟩ := Option.map_eq_some_iff.mp h
    obtain ⟨rfl, rfl⟩ := Prod.mk.inj heq
    rw [ih hread]
    simp [doubleQuotes]
  | case3 cs _ =>
    obtain ⟨rfl, rfl⟩ := Prod.mk.inj (Option.some.inj h)
    rfl
  | case4 c cs _ hc ih =>
    obtain ⟨⟨g, rest'⟩, hread, heq⟩ := Option.map_eq_some_iff.mp h
    obtain ⟨rfl, rfl⟩ := Prod.mk.inj heq
    rw [ih hread, doubleQuotes, if_neg hc]
    rfl

theorem bare?_eq_some {cs f rest : List Char} (h : bare? cs = some (f, rest)) :
    cs = f ++ rest ∧ ∀ c ∈ f, IsPlain c := by
  induction cs generalizing f with
  | nil =>
    obtain ⟨rfl, rfl⟩ := Prod.mk.inj (Option.some.inj h)
    exact ⟨rfl, nofun⟩
  | cons c cs ih =>
    unfold bare? at h
    split at h
    · obtain ⟨rfl, rfl⟩ := Prod.mk.inj (Option.some.inj h)
      exact ⟨rfl, nofun⟩
    · next hdelimiter =>
      split at h
      · cases h
      · next hspecial =>
        obtain ⟨⟨g, rest'⟩, hread, heq⟩ := Option.map_eq_some_iff.mp h
        obtain ⟨rfl, rfl⟩ := Prod.mk.inj heq
        obtain ⟨rfl, hplain⟩ := ih hread
        have hc : IsPlain c := by
          rw [not_or] at hdelimiter hspecial
          exact ⟨hdelimiter.1, hspecial.1, hdelimiter.2, hspecial.2⟩
        exact ⟨rfl, List.forall_mem_cons.mpr ⟨hc, hplain⟩⟩

theorem writes_of_field? {cs f rest : List Char} (h : field? cs = some (f, rest)) :
    ∃ t, cs = t ++ rest ∧ WritesField t f := by
  unfold field? at h
  split at h
  · next cs =>
    refine ⟨_, ?_, .quoted f⟩
    rw [quoted?_eq_some h, List.cons_append, List.append_assoc]
    rfl
  · obtain ⟨rfl, hplain⟩ := bare?_eq_some h
    exact ⟨f, rfl, .bare hplain⟩

theorem writes_of_row? {fuel : Nat} {cs rest : List Char} {r : List (List Char)}
    (h : row? fuel cs = some (r, rest)) : ∃ t, cs = t ++ rest ∧ WritesRow t r := by
  induction fuel generalizing cs r with
  | zero => cases h
  | succ fuel ih =>
    rw [row?] at h
    obtain ⟨⟨f, after⟩, hfield, hrest⟩ := Option.bind_eq_some_iff.mp h
    obtain ⟨t, rfl, hwrites⟩ := writes_of_field? hfield
    dsimp only at hrest
    split at hrest
    · next after =>
      obtain ⟨⟨r', rest'⟩, hrow, heq⟩ := Option.map_eq_some_iff.mp hrest
      obtain ⟨rfl, rfl⟩ := Prod.mk.inj heq
      obtain ⟨u, rfl, hu⟩ := ih hrow
      exact ⟨t ++ ',' :: u, by simp, .cons hwrites hu⟩
    · next after =>
      obtain ⟨rfl, rfl⟩ := Prod.mk.inj (Option.some.inj hrest)
      exact ⟨t ++ ['\r', '\n'], by simp, .last hwrites⟩
    · cases hrest

theorem writes_of_rows? {fuel : Nat} {cs : List Char} {rs : List (List (List Char))}
    (h : rows? fuel cs = some rs) : Writes cs rs := by
  induction fuel generalizing cs rs with
  | zero =>
    cases cs with
    | nil =>
      obtain rfl := Option.some.inj h
      exact .nil
    | cons c cs => cases h
  | succ fuel ih =>
    cases cs with
    | nil =>
      obtain rfl := Option.some.inj h
      exact .nil
    | cons c cs =>
      rw [rows?] at h
      obtain ⟨⟨r, rest⟩, hrow, htail⟩ := Option.bind_eq_some_iff.mp h
      obtain ⟨rs', hrows, heq⟩ := Option.bind_eq_some_iff.mp htail
      obtain rfl := Option.some.inj heq
      obtain ⟨t, hsplit, hwrites⟩ := writes_of_row? hrow
      rw [hsplit]
      exact .cons hwrites (ih hrows)

/-- **Reading accepts just the texts that write a table**, and gives that table. -/
theorem parse?_eq_some_iff {cs : List Char} {rs : List (List (List Char))} :
    parse? cs = some rs ↔ Writes cs rs :=
  ⟨writes_of_rows?, fun h => rows?_of_writes h h.length_le⟩

/-! ## What exports write -/

theorem writes_encodeField (f : List Char) : WritesField (encodeField f) f := by
  unfold encodeField
  split
  · exact .quoted f
  · next h =>
    -- no character of it asks for quotes
    refine .bare fun c hc => ?_
    simp only [needsQuotes, Bool.or_eq_true, List.any_eq_true, not_or, not_exists, not_and] at h
    have hnone := h.1 c hc
    simp only [decide_eq_true_eq] at hnone
    obtain ⟨⟨⟨hcomma, hquote⟩, hreturn⟩, hfeed⟩ := hnone
    exact ⟨hcomma, hquote, hreturn, hfeed⟩

theorem writes_encodeRow {r : List (List Char)} (hr : r ≠ []) : WritesRow (encodeRow r) r := by
  induction r with
  | nil => exact absurd rfl hr
  | cons f rest ih =>
    cases rest with
    | nil => exact .last (writes_encodeField f)
    | cons g rest => exact .cons (writes_encodeField f) (ih (List.cons_ne_nil g rest))

theorem writes_encodeRows {rs : List (List (List Char))} (h : ∀ r ∈ rs, r ≠ []) :
    Writes (encodeRows rs) rs := by
  induction rs with
  | nil => exact .nil
  | cons r rs ih =>
    obtain ⟨hr, hrs⟩ := List.forall_mem_cons.mp h
    exact .cons (writes_encodeRow hr) (ih hrs)

/-- An export writes the header and the fields of its records. -/
theorem writes_encode (records : List Record) :
    Writes (encode records).toList ((header :: records.map fields).map (·.map String.toList)) := by
  rw [encode, String.toList_ofList]
  refine writes_encodeRows fun r hr => ?_
  obtain ⟨row, hrow, rfl⟩ := List.mem_map.mp hr
  rcases List.mem_cons.mp hrow with rfl | hrow
  · exact List.cons_ne_nil _ _
  · obtain ⟨record, -, rfl⟩ := List.mem_map.mp hrow
    exact List.cons_ne_nil _ _

/-- **An export loses nothing.** Whatever texts its records hold, the export is read as the five
names of the columns and then, in their order, one row for each record: its time, server, object,
variable and value as texts. There is no other table that it writes. The document of the
same records counts as many records as there are such rows, as far as a word can count. -/
theorem encode_is_lossless (records : List Record) (now : Instant) :
    ∃ rows : List (List (List Char)),
      (∀ table, Writes (encode records).toList table ↔
        table = ["timestamp", "server_id", "object_name", "variable_name", "value"].map
          String.toList :: rows) ∧
      parse? (encode records).toList =
        some (["timestamp", "server_id", "object_name", "variable_name", "value"].map
          String.toList :: rows) ∧
      rows = records.map (fun r => [r.time.text.toList, r.server.toList, r.object.toList,
        r.variableName.toList, r.value.display.toList]) ∧
      (∀ row ∈ rows, row.length = 5) ∧
      (Document.ofRecords now records).count = UInt64.ofNat rows.length ∧
      (records.length < UInt64.size →
        (Document.ofRecords now records).count.toNat = rows.length) := by
  let rows := records.map fun r => [r.time.text.toList, r.server.toList, r.object.toList,
    r.variableName.toList, r.value.display.toList]
  have hwrites : Writes (encode records).toList
      (["timestamp", "server_id", "object_name", "variable_name", "value"].map String.toList ::
        rows) := by
    have h := writes_encode records
    rw [List.map_cons, List.map_map] at h
    exact h
  have hread := parse?_eq_some_iff.mpr hwrites
  have hlength : rows.length = records.length := List.length_map _
  refine ⟨rows, fun table => ⟨fun h => ?_, fun h => h ▸ hwrites⟩, hread, rfl, ?_, ?_, ?_⟩
  · -- a text is read in one way only
    exact Option.some.inj ((parse?_eq_some_iff.mpr h).symm.trans hread)
  · intro row hrow
    obtain ⟨record, -, rfl⟩ := List.mem_map.mp hrow
    rfl
  · rw [hlength]
    rfl
  · intro hfew
    rw [hlength]
    exact UInt64.toNat_ofNat_of_lt' hfew

/-- Two records whose texts hold commas, quotes and line breaks. -/
theorem hostile_texts_survive :
    let first : Record := ⟨⟨0, 0⟩, "a,b", " \r\n", "\"", .text "x\r\ny\n"⟩
    let second : Record := ⟨⟨0, 500000000⟩, "", ",\"\",", "é😀", .bool true⟩
    ([first, second].length < UInt64.size) ∧
      parse? (encode [first, second]).toList = some
        ([["timestamp", "server_id", "object_name", "variable_name", "value"],
          ["1970-01-01T00:00:00Z", "a,b", " \r\n", "\"", "x\r\ny\n"],
          ["1970-01-01T00:00:00.500Z", "", ",\"\",", "é😀", "true"]].map
          (·.map String.toList)) ∧
      (Document.ofRecords ⟨0, 0⟩ [first, second]).count.toNat = 2 := by
  intro first second
  obtain ⟨rows, -, hread, rfl, -, -, hcount⟩ :=
    encode_is_lossless [first, second] ⟨0, 0⟩
  refine ⟨by decide, hread.trans ?_, hcount (by decide)⟩
  decide

end SensorGateway.Export.Csv
