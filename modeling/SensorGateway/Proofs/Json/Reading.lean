/-
# SensorGateway.Proofs.Json.Reading -- a text of data is read as that data

The text of a value is read as that value (`Reading.ofText_render`): every token ends where the
writer ended it, and every list and record has its members in their order. Only a double that is
no number has no text, and such a double is never put into a value (`ofBinary64`).

The induction is on the value, together with the items of a list and the members of a record,
with any text behind them. The fuel of the reader needs to be no more than the length of the text,
since every value and every separator has a character.
-/
import SensorGateway.Proofs.Json.Double

namespace SensorGateway.Json

/-! ## Values that have a text -/

mutual

/-- Every double in a value is finite. -/
def isFinite : Json → Bool
  | .float x => x.isFinite
  | .arr items => itemsFinite items
  | .obj members => membersFinite members
  | _ => true

/-- `isFinite` for the items of an array. -/
def itemsFinite : List Json → Bool
  | [] => true
  | v :: rest => isFinite v && itemsFinite rest

/-- `isFinite` for the members of an object. -/
def membersFinite : List (String × Json) → Bool
  | [] => true
  | (_, v) :: rest => isFinite v && membersFinite rest

end

/-! ## How texts begin -/

/-- The text begins as a value: with neither white space nor a closing bracket. -/
def Begins (cs : List Char) : Prop :=
  ∃ c rest, cs = c :: rest ∧ Reading.isSpace c = false ∧ c ≠ ']'

theorem Begins.cons {c : Char} (hspace : Reading.isSpace c = false) (hbracket : c ≠ ']')
    (rest : List Char) : Begins (c :: rest) := ⟨c, rest, rfl, hspace, hbracket⟩

theorem Begins.append {cs : List Char} (h : Begins cs) (rest : List Char) :
    Begins (cs ++ rest) := by
  obtain ⟨c, cs, rfl, hc⟩ := h
  exact ⟨c, cs ++ rest, rfl, hc⟩

theorem Begins.skipSpace {cs : List Char} (h : Begins cs) : Reading.skipSpace cs = cs := by
  obtain ⟨c, cs, rfl, hspace, -⟩ := h
  exact List.dropWhile_cons_of_neg (by simp [hspace])

/-- The first character of a number. -/
theorem Number.WellFormed.exists_spelling_eq_cons {t : Number} (h : t.WellFormed) :
    ∃ c cs, t.spelling = c :: cs ∧ (c = '-' ∨ c.isDigit = true) := by
  unfold Number.spelling
  split
  · exact ⟨'-', _, rfl, .inl rfl⟩
  · obtain ⟨c, cs, hwhole⟩ := List.exists_cons_of_ne_nil h.whole.ne_nil
    rw [hwhole]
    exact ⟨c, _, rfl, .inr (h.whole.digits c (by simp [hwhole]))⟩

/-- A character that begins a number begins nothing else. -/
theorem ne_of_begins_number {c d : Char} (h : c = '-' ∨ c.isDigit = true)
    (hd : d ≠ '-' ∧ d.isDigit = false) : c ≠ d := by
  rintro rfl
  rcases h with h | h
  · exact hd.1 h
  · rw [hd.2] at h
    cases h

theorem begins_spelling {t : Number} (h : t.WellFormed) : Begins t.spelling := by
  obtain ⟨c, cs, heq, hc⟩ := h.exists_spelling_eq_cons
  have hne {d : Char} (hd : d ≠ '-' ∧ d.isDigit = false) : c ≠ d := ne_of_begins_number hc hd
  refine ⟨c, cs, heq, ?_, hne (by decide)⟩
  simp [Reading.isSpace, hne (by decide : ' ' ≠ '-' ∧ _), hne (by decide : '\n' ≠ '-' ∧ _),
    hne (by decide : '\t' ≠ '-' ∧ _), hne (by decide : '\r' ≠ '-' ∧ _)]

theorem begins_renderChars {v : Json} (h : v.isFinite = true) : Begins v.renderChars := by
  cases v with
  | null => exact .cons (by decide) (by decide) _
  | bool b => cases b <;> exact .cons (by decide) (by decide) _
  | int n =>
    rw [renderChars, Reading.toList_toString_int]
    exact begins_spelling (Reading.wellFormed_tokenOfInt n)
  | float x =>
    obtain ⟨t, hformed, -, htext⟩ := exists_spelling_text h
    rw [renderChars, htext]
    exact begins_spelling hformed
  | str s => exact .cons (by decide) (by decide) _
  | arr items => exact .cons (by decide) (by decide) _
  | obj members => exact .cons (by decide) (by decide) _

/-! ## Values -/

namespace Reading

variable {fuel : Nat} {rest : List Char}

theorem value_spelling {t : Number} (h : t.WellFormed) (hrest : EndsNumber rest) :
    value (fuel + 1) (t.spelling ++ rest) = (.number t, some rest) := by
  obtain ⟨c, cs, heq, hc⟩ := h.exists_spelling_eq_cons
  have hne {d : Char} (hd : d ≠ '-' ∧ d.isDigit = false) : c ≠ d := ne_of_begins_number hc hd
  have hnumber := number?_spelling h hrest
  rw [heq, List.cons_append] at hnumber ⊢
  -- no other kind of value begins as a number does
  unfold value
  rw [if_neg (hne (by decide)), if_neg (hne (by decide)), if_neg (hne (by decide)),
    if_neg (hne (by decide)), if_neg (hne (by decide)), if_neg (hne (by decide)), hnumber]

theorem value_renderString (s : String) (rest : List Char) :
    value (fuel + 1) (renderString s ++ rest) = (.text (some s), some rest) := by
  rw [renderString, List.cons_append, List.append_assoc, List.singleton_append, value]
  simp only [if_true, string?_render]

/-- A list that is not empty is read as its items. -/
theorem value_list {cs : List Char} (h : Begins cs) :
    value (fuel + 1) ('[' :: cs) =
      (.list (itemsFrom fuel cs).1, (itemsFrom fuel cs).2) := by
  have hskip := h.skipSpace
  obtain ⟨c, cs, rfl, -, hbracket⟩ := h
  unfold value
  simp [hskip, hbracket]

/-- A record that is not empty is read as its members. -/
theorem value_record (s : String) (cs : List Char) :
    value (fuel + 1) ('{' :: (renderString s ++ cs)) =
      (.record (membersFrom fuel (renderString s ++ cs)).1,
        (membersFrom fuel (renderString s ++ cs)).2) := by
  unfold value renderString
  rfl

variable {v : Reading} {cs : List Char}

theorem skipSpace_cons {c : Char} (h : isSpace c = false) (cs : List Char) :
    skipSpace (c :: cs) = c :: cs := List.dropWhile_cons_of_neg (by simp [h])

theorem itemsFrom_comma (h : value fuel cs = (v, some (',' :: rest))) :
    itemsFrom (fuel + 1) cs =
      (v :: (itemsFrom fuel (skipSpace rest)).1, (itemsFrom fuel (skipSpace rest)).2) := by
  rw [itemsFrom, h]
  simp only [skipSpace_cons (by decide : isSpace ',' = false)]

theorem itemsFrom_bracket (h : value fuel cs = (v, some (']' :: rest))) :
    itemsFrom (fuel + 1) cs = ([v], some rest) := by
  rw [itemsFrom, h]
  simp only [skipSpace_cons (by decide : isSpace ']' = false)]

variable {s : String}

theorem membersFrom_comma (hcs : skipSpace cs = cs) (h : value fuel cs = (v, some (',' :: rest))) :
    membersFrom (fuel + 1) (renderString s ++ ':' :: cs) =
      ((some s, v) :: (membersFrom fuel (skipSpace rest)).1,
        (membersFrom fuel (skipSpace rest)).2) := by
  rw [renderString, List.cons_append, List.append_assoc, List.singleton_append, membersFrom]
  simp only [string?_render, skipSpace_cons (by decide : isSpace ':' = false), hcs, h,
    skipSpace_cons (by decide : isSpace ',' = false)]

theorem membersFrom_brace (hcs : skipSpace cs = cs) (h : value fuel cs = (v, some ('}' :: rest))) :
    membersFrom (fuel + 1) (renderString s ++ ':' :: cs) = ([(some s, v)], some rest) := by
  rw [renderString, List.cons_append, List.append_assoc, List.singleton_append, membersFrom]
  simp only [string?_render, skipSpace_cons (by decide : isSpace ':' = false), hcs, h,
    skipSpace_cons (by decide : isSpace '}' = false)]

theorem length_renderChars_pos {v : Json} (h : v.isFinite = true) : 0 < v.renderChars.length := by
  obtain ⟨c, cs, heq, -⟩ := begins_renderChars h
  rw [heq]
  exact Nat.succ_pos _

theorem begins_renderItems {items : List Json} (h : itemsFinite items = true) (hne : items ≠ []) :
    Begins (renderItems items) := by
  cases items with
  | nil => exact absurd rfl hne
  | cons v items =>
    rw [itemsFinite, Bool.and_eq_true] at h
    cases items with
    | nil => exact (begins_renderChars h.1).append _
    | cons w items => exact (begins_renderChars h.1).append _

theorem renderItems_cons_cons (v w : Json) (items : List Json) :
    renderItems (v :: w :: items) = v.renderChars ++ ',' :: renderItems (w :: items) := rfl

theorem renderMembers_cons_cons (k : String) (v : Json) (m : String × Json)
    (members : List (String × Json)) : renderMembers ((k, v) :: m :: members) =
      renderString k ++ ':' :: (v.renderChars ++ ',' :: renderMembers (m :: members)) := rfl

theorem exists_renderMembers_eq (k : String) (v : Json) (members : List (String × Json)) :
    ∃ cs, renderMembers ((k, v) :: members) = renderString k ++ cs := by
  cases members with
  | nil => exact ⟨_, renderMembers.eq_2 k v⟩
  | cons m members => exact ⟨_, rfl⟩

theorem endsNumber_bracket (rest : List Char) : EndsNumber (']' :: rest) :=
  .cons (by decide) (by decide) (by decide) rest

theorem endsNumber_brace (rest : List Char) : EndsNumber ('}' :: rest) :=
  .cons (by decide) (by decide) (by decide) rest

theorem endsNumber_comma (rest : List Char) : EndsNumber (',' :: rest) :=
  .cons (by decide) (by decide) (by decide) rest

mutual

/-- The text of a value is read as the value. -/
theorem value_renderChars : (v : Json) → v.isFinite = true → ∀ {fuel : Nat} {rest : List Char},
    v.renderChars.length ≤ fuel → EndsNumber rest →
    value fuel (v.renderChars ++ rest) = (ofJson v, some rest)
  | .null, _, fuel + 1, rest, _, _ => rfl
  | .bool true, _, fuel + 1, rest, _, _ => rfl
  | .bool false, _, fuel + 1, rest, _, _ => rfl
  | .int n, _, fuel + 1, rest, _, hrest => by
    rw [renderChars, toList_toString_int]
    exact value_spelling (wellFormed_tokenOfInt n) hrest
  | .float x, hx, fuel + 1, rest, _, hrest => by
    obtain ⟨t, hformed, htext, htoken, -⟩ := exists_tokenOfText hx
    rw [renderChars, htext, value_spelling hformed hrest, ofJson, htoken]
  | .str s, _, fuel + 1, rest, _, _ => value_renderString s rest
  | .arr [], _, fuel + 1, rest, _, _ => rfl
  | .arr (v :: items), h, fuel + 1, rest, hfuel, _ => by
    have hlength : (renderItems (v :: items)).length ≤ fuel := Nat.le_of_succ_le_succ hfuel
    have hitems := itemsFrom_renderItems v items h hlength rest
    rw [renderChars, List.cons_append,
      value_list ((begins_renderItems h (by simp)).append rest), hitems, ofJson]
  | .obj [], _, fuel + 1, rest, _, _ => rfl
  | .obj ((k, v) :: members), h, fuel + 1, rest, hfuel, _ => by
    have hlength : (renderMembers ((k, v) :: members)).length ≤ fuel := Nat.le_of_succ_le_succ hfuel
    have hmembers := membersFrom_renderMembers k v members h hlength rest
    obtain ⟨cs, hcs⟩ := exists_renderMembers_eq k v members
    rw [renderChars, List.cons_append, hcs, List.append_assoc, value_record,
      ← List.append_assoc, ← hcs, hmembers, ofJson]
  | v, hv, 0, rest, hfuel, hrest => by
    exact absurd hfuel (Nat.not_le_of_lt (length_renderChars_pos hv))

/-- The items of a list are read as they are. -/
theorem itemsFrom_renderItems : (v : Json) → (items : List Json) → itemsFinite (v :: items) = true →
    ∀ {fuel : Nat}, (renderItems (v :: items)).length ≤ fuel → ∀ rest : List Char,
    itemsFrom fuel (renderItems (v :: items) ++ rest) = (ofItems (v :: items), some rest)
  | v, [], h, fuel + 1, hfuel, rest => by
    rw [itemsFinite, Bool.and_eq_true] at h
    simp only [renderItems, List.length_append, List.length_singleton] at hfuel
    have hvalue := value_renderChars v h.1 (Nat.le_of_succ_le_succ hfuel) (endsNumber_bracket rest)
    rw [renderItems, List.append_assoc, List.singleton_append, itemsFrom_bracket hvalue]
    rfl
  | v, w :: items, h, fuel + 1, hfuel, rest => by
    rw [itemsFinite, Bool.and_eq_true] at h
    simp only [renderItems, List.length_append, List.length_cons] at hfuel
    have hvalue := value_renderChars v h.1 (by omega : _ ≤ fuel)
      (endsNumber_comma (renderItems (w :: items) ++ rest))
    have hitems := itemsFrom_renderItems w items h.2 (by omega : _ ≤ fuel) rest
    -- no space stands behind the comma
    have hskip := ((begins_renderItems h.2 (by simp)).append rest).skipSpace
    rw [renderItems_cons_cons, List.append_assoc, List.cons_append, itemsFrom_comma hvalue, hskip,
      hitems]
    rfl
  | v, [], h, 0, hfuel, rest => by
    simp [renderItems] at hfuel
  | v, w :: items, h, 0, hfuel, rest => by
    simp [renderItems] at hfuel

/-- The members of a record are read as they are. -/
theorem membersFrom_renderMembers : (k : String) → (v : Json) → (members : List (String × Json)) →
    membersFinite ((k, v) :: members) = true →
    ∀ {fuel : Nat}, (renderMembers ((k, v) :: members)).length ≤ fuel → ∀ rest : List Char,
    membersFrom fuel (renderMembers ((k, v) :: members) ++ rest) =
      (ofMembers ((k, v) :: members), some rest)
  | k, v, [], h, fuel + 1, hfuel, rest => by
    rw [membersFinite, Bool.and_eq_true] at h
    simp only [renderMembers, List.length_append, List.length_cons, List.length_nil] at hfuel
    have hvalue := value_renderChars v h.1 (by omega : _ ≤ fuel) (endsNumber_brace rest)
    have hskip := ((begins_renderChars h.1).append ('}' :: rest)).skipSpace
    rw [renderMembers, List.append_assoc, List.cons_append, List.append_assoc,
      List.singleton_append, membersFrom_brace hskip hvalue]
    rfl
  | k, v, (l, w) :: members, h, fuel + 1, hfuel, rest => by
    rw [membersFinite, Bool.and_eq_true] at h
    simp only [renderMembers, List.length_append, List.length_cons] at hfuel
    have hvalue := value_renderChars v h.1 (by omega : _ ≤ fuel)
      (endsNumber_comma (renderMembers ((l, w) :: members) ++ rest))
    have hmembers := membersFrom_renderMembers l w members h.2 (by omega : _ ≤ fuel) rest
    have hskip := ((begins_renderChars h.1).append
      (',' :: (renderMembers ((l, w) :: members) ++ rest))).skipSpace
    have hskip' : skipSpace (renderMembers ((l, w) :: members) ++ rest) =
        renderMembers ((l, w) :: members) ++ rest := by
      obtain ⟨cs, hcs⟩ := exists_renderMembers_eq l w members
      rw [hcs]
      exact skipSpace_cons (by decide) _
    rw [renderMembers_cons_cons, List.append_assoc, List.cons_append, List.append_assoc,
      List.cons_append, membersFrom_comma hskip hvalue, hskip', hmembers]
    rfl
  | k, v, [], h, 0, hfuel, rest => by
    simp [renderMembers] at hfuel
  | k, v, (l, w) :: members, h, 0, hfuel, rest => by
    simp [renderMembers] at hfuel

end

/-- **A text of data is read as that data**, to its end. -/
theorem ofText_render {v : Json} (h : v.isFinite = true) :
    ofText v.render = ⟨ofJson v, true⟩ := by
  have hvalue := value_renderChars v h (by omega : _ ≤ 2 * v.renderChars.length + 2) .nil
  rw [List.append_nil] at hvalue
  unfold ofText render ofChars
  rw [String.toList_ofList, (begins_renderChars h).skipSpace, hvalue]
  rfl

end Reading

end SensorGateway.Json
