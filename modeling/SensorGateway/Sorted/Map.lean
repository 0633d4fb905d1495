/-
# SensorGateway.Sorted.Map -- finite maps in key order

A map is the list of its entries with strictly increasing keys. Reading back is
`get?`; the two writers `insert` and `erase` are described by their effect on
`get?`, and `SortedMap.ext` says that `get?` determines the map. So putting back
what was there before gives the very same map, whatever happened in between.
-/

namespace SensorGateway

/-- A finite map, held as its entries in strictly increasing key order. -/
structure SortedMap (κ α : Type) [Ord κ] where
  /-- The entries, smallest key first. -/
  toList : List (κ × α)
  increasing : toList.Pairwise (fun a b => compare a.1 b.1 = .lt)
deriving DecidableEq, Repr

namespace SortedMap

variable {κ α : Type} [Ord κ]

/-! ## Entry lists -/

/-- The value at the first entry with key `k`. -/
def find? [DecidableEq κ] (k : κ) : List (κ × α) → Option α
  | [] => none
  | e :: rest => if k = e.1 then some e.2 else find? k rest

/-- Puts an entry at its place, replacing an entry with the same key. -/
def place (k : κ) (v : α) : List (κ × α) → List (κ × α)
  | [] => [(k, v)]
  | e :: rest =>
    match compare k e.1 with
    | .lt => (k, v) :: e :: rest
    | .eq => (k, v) :: rest
    | .gt => e :: place k v rest

/-- Drops the entries with key `k`. -/
def drop [DecidableEq κ] (k : κ) (l : List (κ × α)) : List (κ × α) :=
  l.filter fun e => k ≠ e.1

theorem key_mem_place {k : κ} {v : α} {l : List (κ × α)} {e : κ × α}
    (h : e ∈ place k v l) : e.1 = k ∨ e ∈ l := by
  induction l with
  | nil => simp [place] at h; simp [h]
  | cons d rest ih =>
    unfold place at h
    split at h
    · rcases List.mem_cons.1 h with h | h <;> simp [h]
    · rcases List.mem_cons.1 h with h | h <;> simp [h]
    · rcases List.mem_cons.1 h with h | h
      · simp [h]
      · rcases ih h with h | h <;> simp [h]

theorem pairwise_place [Std.TransOrd κ] [Std.LawfulEqOrd κ] {k : κ} {v : α} {l : List (κ × α)}
    (h : l.Pairwise (fun a b => compare a.1 b.1 = .lt)) :
    (place k v l).Pairwise (fun a b => compare a.1 b.1 = .lt) := by
  induction l with
  | nil => simp [place]
  | cons d rest ih =>
    obtain ⟨hd, hrest⟩ := List.pairwise_cons.1 h
    unfold place
    split
    · rename_i hk
      refine List.pairwise_cons.2 ⟨?_, h⟩
      intro c hc
      rcases List.mem_cons.1 hc with rfl | hc
      · exact hk
      · exact Std.TransCmp.lt_trans hk (hd c hc)
    · rename_i hk
      have hk : k = d.1 := Std.LawfulEqOrd.eq_of_compare hk
      exact List.pairwise_cons.2 ⟨fun c hc => by simpa [hk] using hd c hc, hrest⟩
    · rename_i hk
      refine List.pairwise_cons.2 ⟨?_, ih hrest⟩
      intro c hc
      rcases key_mem_place hc with hc | hc
      · rw [hc]; exact Std.OrientedCmp.lt_of_gt hk
      · exact hd c hc

theorem ne_of_compare_lt [Std.TransOrd κ] {k k' : κ} (h : compare k k' = .lt) : k ≠ k' := by
  have hne : compare k k' ≠ .eq := by rw [h]; nofun
  exact Std.ReflCmp.ne_of_cmp_ne_eq hne

theorem find?_eq_none_of_lt [DecidableEq κ] [Std.TransOrd κ] {k : κ} {l : List (κ × α)}
    (h : ∀ e ∈ l, compare k e.1 = .lt) : find? k l = none := by
  induction l with
  | nil => rfl
  | cons e rest ih =>
    have he : k ≠ e.1 := ne_of_compare_lt (h e (by simp))
    simp [find?, he, ih fun e he => h e (by simp [he])]

theorem find?_place [DecidableEq κ] [Std.TransOrd κ] [Std.LawfulEqOrd κ] {k k' : κ} {v : α}
    {l : List (κ × α)} :
    find? k' (place k v l) = if k' = k then some v else find? k' l := by
  induction l with
  | nil => simp [place, find?]
  | cons e rest ih =>
    unfold place
    split
    · simp [find?]
    · rename_i hk
      have hk : k = e.1 := Std.LawfulEqOrd.eq_of_compare hk
      by_cases h : k' = e.1 <;> simp [find?, hk, h]
    · rename_i hk
      have hk : e.1 ≠ k := ne_of_compare_lt (Std.OrientedCmp.lt_of_gt hk)
      by_cases h : k' = e.1
      · simp [find?, h, hk]
      · simp [find?, h, ih]

omit [Ord κ] in
theorem find?_drop [DecidableEq κ] {k k' : κ} {l : List (κ × α)} :
    find? k' (drop k l) = if k' = k then none else find? k' l := by
  induction l with
  | nil => simp [drop, find?]
  | cons e rest ih =>
    have ih' : find? k' (List.filter (fun e => decide (k ≠ e.1)) rest) =
        if k' = k then none else find? k' rest := ih
    by_cases he : k = e.1
    · by_cases h : k' = e.1 <;> simp_all [drop, find?]
    · by_cases h : k' = k
      · subst h; simp_all [drop, find?]
      · by_cases h' : k' = e.1 <;> simp_all [drop, find?]

/-! ## Maps -/

/-- The map without entries. -/
def empty : SortedMap κ α := ⟨[], List.Pairwise.nil⟩

instance : Inhabited (SortedMap κ α) := ⟨empty⟩

/-- The value at key `k`, if the map has one. -/
def get? [DecidableEq κ] (m : SortedMap κ α) (k : κ) : Option α := find? k m.toList

/-- Whether the map has key `k`. -/
def contains [DecidableEq κ] (m : SortedMap κ α) (k : κ) : Bool := (m.get? k).isSome

/-- The keys, smallest first. -/
def keys (m : SortedMap κ α) : List κ := m.toList.map (·.1)

/-- Whether the map has no entry. -/
def isEmpty (m : SortedMap κ α) : Bool := m.toList.isEmpty

/-- The number of entries. -/
def size (m : SortedMap κ α) : Nat := m.toList.length

@[simp] theorem get?_empty [DecidableEq κ] {k : κ} : (empty : SortedMap κ α).get? k = none := rfl

/-- Sets the value at key `k`. -/
def insert [Std.TransOrd κ] [Std.LawfulEqOrd κ] (m : SortedMap κ α) (k : κ) (v : α) :
    SortedMap κ α :=
  ⟨place k v m.toList, pairwise_place m.increasing⟩

/-- Removes key `k`. -/
def erase [DecidableEq κ] (m : SortedMap κ α) (k : κ) : SortedMap κ α :=
  ⟨drop k m.toList, m.increasing.filter _⟩

/-- Applies `f` to every value. -/
def mapValues {β : Type} (m : SortedMap κ α) (f : κ → α → β) : SortedMap κ β :=
  ⟨m.toList.map fun e => (e.1, f e.1 e.2), List.pairwise_map.2 m.increasing⟩

/-- The map of a list of entries; of two entries with one key the later one counts. -/
def ofList [Std.TransOrd κ] [Std.LawfulEqOrd κ] (l : List (κ × α)) : SortedMap κ α :=
  l.foldl (fun m e => m.insert e.1 e.2) empty

section Reading

variable [DecidableEq κ] [Std.TransOrd κ]

@[simp] theorem get?_insert [Std.LawfulEqOrd κ] {m : SortedMap κ α} {k k' : κ} {v : α} :
    (m.insert k v).get? k' = if k' = k then some v else m.get? k' :=
  find?_place

omit [Std.TransOrd κ] in
@[simp] theorem get?_erase {m : SortedMap κ α} {k k' : κ} :
    (m.erase k).get? k' = if k' = k then none else m.get? k' :=
  find?_drop

theorem mem_toList_iff {m : SortedMap κ α} {k : κ} {v : α} :
    (k, v) ∈ m.toList ↔ m.get? k = some v := by
  obtain ⟨l, hl⟩ := m
  show (k, v) ∈ l ↔ find? k l = some v
  induction l with
  | nil => simp [find?]
  | cons e rest ih =>
    obtain ⟨he, hrest⟩ := List.pairwise_cons.1 hl
    by_cases h : k = e.1
    · subst h
      simp only [List.mem_cons, find?, if_true, Option.some.injEq]
      constructor
      · rintro (h | h)
        · rw [← h]
        · exact absurd rfl (ne_of_compare_lt (he (e.1, v) h))
      · rintro rfl; exact Or.inl rfl
    · simp only [List.mem_cons, find?, h, if_false, ← ih hrest]
      constructor
      · rintro (h' | h')
        · exact absurd (congrArg Prod.fst h') h
        · exact h'
      · exact Or.inr

theorem mem_keys_iff {m : SortedMap κ α} {k : κ} : k ∈ m.keys ↔ (m.get? k).isSome := by
  rw [Option.isSome_iff_exists, keys, List.mem_map]
  constructor
  · rintro ⟨⟨k', v⟩, he, rfl⟩
    exact ⟨v, mem_toList_iff.mp he⟩
  · rintro ⟨v, hv⟩
    exact ⟨(k, v), mem_toList_iff.mpr hv, rfl⟩

omit [Std.TransOrd κ] in
@[simp] theorem get?_mapValues {β : Type} {m : SortedMap κ α} {f : κ → α → β} {k : κ} :
    (m.mapValues f).get? k = (m.get? k).map (f k) := by
  obtain ⟨l, hl⟩ := m
  show find? k (l.map fun e => (e.1, f e.1 e.2)) = (find? k l).map (f k)
  clear hl
  induction l with
  | nil => rfl
  | cons e rest ih => by_cases h : k = e.1 <;> simp [find?, h, ih]

theorem get?_foldl_insert [Std.LawfulEqOrd κ] {l : List (κ × α)} {m : SortedMap κ α} {k : κ} :
    (l.foldl (fun m e => m.insert e.1 e.2) m).get? k =
      ((l.filter fun e => e.1 = k).getLast?.map (·.2)).or (m.get? k) := by
  induction l generalizing m with
  | nil => rfl
  | cons e rest ih =>
    rw [List.foldl_cons, ih, get?_insert]
    by_cases he : e.1 = k
    · rw [List.filter_cons_of_pos (by simpa using he), List.getLast?_cons, if_pos he.symm]
      cases (rest.filter fun e => e.1 = k).getLast? <;> rfl
    · rw [List.filter_cons_of_neg (by simpa using he), if_neg (Ne.symm he)]

/-- A map made of entries gives the last entry for a key. -/
theorem get?_ofList [Std.LawfulEqOrd κ] {l : List (κ × α)} {k : κ} :
    (ofList l).get? k = (l.filter fun e => e.1 = k).getLast?.map (·.2) := by
  rw [ofList, get?_foldl_insert, get?_empty, Option.or_none]

/-- What a map made of entries gives was among the entries. -/
theorem mem_of_get?_ofList [Std.LawfulEqOrd κ] {l : List (κ × α)} {k : κ} {v : α}
    (h : (ofList l).get? k = some v) : (k, v) ∈ l := by
  rw [get?_ofList] at h
  obtain ⟨⟨k', v'⟩, hlast, rfl⟩ := Option.map_eq_some_iff.mp h
  obtain ⟨hmem, hkey⟩ := List.mem_filter.mp (List.mem_of_getLast? hlast)
  obtain rfl : k' = k := by simpa using hkey
  exact hmem

/-- A map is determined by what its keys give. -/
theorem ext [Std.LawfulEqOrd κ] {m n : SortedMap κ α} (h : ∀ k, m.get? k = n.get? k) : m = n := by
  obtain ⟨l, hl⟩ := m
  obtain ⟨l', hl'⟩ := n
  suffices l = l' by subst this; rfl
  replace h : ∀ k, find? k l = find? k l' := h
  induction l generalizing l' with
  | nil =>
    cases l' with
    | nil => rfl
    | cons e rest => have := h e.1; simp [find?] at this
  | cons d rest ih =>
    cases l' with
    | nil => have := h d.1; simp [find?] at this
    | cons e rest' =>
      obtain ⟨hd, hr⟩ := List.pairwise_cons.1 hl
      obtain ⟨he, hr'⟩ := List.pairwise_cons.1 hl'
      have hkey : compare d.1 e.1 = .eq := by
        rcases hc : compare d.1 e.1 with _ | _ | _
        · have hnone : find? d.1 (e :: rest') = none :=
            find?_eq_none_of_lt fun c hc' => by
              rcases List.mem_cons.1 hc' with rfl | hc'
              · exact hc
              · exact Std.TransCmp.lt_trans hc (he c hc')
          have := h d.1
          rw [hnone] at this
          simp [find?] at this
        · rfl
        · have hc : compare e.1 d.1 = .lt := Std.OrientedCmp.lt_of_gt hc
          have hnone : find? e.1 (d :: rest) = none :=
            find?_eq_none_of_lt fun c hc' => by
              rcases List.mem_cons.1 hc' with rfl | hc'
              · exact hc
              · exact Std.TransCmp.lt_trans hc (hd c hc')
          have := h e.1
          rw [hnone] at this
          simp [find?] at this
      have hkey : d.1 = e.1 := Std.LawfulEqOrd.eq_of_compare hkey
      have hval : d.2 = e.2 := by
        have := h d.1
        simpa [find?, hkey] using this
      have hde : d = e := Prod.ext hkey hval
      subst hde
      congr 1
      refine ih hr rest' hr' fun k => ?_
      by_cases hk : k = d.1
      · subst hk
        rw [find?_eq_none_of_lt hd, find?_eq_none_of_lt he]
      · simpa [find?, hk] using h k

end Reading

end SortedMap

end SensorGateway
