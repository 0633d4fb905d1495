/-
# SensorGateway.Sorted.Set -- finite sets in increasing order

A set is the strictly increasing list of its elements. The order is part of the
type, so two sets with the same elements are equal (`SortedSet.ext`) and every
listing of a set comes out in the same order.
-/

namespace SensorGateway

/-- A finite set, held as its elements in strictly increasing order. -/
structure SortedSet (α : Type) [Ord α] where
  /-- The elements, smallest first. -/
  toList : List α
  increasing : toList.Pairwise (fun a b => compare a b = .lt)
deriving DecidableEq, Repr

namespace SortedSet

variable {α : Type} [Ord α]

/-! ## Ordered insertion into a list -/

/-- Puts `a` at its place in an increasing list; an equal element stays. -/
def place (a : α) : List α → List α
  | [] => [a]
  | b :: rest =>
    match compare a b with
    | .lt => a :: b :: rest
    | .eq => b :: rest
    | .gt => b :: place a rest

theorem mem_place [Std.LawfulEqOrd α] {a c : α} {l : List α} :
    c ∈ place a l ↔ c = a ∨ c ∈ l := by
  induction l with
  | nil => simp [place]
  | cons b rest ih =>
    unfold place
    split
    · simp
    · rename_i h
      have hab : a = b := Std.LawfulEqOrd.eq_of_compare h
      simp [hab]
    · simp only [List.mem_cons, ih]
      constructor
      · rintro (h | h | h) <;> simp [h]
      · rintro (h | h | h) <;> simp [h]

theorem pairwise_place [Std.TransOrd α] [Std.LawfulEqOrd α] {a : α} {l : List α}
    (h : l.Pairwise (fun a b => compare a b = .lt)) :
    (place a l).Pairwise (fun a b => compare a b = .lt) := by
  induction l with
  | nil => simp [place]
  | cons b rest ih =>
    obtain ⟨hb, hrest⟩ := List.pairwise_cons.1 h
    unfold place
    split
    · rename_i hab
      refine List.pairwise_cons.2 ⟨?_, h⟩
      intro c hc
      rcases List.mem_cons.1 hc with rfl | hc
      · exact hab
      · exact Std.TransCmp.lt_trans hab (hb c hc)
    · exact h
    · rename_i hab
      refine List.pairwise_cons.2 ⟨?_, ih hrest⟩
      intro c hc
      rcases mem_place.1 hc with rfl | hc
      · exact Std.OrientedCmp.lt_of_gt hab
      · exact hb c hc

/-! ## Sets -/

/-- The set without elements. -/
def empty : SortedSet α := ⟨[], List.Pairwise.nil⟩

instance : Inhabited (SortedSet α) := ⟨empty⟩

instance : Membership α (SortedSet α) := ⟨fun s a => a ∈ s.toList⟩

instance [DecidableEq α] (a : α) (s : SortedSet α) : Decidable (a ∈ s) :=
  inferInstanceAs (Decidable (a ∈ s.toList))

/-- Whether the set has no element. -/
def isEmpty (s : SortedSet α) : Bool := s.toList.isEmpty

/-- The number of elements. -/
def size (s : SortedSet α) : Nat := s.toList.length

/-- Whether some element passes `p`. -/
def any (s : SortedSet α) (p : α → Bool) : Bool := s.toList.any p

theorem mem_def {a : α} {s : SortedSet α} : a ∈ s ↔ a ∈ s.toList := Iff.rfl

@[simp] theorem not_mem_empty {a : α} : ¬ a ∈ (empty : SortedSet α) := by
  simp [mem_def, empty]

@[simp] theorem any_eq_true {s : SortedSet α} {p : α → Bool} :
    s.any p = true ↔ ∃ a, a ∈ s ∧ p a = true := by
  simp [any, mem_def]

theorem isEmpty_iff {s : SortedSet α} : s.isEmpty = true ↔ ∀ a, ¬ a ∈ s := by
  simp [isEmpty, mem_def, List.eq_nil_iff_forall_not_mem]

theorem isEmpty_eq_false_iff {s : SortedSet α} : s.isEmpty = false ↔ ∃ a, a ∈ s := by
  rw [← Bool.not_eq_true, isEmpty_iff]
  simp

section Insertion

variable [Std.TransOrd α] [Std.LawfulEqOrd α]

/-- Adds one element. -/
def insert (s : SortedSet α) (a : α) : SortedSet α :=
  ⟨place a s.toList, pairwise_place s.increasing⟩

/-- All elements of two sets. -/
def union (s t : SortedSet α) : SortedSet α := t.toList.foldl insert s

/-- The elements of a list, each once. -/
def ofList (l : List α) : SortedSet α := l.foldl insert empty

@[simp] theorem mem_insert {s : SortedSet α} {a c : α} : c ∈ s.insert a ↔ c = a ∨ c ∈ s :=
  mem_place

theorem mem_foldl_insert {l : List α} {s : SortedSet α} {c : α} :
    c ∈ l.foldl insert s ↔ c ∈ s ∨ c ∈ l := by
  induction l generalizing s with
  | nil => simp
  | cons a rest ih =>
    simp only [List.foldl_cons, ih, mem_insert, List.mem_cons]
    constructor
    · rintro ((h | h) | h) <;> simp [h]
    · rintro (h | h | h) <;> simp [h]

@[simp] theorem mem_union {s t : SortedSet α} {c : α} : c ∈ s.union t ↔ c ∈ s ∨ c ∈ t :=
  mem_foldl_insert

@[simp] theorem mem_ofList {l : List α} {c : α} : c ∈ ofList l ↔ c ∈ l := by
  simp [ofList, mem_foldl_insert]

/-- Sets with the same elements are equal. -/
theorem ext {s t : SortedSet α} (h : ∀ a, a ∈ s ↔ a ∈ t) : s = t := by
  obtain ⟨l, hl⟩ := s
  obtain ⟨m, hm⟩ := t
  have hlm : ∀ a, a ∈ l ↔ a ∈ m := h
  suffices l = m by subst this; rfl
  clear h
  induction l generalizing m with
  | nil =>
    cases m with
    | nil => rfl
    | cons b m => exact absurd ((hlm b).2 (by simp)) (by simp)
  | cons a l ih =>
    cases m with
    | nil => exact absurd ((hlm a).1 (by simp)) (by simp)
    | cons b m =>
      obtain ⟨ha, hl'⟩ := List.pairwise_cons.1 hl
      obtain ⟨hb, hm'⟩ := List.pairwise_cons.1 hm
      have irrefl : ∀ x : α, compare x x ≠ .lt := by simp
      have hab : a = b := by
        rcases List.mem_cons.1 ((hlm a).1 (by simp)) with h | h
        · exact h
        · rcases List.mem_cons.1 ((hlm b).2 (by simp)) with h' | h'
          · exact h'.symm
          · exact absurd (Std.TransCmp.lt_trans (ha b h') (hb a h)) (irrefl a)
      subst hab
      congr 1
      refine ih hl' m hm' fun c => ?_
      constructor
      · intro hc
        rcases List.mem_cons.1 ((hlm c).1 (by simp [hc])) with h | h
        · subst h; exact absurd (ha c hc) (irrefl c)
        · exact h
      · intro hc
        rcases List.mem_cons.1 ((hlm c).2 (by simp [hc])) with h | h
        · subst h; exact absurd (hb c hc) (irrefl c)
        · exact h

theorem eq_empty_of_isEmpty {s : SortedSet α} (h : s.isEmpty = true) : s = empty :=
  ext fun a => iff_of_false (isEmpty_iff.mp h a) not_mem_empty

end Insertion

end SortedSet

end SensorGateway
