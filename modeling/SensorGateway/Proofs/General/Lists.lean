/-
# SensorGateway.Proofs.General.Lists -- lists and results

Facts that are not about gateways: where a run of elements ends, where a list is cut in two, what
stands behind a list with one more element, and that a computation in two steps succeeds in each.
Nothing here mentions a setting, a text format or an address.
-/

namespace SensorGateway.General

/-! ## Lists -/

section Lists

variable {α : Type}

section Runs

variable {p : α → Bool} {xs rest : List α}

/-- A run is taken where the list goes on differently. -/
theorem takeWhile_run (hxs : ∀ x ∈ xs, p x = true) (hrest : ∀ y ys, rest = y :: ys → p y = false) :
    (xs ++ rest).takeWhile p = xs := by
  rw [List.takeWhile_append_of_pos hxs]
  cases rest with
  | nil => simp
  | cons y ys => rw [List.takeWhile_cons_of_neg (by simp [hrest y ys rfl]), List.append_nil]

theorem dropWhile_run (hxs : ∀ x ∈ xs, p x = true) (hrest : ∀ y ys, rest = y :: ys → p y = false) :
    (xs ++ rest).dropWhile p = rest := by
  rw [List.dropWhile_append_of_pos hxs]
  cases rest with
  | nil => rfl
  | cons y ys => exact List.dropWhile_cons_of_neg (by simp [hrest y ys rfl])

/-- Behind a run the list goes on differently. -/
theorem eq_false_of_dropWhile {y : α} {ys : List α} (h : xs.dropWhile p = y :: ys) :
    p y = false := by
  have hne : xs.dropWhile p ≠ [] := h ▸ List.cons_ne_nil y ys
  have hhead := List.head_dropWhile_not p hne
  simpa [h] using hhead

end Runs

/-- Two lists are split alike at an element that stands in neither end. -/
theorem eq_of_append_cons_eq {a : α} {xs xs' ys ys' : List α}
    (h : xs ++ a :: ys = xs' ++ a :: ys') (hys : a ∉ ys) (hys' : a ∉ ys') :
    xs = xs' ∧ ys = ys' := by
  have hnil {zs ys ys' : List α} (hys : a ∉ ys) (h : a :: ys = zs ++ a :: ys') : zs = [] := by
    cases zs with
    | nil => rfl
    | cons z zs =>
      rw [List.cons_append, List.cons.injEq] at h
      exact absurd (h.2 ▸ List.mem_append_right zs List.mem_cons_self) hys
  rcases List.append_eq_append_iff.mp h with ⟨zs, rfl, hzs⟩ | ⟨zs, rfl, hzs⟩
  · obtain rfl := hnil hys hzs
    exact ⟨(List.append_nil xs).symm, (List.cons.inj hzs).2⟩
  · obtain rfl := hnil hys' hzs
    exact ⟨List.append_nil xs', (List.cons.inj hzs).2.symm⟩

theorem getElem?_concat_eq_some_iff {xs : List α} {a b : α} {n : Nat} :
    (xs ++ [a])[n]? = some b ↔ xs[n]? = some b ∨ n = xs.length ∧ a = b := by
  rcases Nat.lt_trichotomy n xs.length with hn | hn | hn
  · rw [List.getElem?_append_left hn]
    exact ⟨Or.inl, fun h => h.resolve_right fun hlast => absurd hlast.1 (Nat.ne_of_lt hn)⟩
  · subst hn
    simp
  · have hnone : xs[n]? = none := List.getElem?_eq_none (Nat.le_of_lt hn)
    have hnone' : (xs ++ [a])[n]? = none :=
      List.getElem?_eq_none (by simpa using Nat.succ_le_of_lt hn)
    simp [hnone, hnone', Nat.ne_of_gt hn]

end Lists

/-! ## Results -/

/-- What succeeds in two steps succeeds in each. -/
theorem exists_of_bind_eq_ok {ε α β : Type} {x : Except ε α} {f : α → Except ε β} {b : β}
    (h : (x >>= f) = .ok b) : ∃ a, x = .ok a ∧ f a = .ok b := by
  cases x with
  | error e => cases h
  | ok a => exact ⟨a, rfl, h⟩

end SensorGateway.General
