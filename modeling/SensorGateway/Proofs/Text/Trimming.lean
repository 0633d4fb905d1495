/-
# SensorGateway.Proofs.Text.Trimming -- texts without the blanks at their ends

What is left of a trimmed text is the part of it that neither begins nor ends with a blank
character, with nothing but blank characters around it. There is just one such part
(`trimChars_eq_iff`), and nothing is left of just the blank texts (`trim_eq_empty_iff`). Blank
characters in the middle stay.
-/
import Mathlib.Data.List.TakeWhile
import SensorGateway.Proofs.General.Lists
import SensorGateway.Text.Blank

namespace SensorGateway.Text

variable {cs ds : List Char}

/-- The second text is the first one without the blank characters at its ends. -/
structure Trims (cs ds : List Char) : Prop where
  /-- Only blank characters are cut off. -/
  within : ∃ front back, cs = front ++ (ds ++ back) ∧
    (∀ c ∈ front, isBlank c = true) ∧ ∀ c ∈ back, isBlank c = true
  first : ∀ c rest, ds = c :: rest → isBlank c = false
  last : ∀ c rest, ds = rest ++ [c] → isBlank c = false

theorem trims_trimChars (cs : List Char) : Trims cs (trimChars cs) where
  within := by
    refine ⟨cs.takeWhile isBlank, ((trimStart cs).reverse.takeWhile isBlank).reverse, ?_, ?_, ?_⟩
    · show cs = _ ++ ((List.dropWhile isBlank _).reverse ++ _)
      rw [← List.reverse_append, List.takeWhile_append_dropWhile, List.reverse_reverse]
      exact List.takeWhile_append_dropWhile.symm
    · exact List.all_eq_true.mp List.all_takeWhile
    · intro c hc
      exact List.all_eq_true.mp List.all_takeWhile c (List.mem_reverse.mp hc)
  first := by
    intro c rest hcs
    -- what is cut off at the end leaves the first character where it is
    have hprefix : trimChars cs <+: trimStart cs := by
      rw [trimChars, ← List.reverse_suffix, List.reverse_reverse]
      exact List.dropWhile_suffix isBlank
    obtain ⟨back, hback⟩ := hprefix
    rw [hcs, List.cons_append] at hback
    exact General.eq_false_of_dropWhile hback.symm
  last := by
    intro c rest hcs
    have hreverse := congrArg List.reverse hcs
    rw [trimChars, List.reverse_reverse, List.reverse_append, List.reverse_singleton,
      List.singleton_append] at hreverse
    exact General.eq_false_of_dropWhile hreverse

theorem Trims.trimChars_eq (h : Trims cs ds) : trimChars cs = ds := by
  obtain ⟨⟨front, back, rfl, hfront, hback⟩, hfirst, hlast⟩ := h
  cases ds with
  | nil =>
    have hblank : trimStart (front ++ ([] ++ back)) = [] := by
      apply List.dropWhile_eq_nil_iff.mpr
      exact List.forall_mem_append.mpr ⟨hfront, hback⟩
    rw [trimChars, hblank]
    rfl
  | cons c ds =>
    have hstart : trimStart (front ++ (c :: ds ++ back)) = c :: ds ++ back := by
      apply General.dropWhile_run hfront
      intro d rest hds
      exact hfirst d ds (by rw [(List.cons.inj hds).1])
    have hend : trimStart (back.reverse ++ (c :: ds).reverse) = (c :: ds).reverse := by
      apply General.dropWhile_run fun d hd => hback d (List.mem_reverse.mp hd)
      intro d rest hds
      exact hlast d rest.reverse (by rw [List.reverse_eq_iff.mp hds, List.reverse_cons])
    rw [trimChars, hstart, List.reverse_append, hend, List.reverse_reverse]

/-- **Trimming cuts off the blank characters at the ends, and nothing else.** -/
theorem trimChars_eq_iff : trimChars cs = ds ↔ Trims cs ds := by
  constructor
  · rintro rfl
    exact trims_trimChars cs
  · exact Trims.trimChars_eq

/-- Nothing is left of a blank text only. -/
theorem trim_eq_empty_iff {s : String} : trim s = "" ↔ ∀ c ∈ s.toList, isBlank c = true := by
  have hempty : trim s = "" ↔ Trims s.toList [] := by
    rw [← trimChars_eq_iff, trim, ← String.toList_eq_nil_iff, String.toList_ofList]
  rw [hempty]
  constructor
  · rintro ⟨⟨front, back, hs, hfront, hback⟩, -, -⟩
    rw [hs]
    exact List.forall_mem_append.mpr ⟨hfront, hback⟩
  · intro hblank
    exact ⟨⟨s.toList, [], by simp, hblank, nofun⟩, nofun, by simp⟩

theorem trim_ne_empty_iff {s : String} : trim s ≠ "" ↔ ∃ c ∈ s.toList, isBlank c = false := by
  simp [trim_eq_empty_iff]

theorem isBlankText_eq_false_iff (s : String) :
    isBlankText s = false ↔ ∃ c ∈ s.toList, isBlank c = false := by
  simp [isBlankText]

end SensorGateway.Text
