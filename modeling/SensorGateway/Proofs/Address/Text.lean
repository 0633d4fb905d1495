/-
# SensorGateway.Proofs.Address.Text -- texts that spell their addresses

The text of a version 6 address is one of its spellings (`Ipv6.spells_text`), whichever of its three
forms it has: all groups, a double colon in place of the first longest run of zeros, or a version 4
address at the end.
-/
import SensorGateway.Proofs.Address.Reading
import SensorGateway.Proofs.General.Words

namespace SensorGateway

/-! ## Groups -/

theorem digit?_digitChar : ∀ n < 16, Text.Hex.digit? n.digitChar = some n := by decide

/-- The digits of a number in base sixteen are hexadecimal digits, and give the number back. -/
theorem toDigits_sixteen (n : Nat) :
    (∀ c ∈ Nat.toDigits 16 n, (Text.Hex.digit? c).isSome = true) ∧
      Text.Hex.decode? (Nat.toDigits 16 n) = some n := by
  induction n using Nat.strongRecOn with
  | ind n ih =>
    by_cases hlt : n < 16
    · have hdigit := digit?_digitChar n hlt
      rw [Nat.toDigits_of_lt_base hlt]
      refine ⟨fun c hc => ?_, ?_⟩
      · rw [List.mem_singleton.mp hc, hdigit]
        rfl
      · show (do return 16 * 0 + (← Text.Hex.digit? n.digitChar)) = some n
        rw [hdigit]
        simp
    · obtain ⟨hhex, hdecode⟩ := ih (n / 16) (by omega)
      have hdigit := digit?_digitChar (n % 16) (Nat.mod_lt n (by decide))
      rw [Nat.toDigits_of_base_le (by decide) (Nat.le_of_not_lt hlt)]
      refine ⟨fun c hc => ?_, ?_⟩
      · rcases List.mem_append.mp hc with hc | hc
        · exact hhex c hc
        · rw [List.mem_singleton.mp hc, hdigit]
          rfl
      · rw [Text.Hex.decode?_append, hdecode, hdigit]
        simp [Nat.div_add_mod]

namespace Ipv6

theorem writesGroup_groupText (g : UInt16) : WritesGroup g (groupText g).toList := by
  obtain ⟨hhex, hdecode⟩ := toDigits_sixteen g.toNat
  have hlength : (Nat.toDigits 16 g.toNat).length ≤ 4 :=
    (Nat.length_toDigits_le_iff (by decide) (by decide)).mpr g.toNat_lt
  unfold groupText
  rw [String.toList_ofList]
  refine ⟨Nat.toDigits_ne_nil, hlength, hhex, ?_⟩
  rw [hdecode, Option.map_some, UInt16.ofNat_toNat]

/-- Groups with colons between them are the text of a list. -/
theorem writesGroups_groupsText (gs : List UInt16) :
    WritesGroups true gs false (groupsText gs).toList := by
  induction gs with
  | nil => exact .nil true
  | cons g gs ih =>
    cases gs with
    | nil =>
      have hone : groupsText [g] = groupText g := String.intercalate_singleton
      have hgroups : WritesGroups true [g] false ((groupText g).toList ++ []) :=
        .cons (writesGroup_groupText g) (.nil false)
      rwa [List.append_nil, ← hone] at hgroups
    | cons h gs =>
      have hcons : groupsText (g :: h :: gs) = groupText g ++ ":" ++ groupsText (h :: gs) :=
        String.intercalate_cons_cons
      rw [hcons, String.toList_append, String.toList_append, List.append_assoc]
      exact .cons (writesGroup_groupText g) (ih.behind_colon (List.cons_ne_nil h gs))

/-! ## The longest run of zeros -/

/-- The run that is found is the given one, or the run of zeros at some place. -/
theorem longestRun_spec (gs : List UInt16) (at' : Nat) (best : Nat × Nat) :
    longestRun at' best gs = best ∨
      ∃ i < gs.length, longestRun at' best gs = (at' + i, zeroRun (gs.drop i)) := by
  induction gs generalizing at' best with
  | nil => exact .inl rfl
  | cons g gs ih =>
    unfold longestRun
    dsimp only
    rcases ih (at' + 1) (if best.2 < zeroRun (g :: gs) then (at', zeroRun (g :: gs)) else best) with
      hbest | ⟨i, hi, hrun⟩
    · rw [hbest]
      split
      · exact .inr ⟨0, Nat.succ_pos _, rfl⟩
      · exact .inl rfl
    · exact .inr ⟨i + 1, Nat.succ_lt_succ hi, by rw [hrun, Nat.add_right_comm]; rfl⟩

theorem take_zeroRun (gs : List UInt16) : gs.take (zeroRun gs) = List.replicate (zeroRun gs) 0 := by
  unfold zeroRun
  rw [← List.prefix_iff_eq_take.mp (List.takeWhile_prefix _)]
  refine List.eq_replicate_iff.mpr ⟨rfl, fun g hg => ?_⟩
  exact of_decide_eq_true (List.all_eq_true.mp List.all_takeWhile g hg)

theorem zeroRun_le (gs : List UInt16) : zeroRun gs ≤ gs.length :=
  List.Sublist.length_le (List.takeWhile_sublist _)

/-- A list is what stands before a run of zeros, the run, and what stands behind it. -/
theorem split_zeroRun (gs : List UInt16) (i : Nat) :
    gs = gs.take i ++ List.replicate (zeroRun (gs.drop i)) 0 ++
      gs.drop (i + zeroRun (gs.drop i)) := by
  rw [← take_zeroRun, ← List.drop_drop, List.append_assoc, List.take_append_drop,
    List.take_append_drop]

/-! ## A version 4 address inside -/

theorem groups_of_mapped? {ip : Ipv6} {v4 : Ipv4} (h : ip.mapped? = some v4) :
    ip.groups.toList = List.replicate 5 0 ++ 0xffff :: v4.groups := by
  unfold mapped? at h
  split at h
  · next g g' hgroups =>
    -- a group is made of its two bytes
    rw [hgroups, ← Option.some.inj h, Ipv4.groups, General.join_bytes, General.join_bytes]
    rfl
  · cases h

/-! ## Addresses -/

/-- **The text of a version 6 address spells it.** -/
theorem spells_text (ip : Ipv6) : ip.Spells ip.text.toList := by
  have height : ip.groups.toList.length = 8 := Vector.length_toList
  unfold text
  split
  · next v4 hmapped =>
    have hmark : WritesGroup 0xffff ['f', 'f', 'f', 'f'] :=
      ⟨nofun, by decide, List.all_eq_true.mp rfl, rfl⟩
    have hgroups : WritesGroups true (0xffff :: v4.groups) true
        ("ffff:".toList ++ v4.text.toList) :=
      .cons hmark (.v4 false v4)
    have hfront : "::ffff:".toList = [] ++ ':' :: ':' :: "ffff:".toList := rfl
    have hfew : ([] : List UInt16).length + (0xffff :: v4.groups).length ≤ 7 :=
      Nat.le_of_ble_eq_true rfl
    rw [String.toList_append, hfront, List.append_assoc, List.cons_append, List.cons_append]
    exact .short (.nil true) hgroups hfew (groups_of_mapped? hmapped)
  · dsimp only
    split
    · next hlong =>
      obtain hbest | ⟨i, hi, hrun⟩ := longestRun_spec ip.groups.toList 0 (0, 0)
      · rw [hbest] at hlong
        exact absurd hlong (by decide)
      · rw [hrun, Nat.zero_add] at hlong ⊢
        dsimp only at hlong ⊢
        have hrunLe := zeroRun_le (ip.groups.toList.drop i)
        have hzeros : 8 - (ip.groups.toList.take i).length -
            (ip.groups.toList.drop (i + zeroRun (ip.groups.toList.drop i))).length =
              zeroRun (ip.groups.toList.drop i) := by
          rw [List.length_take, List.length_drop, height]
          rw [List.length_drop, height] at hrunLe
          omega
        rw [String.toList_append, String.toList_append, List.append_assoc]
        refine .short (writesGroups_groupsText _) (writesGroups_groupsText _) (by omega) ?_
        rw [hzeros]
        exact split_zeroRun ip.groups.toList i
    · exact .full (writesGroups_groupsText ip.groups.toList)

end Ipv6

end SensorGateway
