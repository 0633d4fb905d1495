/-
# SensorGateway.Proofs.Murmur.Blocks -- no block of the input is lost

The hash of a string is decided by any one of its blocks, whatever stands around it
(`eq_of_hash_eq`): the blocks in front leave a state, the block is told from what it makes of this
state, and the rest can be undone. A whole block brings out every hash just once (`bijOn_hash`).
So strings that differ in one block have different hashes (`OneBlockApart.hash_ne`), and so have the
ids that are derived from them, since the digits of an id are those of its hash, and the numbers of
sensors (`OneBlockApart.number_ne`).

Strings that differ in more than one block, or in length, may well have the same hash.
-/
import Mathlib.Data.FinEnum
import Mathlib.Data.Fintype.BigOperators
import Mathlib.Data.Set.Function
import SensorGateway.Proofs.Config.Identity
import SensorGateway.Proofs.Murmur.Mixing
import SensorGateway.Proofs.Text.Bytes

namespace SensorGateway.Murmur

/-! ## One block -/

section Block

variable {pre b b' post : List UInt8}

/-- Whole blocks are read apart from what follows. -/
theorem absorb_append (hpre : pre.length % 4 = 0) (h : UInt32) (rest : List UInt8) :
    absorb h (pre ++ rest) = absorb (absorb h pre) rest := by
  fun_induction absorb h pre with
  | case1 h a b c d pre ih =>
    simp only [List.length_cons] at hpre
    exact ih (by omega)
  | case2 h => rfl
  | case3 h left hblock hne =>
    have hlt := length_lt_of_noBlock hblock
    have hpos := List.length_pos_iff.mpr hne
    omega

theorem absorb_block (hb : b.length = 4) :
    ∃ k : UInt32, k.toNat = littleEndian b ∧ ∀ h, absorb h b = mix h k := by
  match b with
  | [a, b, c, d] => exact ⟨word a b c d, toNat_word a b c d, fun _ => rfl⟩

/-- A block, or what is left over, can be told from what it makes of a state. -/
theorem eq_of_absorb_eq {h : UInt32} (hlength : b.length = b'.length) (hle : b.length ≤ 4)
    (heq : absorb h b = absorb h b') : b = b' := by
  rcases Nat.eq_zero_or_pos b.length with hzero | hpos
  · have hzero' : b'.length = 0 := hlength ▸ hzero
    rw [List.eq_nil_of_length_eq_zero hzero, List.eq_nil_of_length_eq_zero hzero']
  refine eq_of_littleEndian_eq hlength ?_
  rcases Nat.lt_or_eq_of_le hle with hlt | hfour
  · rw [absorb_left hpos hlt, absorb_left (hlength ▸ hpos) (hlength ▸ hlt)] at heq
    have hword : remainder b = remainder b' :=
      (UInt32.xor_right_inj _).mp (mul_multiplier_injective heq)
    rw [← toNat_remainder hlt, ← toNat_remainder (hlength ▸ hlt), hword]
  · obtain ⟨k, hk, hmix⟩ := absorb_block hfour
    obtain ⟨k', hk', hmix'⟩ := absorb_block (hlength ▸ hfour)
    rw [hmix, hmix'] at heq
    rw [← hk, ← hk', mix_block_injective h heq]

/-- **A block decides the hash, whatever stands around it.** The block has four bytes, or it has
fewer and is the last. -/
theorem eq_of_hash_eq {seed : UInt32} (hpre : pre.length % 4 = 0) (hlength : b.length = b'.length)
    (hblock : b.length = 4 ∨ b.length < 4 ∧ post = [])
    (heq : hash seed (pre ++ (b ++ post)) = hash seed (pre ++ (b' ++ post))) : b = b' := by
  have hwhole : lengthWord (pre ++ (b ++ post)) = lengthWord (pre ++ (b' ++ post)) := by
    simp only [lengthWord, List.length_append, hlength]
  -- the state before the last scrambling, with the string taken apart
  have hrest := finish_injective heq
  rw [← hwhole, absorb_append hpre, absorb_append hpre] at hrest
  rcases hblock with hfour | ⟨hlt, rfl⟩
  · have hfour' : b'.length = 4 := hlength ▸ hfour
    rw [absorb_append (by rw [hfour]), absorb_append (by rw [hfour'])] at hrest
    exact eq_of_absorb_eq hlength (Nat.le_of_eq hfour) (absorb_state_injective post hrest)
  · rw [List.append_nil, List.append_nil] at hrest
    exact eq_of_absorb_eq hlength (Nat.le_of_lt hlt) hrest

/-- Whatever stands around it, a whole block brings out each hash once. -/
theorem bijOn_hash (seed : UInt32) (hpre : pre.length % 4 = 0) (post : List UInt8) :
    Set.BijOn (fun b => hash seed (pre ++ (b ++ post))) {b | b.length = 4} Set.univ := by
  have hinj : Set.InjOn (fun b => hash seed (pre ++ (b ++ post))) {b | b.length = 4} := by
    intro b hb b' hb' heq
    exact eq_of_hash_eq hpre (Eq.trans hb hb'.symm) (.inl hb) heq
  -- there are as many blocks as words
  have hbij : Function.Bijective
      fun b : List.Vector UInt8 4 => hash seed (pre ++ (b.toList ++ post)) := by
    refine (Fintype.bijective_iff_injective_and_card _).mpr ⟨fun b b' heq => ?_, ?_⟩
    · exact List.Vector.toList_injective (hinj b.toList_length b'.toList_length heq)
    · rw [card_vector, ← FinEnum.card_eq_fintypeCard, ← FinEnum.card_eq_fintypeCard]
      rfl
  refine ⟨fun _ _ => Set.mem_univ _, hinj, fun h _ => ?_⟩
  obtain ⟨b, hb⟩ := hbij.surjective h
  exact ⟨b.toList, b.toList_length, hb⟩

end Block

/-! ## Strings that differ in one block -/

/-- Two byte strings of one length that differ in one block of four bytes only, where blocks are
counted from the beginning and the last one may be shorter. -/
structure OneBlockApart (xs ys : List UInt8) : Prop where
  length_eq : xs.length = ys.length
  ne : xs ≠ ys
  /-- All bytes that differ stand in the same block. -/
  block : ∃ i, ∀ j, xs[j]? ≠ ys[j]? → j / 4 = i

section OneBlockApart

variable {xs ys pre b b' post : List UInt8}

/-- Such strings are the same in front of the block and behind it. -/
theorem OneBlockApart.split (h : OneBlockApart xs ys) :
    ∃ pre b b' post, xs = pre ++ (b ++ post) ∧ ys = pre ++ (b' ++ post) ∧ b ≠ b' ∧
      pre.length % 4 = 0 ∧ b.length = b'.length ∧
      (b.length = 4 ∨ b.length < 4 ∧ post = []) := by
  obtain ⟨hlength, hne, i, hblock⟩ := h
  have hsame {j : Nat} (hj : j / 4 ≠ i) : xs[j]? = ys[j]? :=
    Decidable.byContradiction fun hdiffer => hj (hblock j hdiffer)
  have hpre : xs.take (4 * i) = ys.take (4 * i) := by
    refine List.ext_getElem? fun j => ?_
    rw [List.getElem?_take, List.getElem?_take]
    split
    · exact hsame (by omega)
    · rfl
  have hpost : (xs.drop (4 * i)).drop 4 = (ys.drop (4 * i)).drop 4 := by
    refine List.ext_getElem? fun j => ?_
    rw [List.getElem?_drop, List.getElem?_drop, List.getElem?_drop, List.getElem?_drop]
    exact hsame (by omega)
  have hparts (zs : List UInt8) :
      zs = zs.take (4 * i) ++ ((zs.drop (4 * i)).take 4 ++ (zs.drop (4 * i)).drop 4) := by
    rw [List.take_append_drop, List.take_append_drop]
  have hb : (xs.drop (4 * i)).take 4 ≠ (ys.drop (4 * i)).take 4 := fun heq =>
    hne (by rw [hparts xs, hparts ys, hpre, heq, hpost])
  have hlong : 4 * i < xs.length := by
    refine Nat.lt_of_not_le fun hle => hb ?_
    rw [List.drop_eq_nil_of_le hle, List.drop_eq_nil_of_le (hlength ▸ hle)]
  refine ⟨xs.take (4 * i), (xs.drop (4 * i)).take 4, (ys.drop (4 * i)).take 4,
    (xs.drop (4 * i)).drop 4, hparts xs, ?_, hb, ?_, ?_, ?_⟩
  · rw [hpre, hpost]
    exact hparts ys
  · rw [List.length_take, Nat.min_eq_left (Nat.le_of_lt hlong)]
    omega
  · simp only [List.length_take, List.length_drop, hlength]
  · rw [List.length_take, List.length_drop, List.drop_eq_nil_iff, List.length_drop]
    omega

/-- Blocks that differ, one at the place of the other. -/
theorem OneBlockApart.of_blocks (hpre : pre.length % 4 = 0) (hlength : b.length = b'.length)
    (hle : b.length ≤ 4) (hne : b ≠ b') :
    OneBlockApart (pre ++ (b ++ post)) (pre ++ (b' ++ post)) where
  length_eq := by simp only [List.length_append, hlength]
  ne heq := hne (List.append_cancel_right (List.append_cancel_left heq))
  block := by
    refine ⟨pre.length / 4, fun j hdiffer => ?_⟩
    have hlow : pre.length ≤ j := by
      refine Nat.le_of_not_lt fun hlt => hdiffer ?_
      rw [List.getElem?_append_left hlt, List.getElem?_append_left hlt]
    have hhigh : j < pre.length + b.length := by
      refine Nat.lt_of_not_le fun hge => hdiffer ?_
      rw [List.getElem?_append_right hlow, List.getElem?_append_right hlow,
        List.getElem?_append_right (by omega), List.getElem?_append_right (by omega), hlength]
    omega

/-- **Strings that differ in one block have different hashes.** -/
theorem OneBlockApart.hash_ne (h : OneBlockApart xs ys) (seed : UInt32) :
    hash seed xs ≠ hash seed ys := by
  obtain ⟨pre, b, b', post, rfl, rfl, hne, hpre, hlength, hblock⟩ := h.split
  intro heq
  exact hne (eq_of_hash_eq hpre hlength hblock heq)

end OneBlockApart

theorem hash_seed_injective (bytes : List UInt8) :
    Function.Injective fun seed => hash seed bytes := by
  intro seed seed' heq
  have hstart : seed ^^^ lengthWord bytes = seed' ^^^ lengthWord bytes :=
    absorb_state_injective bytes (finish_injective heq)
  exact (UInt32.xor_left_inj _).mp hstart

/-! ## Derived ids -/

/-- Sensors without ids, whose names differ in one block, have different numbers. -/
theorem OneBlockApart.number_ne {s t : Config.Sensor} (hs : s.id = none) (ht : t.id = none)
    (h : OneBlockApart (Text.Utf8.encode s.name) (Text.Utf8.encode t.name)) :
    s.number ≠ t.number := by
  intro heq
  apply h.hash_ne 0
  apply UInt32.toNat_inj.mp
  have hnumbers : ((ofText s.name).toNat : Int) = (ofText t.name).toNat := by
    rw [← Config.Sensor.toInt_number_of_none hs, heq, Config.Sensor.toInt_number_of_none ht]
  exact Int.ofNat_inj.mp hnumbers

/-- **No block is lost.** Strings of bytes that differ in one block have different hashes under each
seed, a string has different hashes under different seeds, and strings of four bytes have each hash
once. A hash is written with eight digits of its own. So of two servers without ids of their own,
whose URLs differ in one block, each is given eight digits, and not the same. -/
theorem blocks_are_told_apart :
    (∀ seed xs ys, OneBlockApart xs ys → hash seed xs ≠ hash seed ys) ∧
    (∀ bytes, Function.Injective fun seed => hash seed bytes) ∧
    (∀ seed, Set.BijOn (hash seed) {bytes | bytes.length = 4} Set.univ) ∧
    (∀ h, Text.Hex.Writes 8 h.toNat (digits h).toList) ∧
    Function.Injective digits ∧
    ∀ s t : Config.Server, Config.present? s.id = none → Config.present? t.id = none →
      OneBlockApart (Text.Utf8.encode s.url) (Text.Utf8.encode t.url) →
      Text.Hex.Writes 8 (ofText s.url).toNat s.serverId.toList ∧
        Text.Hex.Writes 8 (ofText t.url).toNat t.serverId.toList ∧ s.serverId ≠ t.serverId := by
  refine ⟨fun seed xs ys h => h.hash_ne seed, hash_seed_injective, fun seed => ?_, writes_digits,
    digits_injective, fun s t hs ht hurls => ?_⟩
  · have hnil : ([] : List UInt8).length % 4 = 0 := rfl
    simpa only [List.nil_append, List.append_nil] using bijOn_hash seed hnil []
  · rw [Config.Server.serverId_of_absent hs, Config.Server.serverId_of_absent ht]
    exact ⟨writes_digits _, writes_digits _, fun heq => hurls.hash_ne 0 (digits_injective heq)⟩

/-- Two servers whose URLs differ in the fourth block, one without an id and the other with a blank
one; and two URLs that differ in the byte left over. -/
theorem neighbours_are_told_apart :
    OneBlockApart (Text.Utf8.encode "http://10.0.0.1:8080")
        (Text.Utf8.encode "http://10.0.0.2:8080") ∧
      (Config.Server.mk none "http://10.0.0.1:8080" none []).serverId ≠
        (Config.Server.mk (some "  ") "http://10.0.0.2:8080" none []).serverId ∧
      OneBlockApart (Text.Utf8.encode "http://plc/17") (Text.Utf8.encode "http://plc/18") ∧
      hash 7 (Text.Utf8.encode "http://plc/17") ≠ hash 7 (Text.Utf8.encode "http://plc/18") := by
  obtain ⟨hblocks, -, -, -, -, hservers⟩ := blocks_are_told_apart
  -- `http://10.0.`, then `0.1:` or `0.2:`, then `8080`
  have hhosts : OneBlockApart (Text.Utf8.encode "http://10.0.0.1:8080")
      (Text.Utf8.encode "http://10.0.0.2:8080") := by
    have hpieces : OneBlockApart
        ([104, 116, 116, 112, 58, 47, 47, 49, 48, 46, 48, 46] ++
          ([48, 46, 49, 58] ++ [56, 48, 56, 48]))
        ([104, 116, 116, 112, 58, 47, 47, 49, 48, 46, 48, 46] ++
          ([48, 46, 50, 58] ++ [56, 48, 56, 48])) :=
      .of_blocks rfl rfl (by decide) (by decide)
    rw [Text.Utf8.encode_eq_flatMap, Text.Utf8.encode_eq_flatMap]
    exact hpieces
  -- `http://plc/1`, then `7` or `8`
  have hpaths : OneBlockApart (Text.Utf8.encode "http://plc/17")
      (Text.Utf8.encode "http://plc/18") := by
    have hpieces : OneBlockApart
        ([104, 116, 116, 112, 58, 47, 47, 112, 108, 99, 47, 49] ++ ([55] ++ []))
        ([104, 116, 116, 112, 58, 47, 47, 112, 108, 99, 47, 49] ++ ([56] ++ [])) :=
      .of_blocks rfl rfl (by decide) (by decide)
    rw [Text.Utf8.encode_eq_flatMap, Text.Utf8.encode_eq_flatMap]
    exact hpieces
  exact ⟨hhosts, (hservers _ _ rfl (by decide) hhosts).2.2, hpaths, hblocks 7 _ _ hpaths⟩

end SensorGateway.Murmur
