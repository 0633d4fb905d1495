/-
# SensorGateway.Proofs.General.Words -- words, shifts and bytes

What shifts do to a word and to the bytes in it. A number that is shifted up leaves room for a
smaller one, and the two are put together by an or, by an exclusive or or by adding them, all alike
(`or_shiftLeft`, `shiftLeft_xor`). A word that is shifted down and put over itself can be told from
the outcome (`xor_shiftRight_injective`).
-/
import Mathlib.Algebra.Group.Nat.Defs

namespace SensorGateway.General

/-! ## Numbers side by side -/

section Places

variable {m s : Nat} (h : m < 2 ^ s) (n : Nat)
include h

theorem or_shiftLeft : m ||| n <<< s = m + n * 2 ^ s := by
  rw [Nat.or_comm, ← Nat.shiftLeft_add_eq_or_of_lt h, Nat.shiftLeft_eq, Nat.add_comm]

theorem shiftLeft_xor : n <<< s ^^^ m = m + n * 2 ^ s := by
  rw [← or_shiftLeft h n]
  refine Nat.eq_of_testBit_eq fun i => ?_
  rw [Nat.testBit_xor, Nat.testBit_or, Nat.testBit_shiftLeft]
  by_cases hi : s ≤ i
  · rw [Nat.testBit_lt_two_pow (Nat.lt_of_lt_of_le h (Nat.pow_le_pow_right (by decide) hi)),
      Bool.xor_false, Bool.false_or]
  · rw [decide_eq_false hi, Bool.false_and, Bool.false_xor, Bool.or_false]

end Places

/-! ## Bytes in a word -/

/-- A byte is not cut off at its place in a word. -/
theorem toNat_shiftLeft_byte (b : UInt8) {s : UInt32} (hs : s.toNat ≤ 24) :
    (b.toUInt32 <<< s).toNat = b.toNat <<< s.toNat := by
  have hb : b.toNat < 2 ^ 8 := b.toNat_lt
  have hlt : b.toNat <<< s.toNat < 2 ^ 32 := by
    calc b.toNat <<< s.toNat = b.toNat * 2 ^ s.toNat := Nat.shiftLeft_eq ..
      _ < 2 ^ 8 * 2 ^ s.toNat := Nat.mul_lt_mul_of_pos_right hb (Nat.two_pow_pos _)
      _ ≤ 2 ^ 8 * 2 ^ 24 := Nat.mul_le_mul_left _ (Nat.pow_le_pow_right (by decide) hs)
  rw [UInt32.toNat_shiftLeft, Nat.mod_eq_of_lt (Nat.lt_of_le_of_lt hs (by decide)),
    UInt8.toNat_toUInt32, Nat.mod_eq_of_lt hlt]

/-- A word of two bytes is made of them. -/
theorem join_bytes (g : UInt16) : (g >>> 8).toUInt8.toUInt16 <<< 8 ||| g.toUInt8.toUInt16 = g := by
  have hlow : g.toNat % 256 < 2 ^ 8 := Nat.mod_lt _ (by decide)
  have hlt := g.toNat_lt
  have hhigh : (g.toNat >>> 8 % 256) <<< 8 % 65536 = (g.toNat / 256) <<< 8 := by
    rw [Nat.shiftLeft_eq, Nat.shiftLeft_eq, Nat.shiftRight_eq_div_pow]
    omega
  apply UInt16.toNat_inj.mp
  simp only [UInt16.toNat_or, UInt16.toNat_shiftLeft, UInt8.toNat_toUInt16, UInt16.toNat_toUInt8,
    UInt16.toNat_shiftRight, UInt16.reduceToNat, Nat.reducePow, Nat.reduceMod]
  rw [hhigh, Nat.or_comm, or_shiftLeft hlow]
  omega

/-! ## A word over itself -/

/-- A word can be told from the word with its own shift put over it. -/
theorem xor_shiftRight_injective {s : UInt32} (hs : 0 < s.toNat % 32) :
    Function.Injective fun h : UInt32 => h ^^^ h >>> s := by
  intro x y heq
  have hfixed : (x ^^^ y) >>> s = x ^^^ y := by
    have hxor : (x ^^^ x >>> s) ^^^ (y ^^^ y >>> s) = 0 := UInt32.xor_eq_zero_iff.mpr heq
    rw [UInt32.shiftRight_xor, ← UInt32.xor_eq_zero_iff, ← hxor]
    ac_rfl
  have hdiv : (x ^^^ y).toNat / 2 ^ (s.toNat % 32) = (x ^^^ y).toNat := by
    rw [← Nat.shiftRight_eq_div_pow, ← UInt32.toNat_shiftRight, hfixed]
  -- a shift leaves no number but zero as it is
  have hzero : (x ^^^ y).toNat = 0 := by
    refine Nat.eq_zero_of_not_pos fun hpos => ?_
    exact Nat.ne_of_lt (Nat.div_lt_self hpos (Nat.one_lt_two_pow (Nat.ne_of_gt hs))) hdiv
  exact UInt32.xor_eq_zero_iff.mp (UInt32.toNat_inj.mp hzero)

end SensorGateway.General
