/-
# SensorGateway.Proofs.Murmur.Mixing -- what is mixed into the hash can be told from it

Every step of the hash can be undone: a product with the odd multiplier, a word with its own shift
put over it, and so the mixing of a block, in its state as well as in its block
(`mix_state_injective`, `mix_block_injective`). Both go through a whole string of bytes as far as
the state is concerned (`absorb_state_injective`). A block itself enters as the number that its
bytes write, the first byte lowest (`toNat_word`), and so do the bytes left over
(`toNat_remainder`), although the one joins its bytes by an or and the other by an exclusive or.
-/
import Mathlib.Data.Nat.Digits.Defs
import SensorGateway.Murmur
import SensorGateway.Proofs.General.Words

namespace SensorGateway.Murmur

open General (or_shiftLeft shiftLeft_xor toNat_shiftLeft_byte xor_shiftRight_injective)

/-! ## Steps that can be undone -/

theorem mul_multiplier_injective : Function.Injective fun h : UInt32 => h * multiplier := by
  -- an odd number has an inverse modulo a power of two
  have hunit : multiplier * 0xe59b19bd = 1 := by decide
  have hback (h : UInt32) : h * multiplier * 0xe59b19bd = h := by
    rw [UInt32.mul_assoc, hunit, UInt32.mul_one]
  exact Function.LeftInverse.injective (g := (· * 0xe59b19bd)) hback

theorem scramble_injective : Function.Injective scramble :=
  mul_multiplier_injective.comp
    ((xor_shiftRight_injective (s := 24) (by decide)).comp mul_multiplier_injective)

theorem finish_injective : Function.Injective finish :=
  (xor_shiftRight_injective (s := 15) (by decide)).comp
    (mul_multiplier_injective.comp (xor_shiftRight_injective (s := 13) (by decide)))

theorem mix_state_injective (k : UInt32) : Function.Injective fun h => mix h k := by
  intro g h heq
  apply mul_multiplier_injective
  exact (UInt32.xor_left_inj _).mp heq

theorem mix_block_injective (h : UInt32) : Function.Injective (mix h) := by
  intro j k heq
  apply scramble_injective
  exact (UInt32.xor_right_inj _).mp heq

/-- Bytes without a block in front are fewer than four. -/
theorem length_lt_of_noBlock {left : List UInt8}
    (h : ∀ a b c d rest, left = a :: b :: c :: d :: rest → False) : left.length < 4 := by
  match left with
  | [] | [_] | [_, _] | [_, _, _] => simp
  | a :: b :: c :: d :: rest => exact absurd rfl (h a b c d rest)

theorem absorb_left {left : List UInt8} (hpos : 0 < left.length) (hlt : left.length < 4)
    (h : UInt32) : absorb h left = (h ^^^ remainder left) * multiplier := by
  match left with
  | [_] | [_, _] | [_, _, _] => rfl

/-- The state can be told from what any bytes make of it. -/
theorem absorb_state_injective (bytes : List UInt8) :
    Function.Injective fun h => absorb h bytes := by
  intro g h heq
  dsimp only at heq
  fun_induction absorb g bytes generalizing h with
  | case1 g a b c d rest ih => exact mix_state_injective _ (ih heq)
  | case2 => exact heq
  | case3 g left hblock hne =>
    have hpos : 0 < left.length := List.length_pos_iff.mpr hne
    rw [absorb_left hpos (length_lt_of_noBlock hblock)] at heq
    exact (UInt32.xor_left_inj _).mp (mul_multiplier_injective heq)

/-! ## Blocks as numbers -/

/-- The number that bytes write, the first byte lowest. -/
def littleEndian (bytes : List UInt8) : Nat := Nat.ofDigits 256 (bytes.map UInt8.toNat)

theorem littleEndian_nil : littleEndian [] = 0 := rfl

theorem littleEndian_cons (b : UInt8) (bytes : List UInt8) :
    littleEndian (b :: bytes) = b.toNat + 256 * littleEndian bytes := by
  rw [littleEndian, List.map_cons, Nat.ofDigits_cons]
  rfl

theorem eq_of_littleEndian_eq {xs ys : List UInt8} (hlength : xs.length = ys.length)
    (heq : littleEndian xs = littleEndian ys) : xs = ys := by
  have hlt (bytes : List UInt8) : ∀ n ∈ bytes.map UInt8.toNat, n < 256 := fun n hn => by
    obtain ⟨b, -, rfl⟩ := List.mem_map.mp hn
    exact b.toNat_lt
  refine (List.map_inj_right fun _ _ => UInt8.toNat_inj.mp).mp ?_
  exact Nat.ofDigits_inj_of_len_eq (by decide) (by simpa using hlength) (hlt xs) (hlt ys) heq

theorem toNat_word (a b c d : UInt8) : (word a b c d).toNat = littleEndian [a, b, c, d] := by
  have ha : a.toNat < 2 ^ 8 := a.toNat_lt
  have hb : b.toNat < 2 ^ 8 := b.toNat_lt
  have hc : c.toNat < 2 ^ 8 := c.toNat_lt
  have hab : a.toNat + b.toNat * 2 ^ 8 < 2 ^ 16 := by omega
  have habc : a.toNat + b.toNat * 2 ^ 8 + c.toNat * 2 ^ 16 < 2 ^ 24 := by omega
  calc (word a b c d).toNat
      = a.toNat ||| b.toNat <<< 8 ||| c.toNat <<< 16 ||| d.toNat <<< 24 := by
        simp (disch := decide) only [word, UInt32.toNat_or, UInt8.toNat_toUInt32,
          toNat_shiftLeft_byte]
        rfl
    _ = a.toNat + b.toNat * 2 ^ 8 + c.toNat * 2 ^ 16 + d.toNat * 2 ^ 24 := by
        rw [or_shiftLeft ha, or_shiftLeft hab, or_shiftLeft habc]
    _ = littleEndian [a, b, c, d] := by
        simp only [littleEndian_cons, littleEndian_nil]
        omega

theorem toNat_remainder {left : List UInt8} (hlt : left.length < 4) :
    (remainder left).toNat = littleEndian left := by
  match left with
  | [] => rfl
  | [a] =>
    rw [littleEndian_cons, littleEndian_nil]
    exact UInt8.toNat_toUInt32 a
  | [a, b] =>
    have ha : a.toNat < 2 ^ 8 := a.toNat_lt
    calc (remainder [a, b]).toNat
        = b.toNat <<< 8 ^^^ a.toNat := by
          simp (disch := decide) only [remainder, UInt32.toNat_xor, UInt8.toNat_toUInt32,
            toNat_shiftLeft_byte]
          rfl
      _ = a.toNat + b.toNat * 2 ^ 8 := shiftLeft_xor ha _
      _ = littleEndian [a, b] := by
          simp only [littleEndian_cons, littleEndian_nil]
          omega
  | [a, b, c] =>
    have ha : a.toNat < 2 ^ 8 := a.toNat_lt
    have hb : b.toNat < 2 ^ 8 := b.toNat_lt
    have hab : a.toNat + b.toNat * 2 ^ 8 < 2 ^ 16 := by omega
    calc (remainder [a, b, c]).toNat
        = c.toNat <<< 16 ^^^ (b.toNat <<< 8 ^^^ a.toNat) := by
          simp (disch := decide) only [remainder, UInt32.toNat_xor, UInt8.toNat_toUInt32,
            toNat_shiftLeft_byte]
          exact Nat.xor_assoc ..
      _ = a.toNat + b.toNat * 2 ^ 8 + c.toNat * 2 ^ 16 := by
          rw [shiftLeft_xor ha, shiftLeft_xor hab]
      _ = littleEndian [a, b, c] := by
          simp only [littleEndian_cons, littleEndian_nil]
          omega
  | _ :: _ :: _ :: _ :: _ => exact absurd hlt (by simp)

end SensorGateway.Murmur
