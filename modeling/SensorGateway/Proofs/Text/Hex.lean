/-
# SensorGateway.Proofs.Text.Hex -- hexadecimal digits in a fixed width

A number is written with just so many digits, with zeros in front, and these give the number back
(`Hex.writes_encode`). What is true of the sixteen digits is true of all that is written
(`Hex.forall_mem_encode`).
-/
import SensorGateway.Text.Hex

namespace SensorGateway.Text.Hex

theorem length_encode (width n : Nat) : (encode width n).length = width := by
  induction width generalizing n with
  | zero => rfl
  | succ width ih => rw [encode, List.length_append, ih, List.length_singleton]

theorem forall_mem_encode {p : Char → Prop} (hp : ∀ n < 16, p (char n)) (width n : Nat) :
    ∀ c ∈ encode width n, p c := by
  induction width generalizing n with
  | zero => exact nofun
  | succ width ih =>
    intro c hc
    rcases List.mem_append.mp hc with hc | hc
    · exact ih _ c hc
    · exact List.mem_singleton.mp hc ▸ hp _ (Nat.mod_lt _ (by decide))

/-- Just so many lower-case digits write a number. -/
structure Writes (width n : Nat) (cs : List Char) : Prop where
  length : cs.length = width
  digits : ∀ c ∈ cs, c.isDigit = true ∨ ('a' ≤ c ∧ c ≤ 'f')
  value : decode? cs = some n

theorem writes_encode {width n : Nat} (h : n < Nat.pow 16 width) :
    Writes width n (encode width n) where
  length := length_encode width n
  digits := forall_mem_encode (by decide) width n
  value := decode?_encode width n h

/-- Digits write one number. -/
theorem Writes.eq {width m n : Nat} {cs : List Char} (hm : Writes width m cs)
    (hn : Writes width n cs) : m = n :=
  Option.some.inj (hm.value.symm.trans hn.value)

end SensorGateway.Text.Hex
