/-
# SensorGateway.Text.Hex -- hexadecimal digits

Digits are read in either case and written in lower case. `digit?_char` says that
a written digit reads back as itself.
-/

namespace SensorGateway.Text.Hex

/-- The value of a hexadecimal digit in either case. -/
def digit? (c : Char) : Option Nat :=
  if '0' ≤ c ∧ c ≤ '9' then some (c.toNat - '0'.toNat)
  else if 'a' ≤ c ∧ c ≤ 'f' then some (c.toNat - 'a'.toNat + 10)
  else if 'A' ≤ c ∧ c ≤ 'F' then some (c.toNat - 'A'.toNat + 10)
  else none

/-- The lower-case digit for a number below sixteen. -/
def char (n : Nat) : Char :=
  if n < 10 then Char.ofNat ('0'.toNat + n) else Char.ofNat ('a'.toNat + (n - 10))

theorem digit?_char : ∀ n < 16, digit? (char n) = some n := by decide

/-- The last `width` hexadecimal digits of a number. -/
def encode : (width : Nat) → Nat → List Char
  | 0, _ => []
  | width + 1, n => encode width (n / 16) ++ [char (n % 16)]

/-- The number that a list of hexadecimal digits writes. -/
def decode? (cs : List Char) : Option Nat :=
  cs.foldl (fun acc c => do return 16 * (← acc) + (← digit? c)) (some 0)

theorem decode?_append (cs : List Char) (c : Char) :
    decode? (cs ++ [c]) = (do return 16 * (← decode? cs) + (← digit? c)) := by
  simp [decode?]

/-- Reading the written digits gives the number, as far as the width reaches. -/
theorem decode?_encode (width n : Nat) (h : n < Nat.pow 16 width) :
    decode? (encode width n) = some n := by
  induction width generalizing n with
  | zero =>
    have : n = 0 := by simpa using h
    subst this; rfl
  | succ width ih =>
    have hq : n / 16 < Nat.pow 16 width := by
      have : Nat.pow 16 (width + 1) = Nat.pow 16 width * 16 := rfl
      omega
    rw [encode, decode?_append, ih _ hq, digit?_char _ (Nat.mod_lt _ (by decide))]
    simp
    omega

end SensorGateway.Text.Hex
