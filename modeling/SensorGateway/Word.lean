/-
# SensorGateway.Word -- integers as words of 64 bits

A number from outside can have any size. It becomes a word, signed or unsigned, when it
fits; then the word stands for exactly that number (`int64?_eq_some_iff`,
`uint64?_eq_some_iff`). An estimate that does not fit becomes the greatest word.
-/

namespace SensorGateway.Word

/-- The signed word that stands for an integer, if there is one. -/
def int64? (n : Int) : Option Int64 :=
  if -0x8000000000000000 ≤ n ∧ n < 0x8000000000000000 then some (Int64.ofInt n) else none

/-- The unsigned word that stands for an integer, if there is one. -/
def uint64? (n : Int) : Option UInt64 :=
  if 0 ≤ n ∧ n < UInt64.size then some (UInt64.ofNat n.toNat) else none

/-- The unsigned word next to a number. -/
def saturate (n : Nat) : UInt64 := UInt64.ofNat (min (UInt64.size - 1) n)

/-! ## Words stand for their numbers -/

@[simp] theorem int64?_toInt (w : Int64) : int64? w.toInt = some w := by
  have h₁ := w.le_toInt
  have h₂ := w.toInt_lt
  rw [int64?, if_pos (by omega), Int64.ofInt_toInt]

theorem int64?_eq_some_iff {n : Int} {w : Int64} : int64? n = some w ↔ w.toInt = n := by
  constructor
  · intro h
    rw [int64?] at h
    split at h
    · next fits =>
      cases h
      exact Int64.toInt_ofInt_of_le (by omega) (by omega)
    · cases h
  · rintro rfl
    exact int64?_toInt w

@[simp] theorem uint64?_toNat (w : UInt64) : uint64? w.toNat = some w := by
  have h := w.toNat_lt_size
  rw [uint64?, if_pos (by omega), Int.toNat_natCast, UInt64.ofNat_toNat]

theorem uint64?_eq_some_iff {n : Int} {w : UInt64} : uint64? n = some w ↔ (w.toNat : Int) = n := by
  constructor
  · intro h
    rw [uint64?] at h
    split at h
    · next fits =>
      cases h
      rw [UInt64.toNat_ofNat_of_lt' (by omega)]
      omega
    · cases h
  · rintro rfl
    exact uint64?_toNat w

theorem toNat_saturate (n : Nat) : (saturate n).toNat = min (UInt64.size - 1) n := by
  have h : 0 < UInt64.size := by decide
  exact UInt64.toNat_ofNat_of_lt' (by omega)

end SensorGateway.Word
