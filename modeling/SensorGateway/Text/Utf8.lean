/-
# SensorGateway.Text.Utf8 -- reading bytes as text

Bytes are read as UTF-8, one character or one ill-formed run at a time. An
ill-formed run is the longest beginning of a well-formed sequence that the bytes
cut short, or a single byte that begins none. A strict reader refuses the first
such run; a lenient reader puts U+FFFD in its place.
-/

namespace SensorGateway.Text.Utf8

/-- What the first byte of a sequence of several bytes announces. -/
structure Lead where
  /-- The bits that the first byte contributes. -/
  bits : Nat
  /-- How many bytes follow. -/
  following : Nat
  /-- The least value of the second byte. -/
  low : Nat
  /-- The greatest value of the second byte. -/
  high : Nat

/-- The first bytes of the sequences of two, three and four bytes. The bounds on the
second byte leave out overlong forms, surrogates and numbers past U+10FFFF. -/
def lead? (b : Nat) : Option Lead :=
  if b < 0xC2 then none
  else if b ≤ 0xDF then some ⟨b - 0xC0, 1, 0x80, 0xBF⟩
  else if b = 0xE0 then some ⟨0, 2, 0xA0, 0xBF⟩
  else if b = 0xED then some ⟨b - 0xE0, 2, 0x80, 0x9F⟩
  else if b ≤ 0xEF then some ⟨b - 0xE0, 2, 0x80, 0xBF⟩
  else if b = 0xF0 then some ⟨0, 3, 0x90, 0xBF⟩
  else if b ≤ 0xF3 then some ⟨b - 0xF0, 3, 0x80, 0xBF⟩
  else if b = 0xF4 then some ⟨b - 0xF0, 3, 0x80, 0x8F⟩
  else none

/-- Reads the remaining bytes of a sequence; `none` where the bytes cut it short. -/
def tail (low high acc : Nat) : (following : Nat) → List UInt8 → Option Nat × List UInt8
  | 0, bytes => (some acc, bytes)
  | _ + 1, [] => (none, [])
  | following + 1, b :: bytes =>
    if low ≤ b.toNat ∧ b.toNat ≤ high then
      tail 0x80 0xBF (acc * 64 + (b.toNat - 0x80)) following bytes
    else (none, b :: bytes)

/-- The first character of the bytes, `none` for an ill-formed run, and what follows. -/
def first (b : UInt8) (bytes : List UInt8) : Option Char × List UInt8 :=
  if b.toNat < 0x80 then (some (Char.ofNat b.toNat), bytes)
  else
    match lead? b.toNat with
    | none => (none, bytes)
    | some l =>
      let (code, rest) := tail l.low l.high l.bits l.following bytes
      (code.map Char.ofNat, rest)

theorem length_tail_le (low high acc n : Nat) (bytes : List UInt8) :
    (tail low high acc n bytes).2.length ≤ bytes.length := by
  induction n generalizing low high acc bytes with
  | zero => simp [tail]
  | succ n ih =>
    cases bytes with
    | nil => simp [tail]
    | cons b bytes =>
      unfold tail
      split
      · exact Nat.le_succ_of_le (ih ..)
      · simp

theorem length_first_le (b : UInt8) (bytes : List UInt8) :
    (first b bytes).2.length ≤ bytes.length := by
  unfold first
  split
  · simp
  · split
    · simp
    · exact length_tail_le ..

/-- The characters and ill-formed runs of the bytes, in order. -/
def runs : List UInt8 → List (Option Char)
  | [] => []
  | b :: bytes => (first b bytes).1 :: runs (first b bytes).2
termination_by bytes => bytes.length
decreasing_by exact Nat.lt_succ_of_le (length_first_le b bytes)

/-- The text of well-formed bytes. -/
def decode? (bytes : List UInt8) : Option String :=
  ((runs bytes).mapM id).map String.ofList

/-- The text of any bytes, with U+FFFD for every ill-formed run. -/
def decodeLenient (bytes : List UInt8) : String :=
  String.ofList ((runs bytes).map (·.getD '\uFFFD'))

/-- The bytes of a text. -/
def encode (s : String) : List UInt8 := s.toUTF8.toList

end SensorGateway.Text.Utf8
