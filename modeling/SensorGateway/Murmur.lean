/-
# SensorGateway.Murmur -- the 32-bit hash behind derived ids

MurmurHash2 reads a byte string in blocks of four, mixes each block into a 32-bit
state, then the one to three bytes left over, and scrambles the result. A server
without an id takes the eight hexadecimal digits of its URL's hash, a sensor without
an id the hash of its name.
-/
import SensorGateway.Text.Hex
import SensorGateway.Text.Utf8

namespace SensorGateway.Murmur

/-- The multiplier of every step. -/
def multiplier : UInt32 := 0x5bd1e995

/-- Four bytes as a word, the first byte lowest. -/
def word (a b c d : UInt8) : UInt32 :=
  a.toUInt32 ||| (b.toUInt32 <<< 8) ||| (c.toUInt32 <<< 16) ||| (d.toUInt32 <<< 24)

/-- Scrambles one block by itself. -/
def scramble (k : UInt32) : UInt32 :=
  let k := k * multiplier
  (k ^^^ (k >>> 24)) * multiplier

/-- Mixes one block into the state. -/
def mix (h k : UInt32) : UInt32 := (h * multiplier) ^^^ scramble k

/-- The bytes left over as a word. -/
def remainder : List UInt8 → UInt32
  | [a, b, c] => (c.toUInt32 <<< 16) ^^^ (b.toUInt32 <<< 8) ^^^ a.toUInt32
  | [a, b] => (b.toUInt32 <<< 8) ^^^ a.toUInt32
  | [a] => a.toUInt32
  | _ => 0

/-- Mixes all blocks and the bytes left over into the state. -/
def absorb (h : UInt32) : List UInt8 → UInt32
  | a :: b :: c :: d :: rest => absorb (mix h (word a b c d)) rest
  | [] => h
  | left => (h ^^^ remainder left) * multiplier

/-- The last scrambling of the state. -/
def finish (h : UInt32) : UInt32 :=
  let h := (h ^^^ (h >>> 13)) * multiplier
  h ^^^ (h >>> 15)

/-- The length of a byte string as it enters the hash. -/
def lengthWord (bytes : List UInt8) : UInt32 := UInt32.ofNat (min bytes.length (UInt32.size - 1))

/-- The hash of a byte string. -/
def hash (seed : UInt32) (bytes : List UInt8) : UInt32 :=
  finish (absorb (seed ^^^ lengthWord bytes) bytes)

/-- The hash of a text with seed zero. -/
def ofText (s : String) : UInt32 := hash 0 (Text.Utf8.encode s)

/-- A hash as eight hexadecimal digits. -/
def digits (h : UInt32) : String := String.ofList (Text.Hex.encode 8 h.toNat)

end SensorGateway.Murmur
