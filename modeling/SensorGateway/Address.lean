/-
# SensorGateway.Address -- socket addresses

An address is a version 4 or version 6 network address with a port. Version 4 is
written as four decimal numbers. Version 6 is written as eight hexadecimal groups,
where the longest run of at least two zero groups is left out; an address that maps a
version 4 address ends in its decimal form. A version 6 address with a port stands in
brackets and may carry a scope behind a percent sign.
-/
import SensorGateway.Text.Blank
import SensorGateway.Text.Hex

namespace SensorGateway

/-- An IP address of version 4. -/
structure Ipv4 where
  a : UInt8
  b : UInt8
  c : UInt8
  d : UInt8
deriving DecidableEq, Repr

/-- An IP address of version 6 as its eight groups. -/
structure Ipv6 where
  groups : Vector UInt16 8
deriving DecidableEq, Repr

/-- An address that a server can listen on. -/
inductive SocketAddress where
  | v4 (ip : Ipv4) (port : UInt16)
  | v6 (ip : Ipv6) (scope : UInt32) (port : UInt16)
deriving DecidableEq, Repr

/-! ## Writing -/

/-- The decimal form of a version 4 address. -/
def Ipv4.text (ip : Ipv4) : String :=
  toString ip.a.toNat ++ "." ++ toString ip.b.toNat ++ "." ++ toString ip.c.toNat ++ "." ++
    toString ip.d.toNat

namespace Ipv6

/-- A group without zeros in front. -/
def groupText (g : UInt16) : String := String.ofList (Nat.toDigits 16 g.toNat)

/-- Groups with colons between. -/
def groupsText (gs : List UInt16) : String := ":".intercalate (gs.map groupText)

/-- The length of the run of zeros at the front. -/
def zeroRun (gs : List UInt16) : Nat := (gs.takeWhile (· = 0)).length

/-- Start and length of the first longest run of zeros in the groups from position `at'` on,
or the given best when none is longer. -/
def longestRun (at' : Nat) (best : Nat × Nat) : List UInt16 → Nat × Nat
  | [] => best
  | g :: rest =>
    let n := zeroRun (g :: rest)
    longestRun (at' + 1) (if best.2 < n then (at', n) else best) rest

/-- The version 4 address in the last two groups, when the address maps one. -/
def mapped? (ip : Ipv6) : Option Ipv4 :=
  match ip.groups.toList with
  | [0, 0, 0, 0, 0, 0xffff, g, h] =>
    some ⟨(g >>> 8).toUInt8, g.toUInt8, (h >>> 8).toUInt8, h.toUInt8⟩
  | _ => none

/-- The text of a version 6 address. -/
def text (ip : Ipv6) : String :=
  match ip.mapped? with
  | some v4 => "::ffff:" ++ v4.text
  | none =>
    let gs := ip.groups.toList
    let (start, length) := longestRun 0 (0, 0) gs
    if 1 < length then
      groupsText (gs.take start) ++ "::" ++ groupsText (gs.drop (start + length))
    else groupsText gs

end Ipv6

namespace SocketAddress

/-- The text of an address with its port. -/
def text : SocketAddress → String
  | .v4 ip port => ip.text ++ ":" ++ toString port.toNat
  | .v6 ip scope port =>
    "[" ++ ip.text ++ (if scope = 0 then "" else "%" ++ toString scope.toNat) ++ "]:" ++
      toString port.toNat

/-- Whether the address is of version 6. -/
def isV6 : SocketAddress → Bool
  | .v4 .. => false
  | .v6 .. => true

end SocketAddress

/-! ## Reading -/

namespace SocketAddress

/-- A decimal number of any length up to `limit`, and what follows. -/
def decimal? (limit : Nat) (cs : List Char) : Option (Nat × List Char) :=
  let ds := cs.takeWhile Char.isDigit
  let n := Text.decimalValue ds
  if ds = [] ∨ limit < n then none else some (n, cs.dropWhile Char.isDigit)

/-- A part of a version 4 address: at most three digits, none of them a zero in front. -/
def octet? (cs : List Char) : Option (UInt8 × List Char) :=
  let ds := cs.takeWhile Char.isDigit
  let n := Text.decimalValue ds
  if ds = [] ∨ 3 < ds.length ∨ (ds.head? = some '0' ∧ 1 < ds.length) ∨ 255 < n then none
  else some (UInt8.ofNat n, cs.dropWhile Char.isDigit)

/-- A character that has to be there. -/
def mark? (c : Char) : List Char → Option (List Char)
  | d :: rest => if d = c then some rest else none
  | [] => none

/-- A version 4 address, and what follows. -/
def ipv4? (cs : List Char) : Option (Ipv4 × List Char) := do
  let (a, cs) ← octet? cs
  let (b, cs) ← octet? (← mark? '.' cs)
  let (c, cs) ← octet? (← mark? '.' cs)
  let (d, cs) ← octet? (← mark? '.' cs)
  return (⟨a, b, c, d⟩, cs)

/-- A group of one to four hexadecimal digits, and what follows. -/
def group? (cs : List Char) : Option (UInt16 × List Char) :=
  let isHex := fun c => (Text.Hex.digit? c).isSome
  let ds := cs.takeWhile isHex
  if ds = [] ∨ 4 < ds.length then none
  else (Text.Hex.decode? ds).map fun n => (UInt16.ofNat n, cs.dropWhile isHex)

/-- Groups with colons between, at most `limit` of them, and what follows. A version 4
address may stand for the last two and ends the list. The colon before a group is part of it,
save for the first. -/
def groups (first : Bool) : (limit : Nat) → List Char → List UInt16 × Bool × List Char
  | 0, cs => ([], false, cs)
  | limit + 1, cs =>
    match if first then some cs else mark? ':' cs with
    | none => ([], false, cs)
    | some inner =>
      match if 1 ≤ limit then ipv4? inner else none with
      | some (ip, rest) =>
        let pair := fun (x y : UInt8) => x.toUInt16 <<< 8 ||| y.toUInt16
        ([pair ip.a ip.b, pair ip.c ip.d], true, rest)
      | none =>
        match group? inner with
        | none => ([], false, cs)
        | some (g, rest) =>
          let (gs, ended, rest) := groups false limit rest
          (g :: gs, ended, rest)

/-- Eight groups as an address. -/
def ofGroups? (gs : List UInt16) : Option Ipv6 :=
  if h : gs.length = 8 then some ⟨⟨gs.toArray, by simpa using h⟩⟩ else none

/-- A version 6 address, and what follows. A double colon stands for at least one zero
group. -/
def ipv6? (cs : List Char) : Option (Ipv6 × List Char) :=
  let (head, headV4, rest) := groups true 8 cs
  if head.length = 8 then (ofGroups? head).map fun ip => (ip, rest)
  else if headV4 then none
  else
    match rest with
    | ':' :: ':' :: rest =>
      let (tail, _, rest) := groups true (7 - head.length) rest
      let zeros := List.replicate (8 - head.length - tail.length) 0
      (ofGroups? (head ++ zeros ++ tail)).map fun ip => (ip, rest)
    | _ => none

/-- The scope of a version 6 address, zero when there is none. -/
def scope? : List Char → Option (UInt32 × List Char)
  | '%' :: rest => (decimal? (UInt32.size - 1) rest).map fun r => (UInt32.ofNat r.1, r.2)
  | cs => some (0, cs)

/-- The port behind an address; it ends the text. -/
def port? (cs : List Char) : Option UInt16 := do
  let (n, rest) ← decimal? (UInt16.size - 1) (← mark? ':' cs)
  if rest = [] then return UInt16.ofNat n else none

/-- A version 4 address with its port. -/
def ofV4Chars? (cs : List Char) : Option SocketAddress := do
  let (ip, rest) ← ipv4? cs
  return .v4 ip (← port? rest)

/-- A version 6 address in brackets with its port. -/
def ofV6Chars? (cs : List Char) : Option SocketAddress := do
  let (ip, rest) ← ipv6? (← mark? '[' cs)
  let (scope, rest) ← scope? rest
  return .v6 ip scope (← port? (← mark? ']' rest))

/-- The address that a text names. -/
def ofText? (s : String) : Option SocketAddress :=
  ofV4Chars? s.toList <|> ofV6Chars? s.toList

end SocketAddress

end SensorGateway
