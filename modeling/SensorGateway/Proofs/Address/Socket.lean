/-
# SensorGateway.Proofs.Address.Socket -- addresses with their ports

A text names a socket address when it is a host, a colon and the digits of a port
(`SocketAddress.ofText?_eq_some_iff`). Which hosts there are is said by
`SocketAddress.HostNames`: a version 4 address as it is, a version 6 address in brackets. No host
is a version 6 address without brackets (`SocketAddress.not_hostNames`).
-/
import SensorGateway.Proofs.Address.Text

namespace SensorGateway

open Text (EndsDigits)

variable {cs ds rest : List Char}

/-! ## Numbers -/

/-- Digits write a number up to a limit. There may be zeros in front. -/
structure WritesUpTo (limit n : Nat) (ds : List Char) : Prop where
  ne_nil : ds ≠ []
  digits : ∀ c ∈ ds, c.isDigit = true
  value : Text.decimalValue ds = n
  le : n ≤ limit

theorem writesUpTo_toDigits {limit n : Nat} (h : n ≤ limit) :
    WritesUpTo limit n (Nat.toDigits 10 n) :=
  ⟨Nat.toDigits_ne_nil, Text.isDigit_toDigits, Text.decimalValue_toDigits n, h⟩

/-- How the scope of an address is written behind it. -/
inductive WritesScope : UInt32 → List Char → Prop
  | none : WritesScope 0 []
  | percent {n : Nat} {ds : List Char} :
    WritesUpTo (UInt32.size - 1) n ds → WritesScope (UInt32.ofNat n) ('%' :: ds)

namespace SocketAddress

theorem decimal?_eq_some_iff {limit n : Nat} :
    decimal? limit cs = some (n, rest) ↔
      EndsDigits rest ∧ ∃ ds, WritesUpTo limit n ds ∧ cs = ds ++ rest := by
  unfold decimal?
  dsimp only
  constructor
  · intro h
    split at h
    · cases h
    · next hgood =>
      rw [not_or] at hgood
      obtain ⟨rfl, rfl⟩ := Prod.mk.inj (Option.some.inj h)
      exact ⟨Text.endsDigits_dropWhile cs, _, ⟨hgood.1,
        List.all_eq_true.mp List.all_takeWhile, rfl, Nat.le_of_not_lt hgood.2⟩,
        List.takeWhile_append_dropWhile.symm⟩
  · rintro ⟨hrest, ds, hds, rfl⟩
    have hgood : ¬ (ds = [] ∨ limit < n) := not_or.mpr ⟨hds.ne_nil, Nat.not_lt_of_le hds.le⟩
    rw [Text.takeWhile_digits hds.digits hrest, Text.dropWhile_digits hds.digits hrest, hds.value,
      if_neg hgood]

/-- A scope is read from what is written behind the address, up to the bracket. -/
theorem scope?_append {scope : UInt32} (h : WritesScope scope ds) :
    scope? (ds ++ ']' :: rest) = some (scope, ']' :: rest) := by
  cases h with
  | none => rfl
  | percent hds =>
    have hread := decimal?_eq_some_iff.mpr
      ⟨EndsDigits.cons (by decide : Char.isDigit ']' = false) rest, _, hds, rfl⟩
    simp only [List.cons_append, scope?, hread, Option.map_some]

theorem exists_writesScope_of_scope? {scope : UInt32} (h : scope? cs = some (scope, rest)) :
    ∃ ds, WritesScope scope ds ∧ cs = ds ++ rest := by
  unfold scope? at h
  split at h
  · next cs =>
    obtain ⟨⟨n, rest'⟩, hread, heq⟩ := Option.map_eq_some_iff.mp h
    obtain ⟨rfl, rfl⟩ := Prod.mk.inj heq
    obtain ⟨-, ds, hds, rfl⟩ := decimal?_eq_some_iff.mp hread
    exact ⟨'%' :: ds, .percent hds, rfl⟩
  · obtain ⟨rfl, rfl⟩ := Prod.mk.inj (Option.some.inj h)
    exact ⟨[], .none, rfl⟩

theorem port?_eq_some_iff {port : UInt16} :
    port? cs = some port ↔
      ∃ ds, WritesUpTo (UInt16.size - 1) port.toNat ds ∧ cs = ':' :: ds := by
  simp only [port?, Option.bind_eq_bind, Option.bind_eq_some_iff, mark?_eq_some_iff]
  constructor
  · rintro ⟨_, rfl, ⟨n, rest⟩, hread, hport⟩
    obtain ⟨rfl, hport⟩ := Option.ite_none_right_eq_some.mp hport
    obtain ⟨-, ds, hds, rfl⟩ := decimal?_eq_some_iff.mp hread
    have hn : port.toNat = n := by
      rw [← Option.some.inj hport]
      exact UInt16.toNat_ofNat_of_lt' (Nat.lt_of_le_of_lt hds.le (by decide))
    exact ⟨ds, hn ▸ hds, by rw [List.append_nil]⟩
  · rintro ⟨ds, hds, rfl⟩
    refine ⟨ds, rfl, (port.toNat, []), decimal?_eq_some_iff.mpr
      ⟨.nil, ds, hds, (List.append_nil ds).symm⟩, ?_⟩
    simp

/-! ## Hosts -/

/-- A host names an address at a port. -/
inductive HostNames (port : UInt16) : List Char → SocketAddress → Prop
  | v4 (ip : Ipv4) : HostNames port ip.text.toList (.v4 ip port)
  | v6 {ip : Ipv6} {scope : UInt32} {cs ds : List Char} :
    ip.Spells cs → WritesScope scope ds →
      HostNames port ('[' :: (cs ++ (ds ++ [']']))) (.v6 ip scope port)

theorem ofV4Chars?_eq_some_iff {a : SocketAddress} :
    ofV4Chars? cs = some a ↔ ∃ ip port ds, WritesUpTo (UInt16.size - 1) port.toNat ds ∧
      cs = ip.text.toList ++ ':' :: ds ∧ a = .v4 ip port := by
  simp only [ofV4Chars?, Option.bind_eq_bind, Option.bind_eq_some_iff, port?_eq_some_iff]
  constructor
  · rintro ⟨⟨ip, _⟩, hip, port, ⟨ds, hds, rfl⟩, ha⟩
    exact ⟨ip, port, ds, hds, (eq_text_of_ipv4? hip).1, (Option.some.inj ha).symm⟩
  · rintro ⟨ip, port, ds, hds, hcs, ha⟩
    rw [hcs, ha]
    exact ⟨(ip, ':' :: ds), ipv4?_text ip (.cons (by decide) ds), port, ⟨ds, hds, rfl⟩, rfl⟩

theorem endsGroups_scope {scope : UInt32} (h : WritesScope scope ds) (rest : List Char) :
    EndsGroups (ds ++ ']' :: rest) := by
  cases h with
  | none => exact .cons (by decide) (by decide) (by decide) _
  | percent => exact .cons (by decide) (by decide) (by decide) _

theorem ofV6Chars?_eq_some_iff {a : SocketAddress} :
    ofV6Chars? cs = some a ↔ ∃ ip scope port pre zone ds, ip.Spells pre ∧ WritesScope scope zone ∧
      WritesUpTo (UInt16.size - 1) port.toNat ds ∧
      cs = '[' :: (pre ++ (zone ++ ']' :: ':' :: ds)) ∧ a = .v6 ip scope port := by
  simp only [ofV6Chars?, Option.bind_eq_bind, Option.bind_eq_some_iff, port?_eq_some_iff,
    mark?_eq_some_iff]
  constructor
  · rintro ⟨_, rfl, ⟨ip, _⟩, hip, ⟨scope, _⟩, hscope, _, rfl, port, ⟨ds, hds, rfl⟩, ha⟩
    obtain ⟨pre, rfl, hpre⟩ := exists_spells_of_ipv6? hip
    obtain ⟨zone, hzone, rfl⟩ := exists_writesScope_of_scope? hscope
    exact ⟨ip, scope, port, pre, zone, ds, hpre, hzone, hds, rfl, (Option.some.inj ha).symm⟩
  · rintro ⟨ip, scope, port, pre, zone, ds, hpre, hzone, hds, rfl, rfl⟩
    exact ⟨_, rfl, _, ipv6?_append hpre (endsGroups_scope hzone _), _, scope?_append hzone, _, rfl,
      port, ⟨ds, hds, rfl⟩, rfl⟩

/-- **A text names an address when it is a host, a colon and the digits of a port.** -/
theorem ofText?_eq_some_iff {s : String} {a : SocketAddress} :
    ofText? s = some a ↔ ∃ port host ds, HostNames port host a ∧
      WritesUpTo (UInt16.size - 1) port.toNat ds ∧ s.toList = host ++ ':' :: ds := by
  have hread : ofText? s = (ofV4Chars? s.toList).or (ofV6Chars? s.toList) := Option.orElse_eq_or
  rw [hread]
  constructor
  · intro h
    rcases Option.or_eq_some_iff.mp h with h | ⟨-, h⟩
    · obtain ⟨ip, port, ds, hds, hs, rfl⟩ := ofV4Chars?_eq_some_iff.mp h
      exact ⟨port, _, ds, .v4 ip, hds, hs⟩
    · obtain ⟨ip, scope, port, pre, zone, ds, hpre, hzone, hds, hs, rfl⟩ :=
        ofV6Chars?_eq_some_iff.mp h
      refine ⟨port, _, ds, .v6 hpre hzone, hds, ?_⟩
      rw [hs]
      simp only [List.cons_append, List.append_assoc, List.nil_append]
  · rintro ⟨port, host, ds, hhost, hds, hs⟩
    cases hhost with
    | v4 ip =>
      have hv4 : ofV4Chars? s.toList = some (.v4 ip port) :=
        ofV4Chars?_eq_some_iff.mpr ⟨ip, port, ds, hds, hs, rfl⟩
      rw [hv4, Option.some_or]
    | @v6 ip scope pre zone hpre hzone =>
      have hv6 : ofV6Chars? s.toList = some (.v6 ip scope port) := by
        refine ofV6Chars?_eq_some_iff.mpr
          ⟨ip, scope, port, pre, zone, ds, hpre, hzone, hds, ?_, rfl⟩
        rw [hs]
        simp only [List.cons_append, List.append_assoc, List.nil_append]
      -- no version 4 address begins with a bracket
      have hv4 : ipv4? s.toList = none := by
        rw [hs]
        exact ipv4?_eq_none_of_endsDigits (.cons (by decide) _)
      rw [hv6, ofV4Chars?, hv4, Option.bind_eq_bind, Option.bind_none, Option.none_or]

theorem writesUpTo_port (port : UInt16) :
    WritesUpTo (UInt16.size - 1) port.toNat (Nat.toDigits 10 port.toNat) :=
  writesUpTo_toDigits (Nat.le_pred_of_lt port.toNat_lt)

theorem writesScope_text (scope : UInt32) :
    WritesScope scope (if scope = 0 then "" else "%" ++ toString scope.toNat).toList := by
  split
  · next hzero =>
    rw [hzero]
    exact .none
  · have hwrites := WritesScope.percent
      (writesUpTo_toDigits (Nat.le_pred_of_lt scope.toNat_lt))
    rw [UInt32.ofNat_toNat] at hwrites
    rwa [String.toList_append, Nat.toString_eq_repr, Nat.toList_repr]

/-- An address is read from its text. -/
theorem ofText?_text (a : SocketAddress) : ofText? a.text = some a := by
  cases a with
  | v4 ip port =>
    refine ofText?_eq_some_iff.mpr ⟨port, ip.text.toList, Nat.toDigits 10 port.toNat, .v4 ip,
      writesUpTo_port port, ?_⟩
    have hcolon : ":".toList = [':'] := rfl
    simp only [text, String.toList_append, Nat.toString_eq_repr, Nat.toList_repr, hcolon,
      List.append_assoc, List.cons_append, List.nil_append]
  | v6 ip scope port =>
    refine ofText?_eq_some_iff.mpr ⟨port, _, _, .v6 ip.spells_text (writesScope_text scope),
      writesUpTo_port port, ?_⟩
    have hopen : "[".toList = ['['] := rfl
    have hclose : "]:".toList = [']', ':'] := rfl
    simp only [text, String.toList_append, Nat.toString_eq_repr, Nat.toList_repr, hopen, hclose,
      List.append_assoc, List.cons_append, List.nil_append]

/-- What is read as version 6 is no host without brackets. -/
theorem not_hostNames {ip : Ipv6} (h : ip.Spells cs) (port : UInt16) (a : SocketAddress) :
    ¬ HostNames port cs a := by
  intro hhost
  have hread : ipv6? cs = some (ip, []) := by
    simpa using ipv6?_append h .nil
  cases hhost with
  | v4 v4 =>
    have hfew : v4.groups.length ≤ 8 := Nat.le_of_ble_eq_true rfl
    have hgroups := groups_append (.only_v4 v4) hfew .nil
    rw [List.append_nil] at hgroups
    rw [ipv6?, hgroups] at hread
    cases hread
  | v6 =>
    have hends := EndsGroups.cons (by decide) (by decide) (by decide : '[' ≠ ':')
    rw [ipv6?, groups_of_endsGroups true 8 (hends _)] at hread
    cases hread

end SocketAddress

end SensorGateway
