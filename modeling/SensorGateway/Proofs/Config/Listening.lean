/-
# SensorGateway.Proofs.Config.Listening -- which hosts can be listened on

Host and port are joined with a colon and read as one text. The last colon of that text is the one
between them, since the digits of a port have none, so what is read is what the host alone names
(`Http.address?_eq_ok_iff`). A version 6 address is a host in brackets only, and no text of it is
one without (`Http.address?_of_spells`). So the hosts are not the IP addresses: that they are is
true just of the hosts that have no address of version 6 in them (`Http.takesIpAddresses_iff`).
-/
import SensorGateway.Proofs.Address.Socket
import SensorGateway.Startup

namespace SensorGateway.Config

open SocketAddress (HostNames)

namespace Http

variable {h : Http} {a : SocketAddress}

theorem address?_eq_ok_iff_ofText? :
    h.address? = .ok a ↔
      SocketAddress.ofText? (h.host ++ ":" ++ toString h.port.toNat) = some a := by
  unfold address?
  split
  · next a' hread => rw [hread, Except.ok.injEq, Option.some.injEq]
  · next hread => rw [hread]; exact iff_of_false nofun nofun

/-- **The address of the settings is what the host names, at their port.** -/
theorem address?_eq_ok_iff : h.address? = .ok a ↔ HostNames h.port h.host.toList a := by
  have htext : (h.host ++ ":" ++ toString h.port.toNat).toList =
      h.host.toList ++ ':' :: Nat.toDigits 10 h.port.toNat := by
    simp only [String.toList_append, Nat.toString_eq_repr, Nat.toList_repr, List.append_assoc]
    rfl
  rw [address?_eq_ok_iff_ofText?, SocketAddress.ofText?_eq_some_iff, htext]
  constructor
  · rintro ⟨port, host, ds, hhost, hds, heq⟩
    have hcolon {ds : List Char} (hds : ∀ c ∈ ds, c.isDigit = true) : ':' ∉ ds :=
      Text.notMem_of_digits (by decide) hds
    obtain ⟨rfl, rfl⟩ := General.eq_of_append_cons_eq heq (hcolon Text.isDigit_toDigits)
      (hcolon hds.digits)
    have hport : port.toNat = h.port.toNat := by
      rw [← hds.value, Text.decimalValue_toDigits]
    rwa [← UInt16.toNat_inj.mp hport]
  · intro hhost
    exact ⟨h.port, _, _, hhost, SocketAddress.writesUpTo_port h.port, rfl⟩

/-- Any other host is refused. -/
theorem address?_eq_error_iff :
    h.address? = .error .badAddress ↔ ∀ a, ¬ HostNames h.port h.host.toList a := by
  constructor
  · intro herror a hhost
    rw [address?_eq_ok_iff.mpr hhost] at herror
    cases herror
  · intro hnone
    cases hread : h.address? with
    | ok a => exact absurd (address?_eq_ok_iff.mp hread) (hnone a)
    | error e => cases e; rfl

/-- A version 6 address without brackets is refused, however it is spelled. -/
theorem address?_of_spells {ip : Ipv6} (hspells : ip.Spells h.host.toList) :
    h.address? = .error .badAddress :=
  address?_eq_error_iff.mpr (SocketAddress.not_hostNames hspells h.port)

/-- A version 6 address in brackets is listened on, however it is spelled. -/
theorem address?_of_brackets {ip : Ipv6} {cs : List Char} (hspells : ip.Spells cs)
    (hhost : h.host.toList = '[' :: (cs ++ [']'])) : h.address? = .ok (.v6 ip 0 h.port) := by
  rw [address?_eq_ok_iff, hhost]
  exact .v6 hspells .none

end Http

/-! ## Hosts that are IP addresses -/

/-- An IP address of either version. -/
inductive IpAddress where
  | v4 (ip : Ipv4)
  | v6 (ip : Ipv6)
deriving DecidableEq, Repr

namespace IpAddress

/-- The text of an address. -/
def text : IpAddress → String
  | .v4 ip => ip.text
  | .v6 ip => ip.text

/-- The texts that are read as an address. -/
def Spells : IpAddress → List Char → Prop
  | .v4 ip, cs => cs = ip.text.toList
  | .v6 ip, cs => ip.Spells cs

/-- An address at a port. -/
def atPort (port : UInt16) : IpAddress → SocketAddress
  | .v4 ip => .v4 ip port
  | .v6 ip => .v6 ip 0 port

end IpAddress

namespace Http

/-- A host is accepted when it is the text of an IP address, and only when it is an IP address. -/
structure TakesIpAddresses (h : Http) : Prop where
  accepts (ip : IpAddress) : h.host = ip.text → h.address? = .ok (ip.atPort h.port)
  refuses : (∀ ip : IpAddress, ¬ ip.Spells h.host.toList) → h.address? = .error .badAddress

variable {h : Http}

/-- IP addresses are what is accepted, save for version 6. -/
theorem takesIpAddresses_iff :
    h.TakesIpAddresses ↔ (∀ ip : Ipv6, h.host ≠ ip.text) ∧
      ∀ (ip : Ipv6) (scope : UInt32), ¬ HostNames h.port h.host.toList (.v6 ip scope h.port) := by
  constructor
  · intro htakes
    refine ⟨fun ip hhost => ?_, fun ip scope hhost => ?_⟩
    · have hspells : ip.Spells h.host.toList := hhost ▸ ip.spells_text
      have hok := htakes.accepts (.v6 ip) hhost
      rw [address?_of_spells hspells] at hok
      cases hok
    · have hok := address?_eq_ok_iff.mpr hhost
      have herror := htakes.refuses fun ip' hspells => ?_
      · rw [hok] at herror
        cases herror
      · cases ip' with
        | v4 ip' =>
          -- the host would name two addresses
          have htext : h.host.toList = ip'.text.toList := hspells
          have hv4 : HostNames h.port h.host.toList (.v4 ip' h.port) := by
            rw [htext]
            exact .v4 ip'
          rw [address?_eq_ok_iff.mpr hv4] at hok
          cases hok
        | v6 ip' => exact SocketAddress.not_hostNames hspells h.port _ hhost
  · rintro ⟨htext, hbrackets⟩
    refine ⟨fun ip hhost => ?_, fun hnone => ?_⟩
    · cases ip with
      | v4 ip =>
        rw [address?_eq_ok_iff, hhost]
        exact .v4 ip
      | v6 ip => exact absurd hhost (htext ip)
    · refine address?_eq_error_iff.mpr fun a hhost => ?_
      obtain ⟨cs, hcs⟩ : ∃ cs, h.host.toList = cs := ⟨_, rfl⟩
      rw [hcs] at hhost hnone hbrackets
      cases hhost with
      | v4 ip => exact hnone (.v4 ip) rfl
      | @v6 ip scope pre zone hpre hzone => exact hbrackets ip scope (.v6 hpre hzone)

/-- **What is listened on.** A host is accepted for being an IP address and refused for being none,
unless it has an address of version 6 in it: the text of such an address is refused, and its
spellings in brackets, with a scope or without, are accepted although they are no IP addresses.
What is listened on is the address that the host names, at the port of the settings. Any other host
is refused, and a gateway starts with the address or not at all. -/
theorem hosts_listened_on (c : Config) (clock : Clock) :
    (c.http.TakesIpAddresses ↔ (∀ ip : Ipv6, c.http.host ≠ ip.text) ∧
      ∀ (ip : Ipv6) (scope : UInt32),
        ¬ HostNames c.http.port c.http.host.toList (.v6 ip scope c.http.port)) ∧
    (∀ a, c.http.address? = .ok a ↔ HostNames c.http.port c.http.host.toList a) ∧
    (c.http.address? = .error .badAddress ↔
      ∀ a, ¬ HostNames c.http.port c.http.host.toList a) ∧
    (Startup.start c clock).map Startup.Started.address =
      c.http.address?.mapError Startup.Failure.bind ∧
    (∀ (ip : Ipv4) (port : UInt16), (Http.mk ip.text port).address? = .ok (.v4 ip port)) ∧
    ∀ (ip : Ipv6) (port : UInt16),
      (Http.mk ip.text port).address? = .error .badAddress ∧
        (Http.mk ("[" ++ ip.text ++ "]") port).address? = .ok (.v6 ip 0 port) := by
  refine ⟨takesIpAddresses_iff, fun a => address?_eq_ok_iff, address?_eq_error_iff, ?_,
    fun ip port => address?_eq_ok_iff.mpr (.v4 ip), fun ip port =>
    ⟨address?_of_spells ip.spells_text, address?_of_brackets ip.spells_text ?_⟩⟩
  · unfold Startup.start
    dsimp only
    cases c.http.address? <;> rfl
  · simp only [String.toList_append, List.append_assoc]
    rfl

/-- The loopback address of version 6. -/
def loopback : Ipv6 := ⟨#v[0, 0, 0, 0, 0, 0, 0, 1]⟩

/-- The loopback address is refused as it is printed, and accepted with brackets around it, which
is the text of no address. -/
theorem loopback_needs_brackets :
    loopback.text = "::1" ∧
      (Http.mk "::1" 8000).address? = .error .badAddress ∧
      (Http.mk "[::1]" 8000).address? = .ok (.v6 loopback 0 8000) ∧
      ¬ (Http.mk "::1" 8000).TakesIpAddresses ∧ ¬ (Http.mk "[::1]" 8000).TakesIpAddresses := by
  have htext : loopback.text = "::1" := by decide
  have hbrackets : (Http.mk "[::1]" 8000).address? = .ok (.v6 loopback 0 8000) := rfl
  refine ⟨htext, rfl, hbrackets, fun htakes => ?_, fun htakes => ?_⟩
  · obtain ⟨hbare, -⟩ := takesIpAddresses_iff.mp htakes
    exact hbare loopback (by rw [htext])
  · obtain ⟨-, hnone⟩ := takesIpAddresses_iff.mp htakes
    exact hnone loopback 0 (address?_eq_ok_iff.mp hbrackets)

end Http

end SensorGateway.Config
