/-
# SensorGateway.Proofs.Config.Identity -- what servers and sensors are known as

A server is known by the id that it is given, without the blank characters at its ends, and by the
eight digits of its URL's hash where no id is given or nothing of it is left
(`Server.isKnownAs_iff`). It is shown under its name as it is given, blanks and all, or else under
its URL (`Server.isShownAs_iff`). A sensor without an id has the hash of its name for a number,
which is never negative (`Sensor.number_eq_iff`).

Digits that are derived belong to one hash (`Murmur.digits_injective`). That a given id is not, by
chance, what another server's URL comes to is checked with the settings.
-/
import SensorGateway.Config
import SensorGateway.Proofs.Text.Hex
import SensorGateway.Proofs.Text.Trimming

namespace SensorGateway

/-! ## Derived ids -/

namespace Murmur

theorem writes_digits (h : UInt32) : Text.Hex.Writes 8 h.toNat (digits h).toList := by
  rw [digits, String.toList_ofList]
  exact Text.Hex.writes_encode h.toNat_lt

theorem digits_injective : Function.Injective digits := by
  intro g h heq
  apply UInt32.toNat_inj.mp
  exact (writes_digits g).eq (heq ▸ writes_digits h)

end Murmur

namespace Config

/-- A text of the settings counts when it is there and not blank. -/
theorem present?_eq_some_iff {o : Option String} {own : String} :
    present? o = some own ↔ o = some own ∧ ∃ c ∈ own.toList, Text.isBlank c = false := by
  rw [present?, Option.filter_eq_some_iff, Bool.not_eq_true', Text.isBlankText_eq_false_iff]

theorem present?_eq_none_iff {o : Option String} :
    present? o = none ↔ ∀ own, o = some own → ∀ c ∈ own.toList, Text.isBlank c = true := by
  rw [Option.eq_none_iff_forall_ne_some]
  simp [present?_eq_some_iff]

namespace Server

variable {s : Server}

/-! ## The ids of servers -/

section Ids

variable {id own : String}

theorem serverId_of_present (h : present? s.id = some own) : s.serverId = Text.trim own := by
  rw [serverId, h]

theorem serverId_of_absent (h : present? s.id = none) :
    s.serverId = Murmur.digits (Murmur.ofText s.url) := by
  rw [serverId, h]

/-- What a server is known as. -/
inductive IsKnownAs (s : Server) : ServerId → Prop
  /-- The id that it is given, without the blanks at its ends. -/
  | given {own id : String} (id_eq : s.id = some own)
      (trims : Text.Trims own.toList id.toList) (ne_empty : id ≠ "") : IsKnownAs s id
  /-- The digits of its URL's hash, if it is given no id or a blank one. -/
  | derived (blank : ∀ own, s.id = some own → ∀ c ∈ own.toList, Text.isBlank c = true) :
      IsKnownAs s (Murmur.digits (Murmur.ofText s.url))

/-- **A server has the id that it is known as.** -/
theorem isKnownAs_iff : s.IsKnownAs id ↔ s.serverId = id := by
  constructor
  · intro h
    cases h with
    | @given own _ hid htrims hne =>
      have htrim : Text.trim own = id := by
        rw [Text.trim, Text.trimChars_eq_iff.mpr htrims, String.ofList_toList]
      have hpresent : ∃ c ∈ own.toList, Text.isBlank c = false :=
        Text.trim_ne_empty_iff.mp (htrim ▸ hne)
      rw [serverId_of_present (present?_eq_some_iff.mpr ⟨hid, hpresent⟩), htrim]
    | derived hblank => exact serverId_of_absent (present?_eq_none_iff.mpr hblank)
  · rintro rfl
    cases hown : present? s.id with
    | some own =>
      obtain ⟨hid, hpresent⟩ := present?_eq_some_iff.mp hown
      rw [serverId_of_present hown]
      refine .given hid ?_ (Text.trim_ne_empty_iff.mpr hpresent)
      rw [Text.trim, String.toList_ofList]
      exact Text.trims_trimChars own.toList
    | none =>
      rw [serverId_of_absent hown]
      exact .derived (present?_eq_none_iff.mp hown)

/-- Blanks inside an id stay. -/
example : (Server.mk (some " plant 1\t") "http://plc" none []).IsKnownAs "plant 1" :=
  isKnownAs_iff.mpr (by decide)

end Ids

/-! ## The names of servers -/

/-- What a server is shown as. Unlike an id, a name keeps the blanks at its ends. -/
inductive IsShownAs (s : Server) : String → Prop
  | given {own : String} (name_eq : s.name = some own)
      (present : ∃ c ∈ own.toList, Text.isBlank c = false) : IsShownAs s own
  /-- Its URL, if it is given no name or a blank one. -/
  | url (blank : ∀ own, s.name = some own → ∀ c ∈ own.toList, Text.isBlank c = true) :
      IsShownAs s s.url

/-- **A server has the name that it is shown as.** -/
theorem isShownAs_iff {name : String} : s.IsShownAs name ↔ s.displayName = name := by
  unfold displayName
  constructor
  · intro h
    cases h with
    | given hname hpresent =>
      rw [present?_eq_some_iff.mpr ⟨hname, hpresent⟩, Option.getD_some]
    | url hblank => rw [present?_eq_none_iff.mpr hblank, Option.getD_none]
  · rintro rfl
    cases hown : present? s.name with
    | some own =>
      obtain ⟨hname, hpresent⟩ := present?_eq_some_iff.mp hown
      exact .given hname hpresent
    | none => exact .url (present?_eq_none_iff.mp hown)

end Server

/-! ## The numbers of sensors -/

/-- A number that is derived is a hash, without a sign. -/
theorem Sensor.toInt_number_of_none {s : Sensor} (h : s.id = none) :
    s.number.toInt = (Murmur.ofText s.name).toNat := by
  have hsmall : 2 * (Murmur.ofText s.name).toUInt64.toBitVec.toNat < 2 ^ 64 := by
    have hlt := (Murmur.ofText s.name).toNat_lt
    rw [UInt64.toNat_toBitVec, UInt32.toNat_toUInt64]
    omega
  rw [number, h]
  show (Murmur.ofText s.name).toUInt64.toBitVec.toInt = _
  rw [BitVec.toInt_eq_toNat_of_lt hsmall, UInt64.toNat_toBitVec, UInt32.toNat_toUInt64]

/-- **A sensor has the number that it is given, or else the hash of its name.** -/
theorem Sensor.number_eq_iff {s : Sensor} {n : Int64} :
    s.number = n ↔
      s.id = some n ∨ s.id = none ∧ n.toInt = (Murmur.ofText s.name).toNat := by
  cases hid : s.id with
  | some own =>
    have hown : s.number = own := by rw [number, hid]
    simp [hown]
  | none =>
    have hnumber := toInt_number_of_none hid
    rw [← hnumber, Int64.toInt_inj]
    simp [eq_comm]

end Config

end SensorGateway
