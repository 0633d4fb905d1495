/-
# SensorGateway.Proofs.Address.Reading -- what is read as an address

The reader of addresses takes one part after the other and looks at what follows, so for each
part there is a lemma in both directions: what it takes from the front of a text, and that it takes
that from every text that goes on differently.

A version 4 address has one spelling, its own text (`SocketAddress.ipv4?_text`,
`SocketAddress.eq_text_of_ipv4?`). A version 6 address has many. They are given by a grammar
(`Ipv6.Spells`), which the reader follows (`SocketAddress.ipv6?_append`,
`SocketAddress.exists_spells_of_ipv6?`).
-/
import SensorGateway.Address
import SensorGateway.Proofs.Text.Digits

namespace SensorGateway

open Text (EndsDigits)

variable {cs ds rest : List Char}

/-! ## Version 4 -/

theorem Ipv4.toList_text (ip : Ipv4) :
    ip.text.toList = Nat.toDigits 10 ip.a.toNat ++ '.' :: (Nat.toDigits 10 ip.b.toNat ++ '.' ::
      (Nat.toDigits 10 ip.c.toNat ++ '.' :: Nat.toDigits 10 ip.d.toNat)) := by
  have hpoint : ".".toList = ['.'] := rfl
  simp only [text, String.toList_append, Nat.toString_eq_repr, Nat.toList_repr, hpoint,
    List.append_assoc, List.cons_append, List.nil_append]

namespace SocketAddress

theorem mark?_eq_some_iff {c : Char} : mark? c cs = some rest ↔ cs = c :: rest := by
  cases cs with
  | nil => exact iff_of_false nofun nofun
  | cons d cs => simp [mark?]

/-- A part of a version 4 address is read from its digits. -/
theorem octet?_digits (b : UInt8) (hrest : EndsDigits rest) :
    octet? (Nat.toDigits 10 b.toNat ++ rest) = some (b, rest) := by
  have hlt : b.toNat < 256 := b.toNat_lt
  have hlength : (Nat.toDigits 10 b.toNat).length ≤ 3 :=
    (Nat.length_toDigits_le_iff (by decide) (by decide)).mpr (by omega)
  have hzero : ¬ ((Nat.toDigits 10 b.toNat).head? = some '0' ∧
      1 < (Nat.toDigits 10 b.toNat).length) := by
    rintro ⟨hhead, hlong⟩
    obtain ⟨cs, hcs⟩ := List.head?_eq_some_iff.mp hhead
    rw [hcs, Text.eq_nil_of_toDigits_eq hcs] at hlong
    exact absurd hlong (by decide)
  unfold octet?
  dsimp only
  rw [Text.takeWhile_digits Text.isDigit_toDigits hrest,
    Text.dropWhile_digits Text.isDigit_toDigits hrest, Text.decimalValue_toDigits, if_neg]
  · rw [UInt8.ofNat_toNat]
  · rintro (h | h | h | h)
    · exact Nat.toDigits_ne_nil h
    · omega
    · exact hzero h
    · omega

/-- What is read as a part of a version 4 address are its digits. -/
theorem eq_digits_of_octet? {b : UInt8} (h : octet? cs = some (b, rest)) :
    cs = Nat.toDigits 10 b.toNat ++ rest ∧ EndsDigits rest := by
  unfold octet? at h
  dsimp only at h
  split at h
  · cases h
  · next hgood =>
    simp only [not_or, not_and, Nat.not_lt] at hgood
    obtain ⟨hne, -, hzero, hhigh⟩ := hgood
    obtain ⟨hb, rfl⟩ := Prod.mk.inj (Option.some.inj h)
    obtain ⟨c, ds, hds⟩ := List.exists_cons_of_ne_nil hne
    have hdigits : ∀ d ∈ c :: ds, d.isDigit = true := fun d hd =>
      List.all_eq_true.mp List.all_takeWhile d (hds ▸ hd)
    have hcanonical : Nat.toDigits 10 b.toNat = c :: ds := by
      rw [← hb, UInt8.toNat_ofNat_of_lt' (Nat.lt_succ_of_le hhigh), hds]
      refine Text.toDigits_decimalValue hdigits fun hc => ?_
      have hone := hzero (by rw [hds, hc]; rfl)
      rw [hds, List.length_cons] at hone
      exact List.eq_nil_of_length_eq_zero (by omega)
    refine ⟨?_, Text.endsDigits_dropWhile cs⟩
    rw [hcanonical, ← hds, List.takeWhile_append_dropWhile]

/-- A version 4 address is read from its text. -/
theorem ipv4?_text (ip : Ipv4) (hrest : EndsDigits rest) :
    ipv4? (ip.text.toList ++ rest) = some (ip, rest) := by
  have hpoint (cs : List Char) : EndsDigits ('.' :: cs) := .cons (by decide) cs
  have hmark (cs : List Char) : mark? '.' ('.' :: cs) = some cs := mark?_eq_some_iff.mpr rfl
  rw [ip.toList_text]
  simp only [List.append_assoc, List.cons_append, ipv4?, Option.bind_eq_bind,
    octet?_digits _ (hpoint _), hmark, octet?_digits _ hrest, Option.bind_some]
  rfl

/-- What is read as a version 4 address is its text. -/
theorem eq_text_of_ipv4? {ip : Ipv4} (h : ipv4? cs = some (ip, rest)) :
    cs = ip.text.toList ++ rest ∧ EndsDigits rest := by
  simp only [ipv4?, Option.bind_eq_bind, Option.bind_eq_some_iff, mark?_eq_some_iff] at h
  obtain ⟨⟨a, _⟩, ha, _, rfl, ⟨b, _⟩, hb, _, rfl, ⟨c, _⟩, hc, _, rfl, ⟨d, _⟩, hd, hip⟩ := h
  obtain ⟨rfl, rfl⟩ := Prod.mk.inj (Option.some.inj hip)
  obtain ⟨rfl, -⟩ := eq_digits_of_octet? ha
  obtain ⟨rfl, -⟩ := eq_digits_of_octet? hb
  obtain ⟨rfl, -⟩ := eq_digits_of_octet? hc
  obtain ⟨rfl, hrest⟩ := eq_digits_of_octet? hd
  refine ⟨?_, hrest⟩
  rw [Ipv4.toList_text]
  simp only [List.append_assoc, List.cons_append]

end SocketAddress

/-! ## Groups -/

/-- A text does not go on with a hexadecimal digit. -/
def EndsHex (cs : List Char) : Prop :=
  ∀ c rest, cs = c :: rest → (Text.Hex.digit? c).isSome = false

theorem EndsHex.nil : EndsHex [] := nofun

theorem EndsHex.cons {c : Char} (h : (Text.Hex.digit? c).isSome = false) (rest : List Char) :
    EndsHex (c :: rest) := by
  rintro _ _ ⟨⟩
  exact h

theorem isSome_digit?_of_isDigit {c : Char} (h : c.isDigit = true) :
    (Text.Hex.digit? c).isSome = true := by
  have hdecimal : '0' ≤ c ∧ c ≤ '9' := Char.isDigit_iff_toNat.mp h
  unfold Text.Hex.digit?
  rw [if_pos hdecimal]
  rfl

theorem EndsHex.endsDigits (h : EndsHex cs) : EndsDigits cs := by
  intro c rest hcs
  cases hc : c.isDigit with
  | false => rfl
  | true => exact absurd (isSome_digit?_of_isDigit hc) (by rw [h c rest hcs]; decide)

/-- A group of a version 6 address as digits: at most four of them. -/
structure WritesGroup (g : UInt16) (ds : List Char) : Prop where
  ne_nil : ds ≠ []
  length : ds.length ≤ 4
  hex : ∀ c ∈ ds, (Text.Hex.digit? c).isSome = true
  value : (Text.Hex.decode? ds).map UInt16.ofNat = some g

namespace SocketAddress

/-- A group is read from its digits. -/
theorem group?_append {g : UInt16} (h : WritesGroup g ds) (hrest : EndsHex rest) :
    group? (ds ++ rest) = some (g, rest) := by
  obtain ⟨n, hn, rfl⟩ := Option.map_eq_some_iff.mp h.value
  have hgood : ¬ (ds = [] ∨ 4 < ds.length) := by
    rintro (hnil | hlong)
    · exact h.ne_nil hnil
    · exact absurd h.length (Nat.not_le_of_lt hlong)
  unfold group?
  dsimp only
  rw [General.takeWhile_run h.hex hrest, General.dropWhile_run h.hex hrest, if_neg hgood, hn,
    Option.map_some]

/-- What is read as a group are its digits. -/
theorem exists_writesGroup_of_group? {g : UInt16} (h : group? cs = some (g, rest)) :
    ∃ ds, WritesGroup g ds ∧ cs = ds ++ rest ∧ EndsHex rest := by
  unfold group? at h
  dsimp only at h
  split at h
  · cases h
  · next hgood =>
    rw [not_or] at hgood
    obtain ⟨n, hn, heq⟩ := Option.map_eq_some_iff.mp h
    obtain ⟨rfl, rfl⟩ := Prod.mk.inj heq
    refine ⟨_, ⟨hgood.1, Nat.le_of_not_lt hgood.2, List.all_eq_true.mp List.all_takeWhile, ?_⟩,
      List.takeWhile_append_dropWhile.symm, ?_⟩
    · rw [hn, Option.map_some]
    · intro c rest hrest
      have hstop := General.eq_false_of_dropWhile hrest
      exact hstop

theorem group?_eq_none (h : EndsHex cs) : group? cs = none := by
  cases hread : group? cs with
  | none => rfl
  | some r =>
    -- a group has a digit, and there is none
    obtain ⟨ds, hds, rfl, -⟩ := exists_writesGroup_of_group? hread
    obtain ⟨c, ds', hcons⟩ := List.exists_cons_of_ne_nil hds.ne_nil
    have hc := hds.hex c (hcons ▸ List.mem_cons_self)
    rw [h c (ds' ++ r.2) (by rw [hcons, List.cons_append])] at hc
    exact absurd hc (by decide)

/-- A version 4 address begins with a digit. -/
theorem ipv4?_eq_none_of_endsDigits (h : EndsDigits cs) : ipv4? cs = none := by
  cases hread : ipv4? cs with
  | none => rfl
  | some r =>
    obtain ⟨htext, -⟩ := eq_text_of_ipv4? hread
    obtain ⟨c, ds, hcons⟩ := List.exists_cons_of_ne_nil
      (Nat.toDigits_ne_nil : Nat.toDigits 10 r.1.a.toNat ≠ [])
    have hdigit : c.isDigit = true := Text.isDigit_toDigits c (hcons ▸ List.mem_cons_self)
    rw [Ipv4.toList_text, hcons] at htext
    exact absurd hdigit (by rw [h _ _ htext]; decide)

/-- Hexadecimal digits without a point behind them are no version 4 address. -/
theorem ipv4?_eq_none (hds : ∀ c ∈ ds, (Text.Hex.digit? c).isSome = true) (hrest : EndsHex rest)
    (hpoint : ∀ cs, rest ≠ '.' :: cs) : ipv4? (ds ++ rest) = none := by
  cases hread : ipv4? (ds ++ rest) with
  | none => rfl
  | some r =>
    obtain ⟨htext, -⟩ := eq_text_of_ipv4? hread
    rw [Ipv4.toList_text, List.append_assoc, List.cons_append] at htext
    -- both sides are digits up to the point
    have hbehind := congrArg (List.dropWhile fun c => (Text.Hex.digit? c).isSome) htext
    have hdigits : ∀ c ∈ Nat.toDigits 10 r.1.a.toNat, (Text.Hex.digit? c).isSome = true :=
      fun c hc => isSome_digit?_of_isDigit (Text.isDigit_toDigits c hc)
    rw [General.dropWhile_run hds hrest, General.dropWhile_run hdigits (EndsHex.cons (by decide) _)]
      at hbehind
    exact absurd hbehind (hpoint _)

end SocketAddress

/-! ## Lists of groups -/

/-- What stands in front of a group. -/
def colon (first : Bool) : List Char := if first then [] else [':']

/-- The two groups that a version 4 address stands for. -/
def Ipv4.groups (ip : Ipv4) : List UInt16 :=
  [ip.a.toUInt16 <<< 8 ||| ip.b.toUInt16, ip.c.toUInt16 <<< 8 ||| ip.d.toUInt16]

/-- Groups as text, with a colon in front of each, save for the first. A version 4 address may end
the list, and `ended` says that it does. -/
inductive WritesGroups : (first : Bool) → List UInt16 → (ended : Bool) → List Char → Prop
  | nil (first : Bool) : WritesGroups first [] false []
  | v4 (first : Bool) (ip : Ipv4) :
    WritesGroups first ip.groups true (colon first ++ ip.text.toList)
  | cons {first ended : Bool} {g : UInt16} {gs : List UInt16} {ds cs : List Char} :
    WritesGroup g ds → WritesGroups false gs ended cs →
      WritesGroups first (g :: gs) ended (colon first ++ (ds ++ cs))

/-- A version 4 address may be all there is. -/
theorem WritesGroups.only_v4 (ip : Ipv4) : WritesGroups true ip.groups true ip.text.toList := by
  have hgroups := WritesGroups.v4 true ip
  rwa [colon, if_pos rfl, List.nil_append] at hgroups

/-- Groups may stand behind others, with a colon in front. -/
theorem WritesGroups.behind_colon {gs : List UInt16} {ended : Bool}
    (h : WritesGroups true gs ended cs) (hne : gs ≠ []) : WritesGroups false gs ended (':' :: cs) := by
  cases h with
  | nil => exact absurd rfl hne
  | v4 _ ip => exact .v4 false ip
  | cons hds hgs => exact .cons hds hgs

/-- A text does not go on with a part of a group, nor with a colon and a group. -/
structure EndsGroups (cs : List Char) : Prop where
  hex : EndsHex cs
  point : ∀ rest, cs ≠ '.' :: rest
  colon : ∀ rest, cs = ':' :: rest → EndsHex rest

theorem EndsGroups.nil : EndsGroups [] := ⟨.nil, nofun, nofun⟩

theorem EndsGroups.cons {c : Char} (hhex : (Text.Hex.digit? c).isSome = false) (hpoint : c ≠ '.')
    (hcolon : c ≠ ':') (rest : List Char) : EndsGroups (c :: rest) where
  hex := .cons hhex rest
  point _ h := hpoint (List.cons.inj h).1
  colon _ h := absurd (List.cons.inj h).1 hcolon

theorem EndsGroups.doubleColon (rest : List Char) : EndsGroups (':' :: ':' :: rest) where
  hex := .cons (by decide) _
  point _ h := absurd (List.cons.inj h).1 (by decide)
  colon _ h := (List.cons.inj h).2 ▸ .cons (by decide) rest

/-- Behind groups stands a colon or what stands behind the list. -/
theorem WritesGroups.ends {ended : Bool} {gs : List UInt16} (h : WritesGroups false gs ended cs)
    (hrest : EndsGroups rest) : EndsHex (cs ++ rest) ∧ ∀ more, cs ++ rest ≠ '.' :: more := by
  have hcolon (cs : List Char) : EndsHex (colon false ++ cs ++ rest) ∧
      ∀ more, colon false ++ cs ++ rest ≠ '.' :: more :=
    ⟨.cons (by decide) _, fun more h => absurd (List.cons.inj h).1 (by decide)⟩
  cases h with
  | nil => exact ⟨hrest.hex, hrest.point⟩
  | v4 => exact hcolon _
  | cons => exact hcolon _

namespace SocketAddress

variable {first ended : Bool} {gs : List UInt16} {limit : Nat}

/-- One step of the reader, behind the colon. -/
theorem groups_succ (first : Bool) (limit : Nat) (inner : List Char) :
    groups first (limit + 1) (colon first ++ inner) =
      match if 1 ≤ limit then ipv4? inner else none with
      | some (ip, rest) => (ip.groups, true, rest)
      | none =>
        match group? inner with
        | none => ([], false, colon first ++ inner)
        | some (g, rest) =>
          (g :: (groups false limit rest).1, (groups false limit rest).2) := by
  cases first <;> rfl

/-- Where no group follows, the list is empty. -/
theorem groups_of_endsGroups (first : Bool) (limit : Nat) (h : EndsGroups cs) :
    groups first limit cs = ([], false, cs) := by
  cases limit with
  | zero => rfl
  | succ limit =>
    have hstep {inner : List Char} (hinner : EndsHex inner) (hcs : cs = colon first ++ inner) :
        groups first (limit + 1) cs = ([], false, cs) := by
      rw [hcs, groups_succ, ipv4?_eq_none_of_endsDigits hinner.endsDigits, ite_self,
        group?_eq_none hinner]
    cases first with
    | true => exact hstep h.hex rfl
    | false =>
      cases hmark : mark? ':' cs with
      | none => simp only [groups, hmark, Bool.false_eq_true, if_false]
      | some inner =>
        have hcs := mark?_eq_some_iff.mp hmark
        exact hstep (h.colon inner hcs) hcs

/-- A list of groups is read from its text. -/
theorem groups_append (h : WritesGroups first gs ended cs) (hlimit : gs.length ≤ limit)
    (hrest : EndsGroups rest) : groups first limit (cs ++ rest) = (gs, ended, rest) := by
  induction h generalizing limit with
  | nil first => exact groups_of_endsGroups first limit hrest
  | v4 first ip =>
    obtain ⟨limit, rfl⟩ := Nat.exists_eq_add_of_le hlimit
    have hpositive : 1 ≤ 1 + limit := Nat.le_add_right 1 limit
    have hlength : ip.groups.length + limit = (1 + limit) + 1 := by
      show 2 + limit = _
      omega
    rw [hlength, List.append_assoc, groups_succ, if_pos hpositive,
      ipv4?_text ip hrest.hex.endsDigits]
  | cons hds hgs ih =>
    obtain ⟨limit, rfl⟩ := Nat.exists_eq_succ_of_ne_zero (Nat.ne_of_gt (Nat.zero_lt_of_lt hlimit))
    obtain ⟨hends, hpoint⟩ := hgs.ends hrest
    rw [List.append_assoc, List.append_assoc, groups_succ, ipv4?_eq_none hds.hex hends hpoint,
      ite_self, group?_append hds hends]
    dsimp only
    rw [ih (Nat.le_of_succ_le_succ hlimit)]

/-- What is read as a list of groups is its text. -/
theorem exists_writesGroups_of_groups (h : groups first limit cs = (gs, ended, rest)) :
    ∃ pre, cs = pre ++ rest ∧ WritesGroups first gs ended pre ∧ gs.length ≤ limit := by
  induction limit generalizing first cs gs with
  | zero =>
    obtain ⟨rfl, rfl, rfl⟩ : [] = gs ∧ false = ended ∧ cs = rest := by
      simpa [groups] using h
    exact ⟨[], rfl, .nil first, Nat.le_refl 0⟩
  | succ limit ih =>
    have hempty (h : ([], false, cs) = (gs, ended, rest)) :
        ∃ pre, cs = pre ++ rest ∧ WritesGroups first gs ended pre ∧ gs.length ≤ limit + 1 := by
      obtain ⟨rfl, rfl, rfl⟩ : [] = gs ∧ false = ended ∧ cs = rest := by simpa using h
      exact ⟨[], rfl, .nil first, Nat.zero_le _⟩
    have hstep {inner : List Char} (hcs : cs = colon first ++ inner) :
        ∃ pre, cs = pre ++ rest ∧ WritesGroups first gs ended pre ∧ gs.length ≤ limit + 1 := by
      rw [hcs, groups_succ] at h
      split at h
      · next ip rest' hread =>
        obtain ⟨hlimit, hread⟩ := Option.ite_none_right_eq_some.mp hread
        obtain ⟨rfl, rfl, rfl⟩ : ip.groups = gs ∧ true = ended ∧ rest' = rest := by simpa using h
        obtain ⟨rfl, -⟩ := eq_text_of_ipv4? hread
        exact ⟨colon first ++ ip.text.toList, by rw [hcs, List.append_assoc], .v4 first ip,
          Nat.succ_le_succ hlimit⟩
      · split at h
        · exact hempty (hcs ▸ h)
        · next g rest' hread =>
          obtain ⟨ds, hds, rfl, -⟩ := exists_writesGroup_of_group? hread
          obtain ⟨rfl, heq⟩ := Prod.mk.inj h
          obtain ⟨pre, rfl, hpre, hlength⟩ := ih (Prod.ext rfl heq)
          exact ⟨colon first ++ (ds ++ pre), by rw [hcs]; simp only [List.append_assoc],
            .cons hds hpre, Nat.succ_le_succ hlength⟩
    cases first with
    | true => exact hstep rfl
    | false =>
      cases hmark : mark? ':' cs with
      | none => exact hempty (by simpa [groups, hmark] using h)
      | some inner => exact hstep (mark?_eq_some_iff.mp hmark)

end SocketAddress

/-! ## Version 6 -/

/-- The spellings of a version 6 address: eight groups, or fewer with a double colon that stands
for all that are left out, one at least. A version 4 address may stand at the very end. -/
inductive Ipv6.Spells (ip : Ipv6) : List Char → Prop
  | full {ended : Bool} {cs : List Char} :
    WritesGroups true ip.groups.toList ended cs → ip.Spells cs
  | short {head tail : List UInt16} {ended : Bool} {pre post : List Char} :
    WritesGroups true head false pre → WritesGroups true tail ended post →
      head.length + tail.length ≤ 7 →
      ip.groups.toList =
        head ++ List.replicate (8 - head.length - tail.length) 0 ++ tail →
      ip.Spells (pre ++ ':' :: ':' :: post)

namespace SocketAddress

variable {ip : Ipv6}

theorem ofGroups?_eq_some_iff {gs : List UInt16} :
    ofGroups? gs = some ip ↔ ip.groups.toList = gs := by
  unfold ofGroups?
  split
  · next hlength =>
    rw [Option.some.injEq]
    constructor
    · rintro rfl
      rfl
    · rintro rfl
      rfl
  · next hlength =>
    refine iff_of_false nofun fun h => hlength ?_
    rw [← h]
    exact Vector.length_toList

/-- A version 6 address is read from each of its spellings. -/
theorem ipv6?_append (h : ip.Spells cs) (hrest : EndsGroups rest) :
    ipv6? (cs ++ rest) = some (ip, rest) := by
  have height : ip.groups.toList.length = 8 := Vector.length_toList
  cases h with
  | full hgroups =>
    unfold ipv6?
    rw [groups_append hgroups (Nat.le_of_eq height) hrest]
    dsimp only
    rw [if_pos height, ofGroups?_eq_some_iff.mpr rfl]
    rfl
  | @short head tail ended pre post hpre hpost hlength hgroups =>
    have hhead := groups_append hpre (by omega : head.length ≤ 8) (.doubleColon (post ++ rest))
    have htail := groups_append hpost (by omega : tail.length ≤ 7 - head.length) hrest
    have hfew : ¬ head.length = 8 := by omega
    unfold ipv6?
    rw [List.append_assoc, List.cons_append, List.cons_append, hhead]
    simp only [if_neg hfew, htail, ofGroups?_eq_some_iff.mpr hgroups, Option.map_some]
    rfl

/-- What is read as a version 6 address is a spelling of it. -/
theorem exists_spells_of_ipv6? (h : ipv6? cs = some (ip, rest)) :
    ∃ pre, cs = pre ++ rest ∧ ip.Spells pre := by
  unfold ipv6? at h
  obtain ⟨⟨head, ended, behind⟩, hhead⟩ : ∃ r, groups true 8 cs = r := ⟨_, rfl⟩
  obtain ⟨pre, rfl, hpre, hlength⟩ := exists_writesGroups_of_groups hhead
  rw [hhead] at h
  dsimp only at h
  split at h
  · obtain ⟨ip', hip, heq⟩ := Option.map_eq_some_iff.mp h
    obtain ⟨rfl, rfl⟩ := Prod.mk.inj heq
    exact ⟨pre, rfl, .full (ofGroups?_eq_some_iff.mp hip ▸ hpre)⟩
  · next hfew =>
    split at h
    · cases h
    · next hended =>
      obtain rfl : ended = false := Bool.eq_false_iff.mpr hended
      split at h
      · next behind =>
        obtain ⟨⟨tail, ended, behind'⟩, htail⟩ :
          ∃ r, groups true (7 - head.length) behind = r := ⟨_, rfl⟩
        obtain ⟨post, rfl, hpost, hlength'⟩ := exists_writesGroups_of_groups htail
        rw [htail] at h
        obtain ⟨ip', hip, heq⟩ := Option.map_eq_some_iff.mp h
        obtain ⟨rfl, rfl⟩ := Prod.mk.inj heq
        refine ⟨pre ++ ':' :: ':' :: post, by rw [List.append_assoc]; rfl, ?_⟩
        exact .short hpre hpost (by omega) (ofGroups?_eq_some_iff.mp hip)
      · cases h

end SocketAddress

end SensorGateway
