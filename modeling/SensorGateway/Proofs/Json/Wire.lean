/-
# SensorGateway.Proofs.Json.Wire -- types whose values come back from their text

A value comes back from its text when its JSON form has a text and the decoder gives the value for
that form (`Wire.Faithful`). For words, strings, lists and options this is so whenever it is so for
what is in them. A record comes back field by field: `Members` lists its fields with the
values that they were written from, those left out skipped, and `Members.ofReading` says that
the reader finds just these.
-/
import SensorGateway.Proofs.Json.Reading

namespace SensorGateway.Json

namespace Wire

variable {α : Type} [Wire α]

/-- The value comes back from its own text. -/
structure Faithful (a : α) : Prop where
  finite : (encode a).isFinite = true
  decode : Wire.decode (Reading.ofJson (encode a)) = .ok a

/-- The text of a value decodes to whatever its JSON form decodes to. -/
theorem ofText_text_eq {β : Type} [Wire β] {a : α} (h : (encode a).isFinite = true) :
    (ofText (text a) : Except DecodeError β) = decode (Reading.ofJson (encode a)) := by
  unfold ofText text Reading.decodeText
  rw [Reading.ofText_render h]
  exact bind_pure _

/-- **A faithful value is what its text decodes to.** -/
theorem ofText_text {a : α} (h : Faithful a) : ofText (text a) = .ok a := by
  rw [ofText_text_eq h.finite, h.decode]

/-! ## Words and strings -/

theorem faithful_bool (b : Bool) : Faithful b := ⟨rfl, rfl⟩

theorem faithful_string (s : String) : Faithful s := ⟨rfl, rfl⟩

theorem decodeInt_token {β : Type} {fits? : Int → Option β} {n : Int} {a : β} {t : Number}
    (h : t.value? = some (.int n)) (hfits : fits? n = some a) :
    decodeInt fits? (.number t) = .ok a := by
  simp only [decodeInt, h, hfits]

theorem value?_int64 (n : Int64) : (Reading.tokenOfInt n.toInt).value? = some (.int n.toInt) := by
  have hlow := n.le_toInt
  have hhigh := n.toInt_lt
  exact Reading.value?_tokenOfInt (by omega) (by simp only [UInt64.size]; omega)

theorem faithful_int64 (n : Int64) : Faithful n where
  finite := rfl
  decode := decodeInt_token (value?_int64 n) (Word.int64?_toInt n)

theorem faithful_uint64 (n : UInt64) : Faithful n where
  finite := rfl
  decode := by
    have hlow : (0 : Int) ≤ n.toNat := Int.natCast_nonneg _
    have hvalue : (Reading.tokenOfInt n.toNat).value? = some (.int n.toNat) :=
      Reading.value?_tokenOfInt (Int.le_trans (by decide) hlow) (Int.ofNat_lt.mpr n.toNat_lt_size)
    exact decodeInt_token hvalue (Word.uint64?_toNat n)

/-! ## Options and lists -/

/-- A form that is not `null` is not read as `null`. -/
theorem ofJson_ne_null {v : Json} (h : v ≠ .null) : Reading.ofJson v ≠ .null := by
  cases v with
  | null => exact absurd rfl h
  | float x =>
    show Reading.tokenOfText _ ≠ .null
    unfold Reading.tokenOfText
    split <;> nofun
  | _ => nofun

theorem faithful_none : Faithful (none : Option α) := ⟨rfl, rfl⟩

theorem Faithful.some {a : α} (h : Faithful a) (hnull : encode a ≠ .null) :
    Faithful (Option.some a) where
  finite := h.finite
  decode := by
    have hne := ofJson_ne_null hnull
    have hsome (r : Reading) (hr : r ≠ .null) :
        Wire.decode r = (Wire.decode r : Except DecodeError α).map Option.some := by
      cases r with
      | null => exact absurd rfl hr
      | _ => rfl
    show Wire.decode (Reading.ofJson (encode a)) = _
    rw [hsome _ hne, h.decode]
    rfl

theorem Faithful.list {l : List α} (h : ∀ a ∈ l, Faithful a) : Faithful l := by
  have hitems : itemsFinite (l.map encode) = true ∧
      decodeItems (Reading.ofItems (l.map encode)) = .ok l := by
    induction l with
    | nil => exact ⟨rfl, rfl⟩
    | cons a l ih =>
      have ha := h a (by simp)
      obtain ⟨hfinite, hdecode⟩ := ih fun b hb => h b (by simp [hb])
      refine ⟨by simp [itemsFinite, ha.finite, hfinite], ?_⟩
      simp only [List.map_cons, Reading.ofItems, decodeItems, ha.decode, hdecode]
      rfl
  exact ⟨hitems.1, hitems.2⟩

end Wire

/-! ## Records -/

open Wire (Faithful)

/-- The fields of a record and the members that they were written as. A field may be left out. -/
inductive Members : List Field → List (String × Json) → Prop
  | nil : Members [] []
  | cons {α : Type} [Wire α] {a : α} {fields : List Field} {members : List (String × Json)}
      (name : String) (h : Faithful a) (hrest : Members fields members) :
      Members (.of α name :: fields) ((name, Wire.encode a) :: members)
  | skip {fields : List Field} {members : List (String × Json)} (f : Field)
      (hrest : Members fields members) : Members (f :: fields) members

namespace Members

variable {fields : List Field} {members : List (String × Json)}

theorem finite (h : Members fields members) : (Json.obj members).isFinite = true := by
  show membersFinite members = true
  induction h with
  | nil => rfl
  | cons name h _ ih => simp [membersFinite, h.finite, ih]
  | skip f _ ih => exact ih

/-- A field of a list of fields with different names is found by its name. -/
theorem find?_name {known : List Field} (hnames : (known.map Field.name).Nodup) {f : Field}
    (hf : f ∈ known) : known.find? (·.name = f.name) = some f := by
  induction known with
  | nil => cases hf
  | cons g known ih =>
    rw [List.map_cons, List.nodup_cons] at hnames
    rcases List.mem_cons.mp hf with rfl | hf
    · exact List.find?_cons_of_pos (by simp)
    · have hne : g.name ≠ f.name := fun heq =>
        hnames.1 (heq ▸ List.mem_map_of_mem hf)
      rw [List.find?_cons_of_neg (by simpa using hne)]
      exact ih hnames.2 hf

/-- The members of a record with their readings. -/
def readings (members : List (String × Json)) : Fields :=
  members.map fun m => (m.1, Reading.ofJson m.2)

@[simp] theorem readings_nil : readings [] = [] := rfl

@[simp] theorem readings_cons (m : String × Json) (members : List (String × Json)) :
    readings (m :: members) = (m.1, Reading.ofJson m.2) :: readings members := rfl

/-- What the reader has found is what stands in the text, as long as it knows the fields and has
found none of them before. -/
theorem ofMembers (h : Members fields members) {known : List Field} {found : Fields}
    (hknown : ∀ f ∈ fields, known.find? (·.name = f.name) = some f)
    (hnames : (fields.map Field.name).Nodup)
    (hfound : ∀ f ∈ fields, found.lookup f.name = none) :
    Fields.ofMembers known found (Reading.ofMembers members) = .ok (found ++ readings members) := by
  induction h generalizing found with
  | nil => simp [Reading.ofMembers, Fields.ofMembers, readings]
  | @cons α _ a fields members name ha _ ih =>
    rw [List.map_cons, List.nodup_cons] at hnames
    have hthis : known.find? (·.name = name) = some (.of α name) := hknown _ List.mem_cons_self
    have hnew : found.lookup name = none := hfound _ List.mem_cons_self
    have hcheck : (Field.of α name).check (Reading.ofJson (Wire.encode a)) = .ok () := by
      show (Wire.decode (Reading.ofJson (Wire.encode a)) : Except DecodeError α).map _ = _
      rw [ha.decode]
      rfl
    -- the names differ, so the fields to come have not been found with this one
    have hothers : ∀ f ∈ fields,
        (found ++ [(name, Reading.ofJson (Wire.encode a))]).lookup f.name = none := by
      intro f hf
      have hne : f.name ≠ name := fun heq =>
        hnames.1 (List.mem_map.mpr ⟨f, hf, heq⟩)
      have hbeq : (f.name == name) = false := beq_false_of_ne hne
      simp [List.lookup_append, hfound f (by simp [hf]), List.lookup_cons, hbeq]
    have hrest := ih (fun f hf => hknown f (by simp [hf])) hnames.2 hothers
    simp only [Reading.ofMembers, Fields.ofMembers, hthis, hnew, hcheck, hrest]
    simp only [readings, List.map_cons, List.append_assoc, List.singleton_append]
    rfl
  | skip f _ ih =>
    rw [List.map_cons, List.nodup_cons] at hnames
    exact ih (fun g hg => hknown g (by simp [hg])) hnames.2 fun g hg => hfound g (by simp [hg])

/-- The reader finds the fields of a record. -/
theorem ofReading (h : Members fields members) (hnames : (fields.map Field.name).Nodup) :
    Fields.ofReading fields (Reading.ofJson (.obj members)) = .ok (readings members) :=
  h.ofMembers (fun _ hf => find?_name hnames hf) hnames fun _ _ => rfl

/-- A record comes back when it is put together from its fields. -/
theorem decode {α : Type} {a : α} (h : Members fields members)
    (hnames : (fields.map Field.name).Nodup) {build : Fields → Except DecodeError α}
    (hbuild : build (readings members) = .ok a) :
    (Fields.ofReading fields (Reading.ofJson (.obj members)) >>= build) = .ok a := by
  rw [h.ofReading hnames]
  exact hbuild

end Members

namespace Fields

variable {α : Type} [Wire α]

@[simp] theorem get_cons (key name : String) (r : Reading) (fs : Fields) :
    (get ((key, r) :: fs) name : Except DecodeError α) =
      if name = key then Wire.decode r else fs.get name := by
  unfold get
  by_cases h : name = key
  · simp [h]
  · simp [h, List.lookup_cons, beq_false_of_ne h]

@[simp] theorem getD_nil (name : String) (default : α) : getD [] name default = .ok default := rfl

@[simp] theorem getD_cons (key name : String) (r : Reading) (fs : Fields) (default : α) :
    getD ((key, r) :: fs) name default =
      if name = key then Wire.decode r else fs.getD name default := by
  unfold getD
  by_cases h : name = key
  · simp [h]
  · simp [h, List.lookup_cons, beq_false_of_ne h]

end Fields

end SensorGateway.Json
