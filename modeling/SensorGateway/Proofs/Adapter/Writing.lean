/-
# SensorGateway.Proofs.Adapter.Writing -- writing to objects in memory

A key writes the first sensor, in the order of the settings, that it addresses; all other
sensors stay as they are (`Loopback.perform_setValue`). Numbers and names of sensors never
change, nor does their order (`Adapter.Descends`), so it is the same sensor at any time.
-/
import SensorGateway.Adapter

namespace SensorGateway

/-- A greater set of keys addresses more. -/
theorem KeySet.addresses_mono {ks ks' : KeySet} (h : ∀ k ∈ ks, k ∈ ks') {number : Int64}
    {label : String} (ha : ks.addresses number label = true) : ks'.addresses number label = true := by
  obtain ⟨k, hk, hka⟩ := SortedSet.any_eq_true.mp ha
  exact SortedSet.any_eq_true.mpr ⟨k, h k hk, hka⟩

namespace Adapter

namespace Loopback

/-! ## The written sensor -/

/-- The first sensor that a key addresses, with those before it and behind it. -/
structure FirstAddressed (k : SensorKey) (sensors before after : List MemorySensor)
    (x : MemorySensor) : Prop where
  split : sensors = before ++ x :: after
  others : ∀ y ∈ before, y.isAddressed k = false
  addressed : x.isAddressed k = true

theorem write?_eq_some {k : SensorKey} {v : SensorValue} {sensors written : List MemorySensor}
    {y : MemorySensor} (h : write? k v sensors = some (written, y)) :
    ∃ before x after, FirstAddressed k sensors before after x ∧ y = { x with value := v } ∧
      written = before ++ { x with value := v } :: after := by
  induction sensors generalizing written with
  | nil => cases h
  | cons s rest ih =>
    unfold write? at h
    cases hs : s.isAddressed k with
    | true =>
      rw [if_pos hs] at h
      obtain ⟨rfl, rfl⟩ := Prod.mk.inj (Option.some.inj h)
      exact ⟨[], s, rest, ⟨rfl, by simp, hs⟩, rfl, rfl⟩
    | false =>
      rw [if_neg (by simp [hs])] at h
      obtain ⟨⟨l, z⟩, hrest, heq⟩ := Option.map_eq_some_iff.mp h
      obtain ⟨rfl, rfl⟩ := Prod.mk.inj heq
      obtain ⟨before, x, after, hfirst, hy, hl⟩ := ih hrest
      refine ⟨s :: before, x, after, ⟨?_, ?_, hfirst.addressed⟩, hy, ?_⟩
      · rw [hfirst.split]
        rfl
      · intro z hz
        rcases List.mem_cons.mp hz with rfl | hz
        · exact hs
        · exact hfirst.others z hz
      · show s :: l = _
        rw [hl]
        rfl

/-- A write that is accepted changes the value of the first sensor that the key addresses. It is told
when the sensor is watched. -/
theorem perform_setValue {l l' : Loopback} {now : Instant} {o : String} {k : SensorKey}
    {v : SensorValue} {b : Batch} (h : l.perform now (.setValue o k v) = .ok (l', b)) :
    ∃ ob before x after, l.objects.get? o = some ob ∧
      FirstAddressed k ob.sensors before after x ∧
      l' = l.setObject o { ob with sensors := before ++ { x with value := v } :: after } ∧
      b = l.batch now o (if x.isWatched ob.watched then [{ x with value := v }] else []) := by
  unfold perform at h
  cases hob : l.objects.get? o with
  | none =>
    simp only [Call.object, hob] at h
    cases h
  | some ob =>
    simp only [Call.object, hob] at h
    cases hw : write? k v ob.sensors with
    | none => rw [hw] at h; cases h
    | some r =>
      obtain ⟨written, y⟩ := r
      rw [hw] at h
      obtain ⟨rfl, rfl⟩ := Prod.mk.inj (Except.ok.inj h)
      obtain ⟨before, x, after, hfirst, rfl, rfl⟩ := write?_eq_some hw
      exact ⟨ob, before, x, after, rfl, hfirst, rfl, rfl⟩

/-! ## What never changes -/

/-- The numbers and names of an object's sensors in the order of the settings. -/
def labels (l : Loopback) (o : String) : Option (List (Int64 × String)) :=
  (l.objects.get? o).map fun ob => ob.sensors.map fun s => (s.number, s.name)

theorem labels_setObject {l : Loopback} {name : String} {ob : MemoryObject}
    (hob : l.objects.get? name = some ob) (ob' : MemoryObject)
    (h : (ob'.sensors.map fun s => (s.number, s.name)) =
      ob.sensors.map fun s => (s.number, s.name)) (o : String) :
    (l.setObject name ob').labels o = l.labels o := by
  unfold labels setObject
  rw [SortedMap.get?_insert]
  by_cases ho : o = name
  · subst ho
    rw [if_pos rfl, hob, Option.map_some, Option.map_some, h]
  · rw [if_neg ho]

theorem labels_perform {l l' : Loopback} {now : Instant} {c : Call} {b : Batch}
    (h : l.perform now c = .ok (l', b)) (o : String) : l'.labels o = l.labels o := by
  cases c with
  | setValue name k v =>
    obtain ⟨ob, before, x, after, hob, hfirst, rfl, -⟩ := perform_setValue h
    refine labels_setObject hob _ ?_ o
    rw [hfirst.split]
    simp
  | subscribe name keys =>
    unfold perform at h
    split at h
    · cases h
    · next ob hob =>
      obtain ⟨rfl, -⟩ := Prod.mk.inj (Except.ok.inj h)
      exact labels_setObject hob { ob with watched := keys } rfl o
  | unsubscribe name =>
    unfold perform at h
    split at h
    · cases h
    · next ob hob =>
      obtain ⟨rfl, -⟩ := Prod.mk.inj (Except.ok.inj h)
      exact labels_setObject hob { ob with watched := .empty } rfl o
  | forceEmit name =>
    unfold perform at h
    split at h
    · cases h
    · obtain ⟨rfl, -⟩ := Prod.mk.inj (Except.ok.inj h)
      rfl

theorem server_perform {l l' : Loopback} {now : Instant} {c : Call} {b : Batch}
    (h : l.perform now c = .ok (l', b)) : l'.server = l.server ∧ l'.protocol = l.protocol := by
  unfold perform at h
  split at h
  · cases h
  · split at h
    · obtain ⟨rfl, -⟩ := Prod.mk.inj (Except.ok.inj h)
      exact ⟨rfl, rfl⟩
    · obtain ⟨rfl, -⟩ := Prod.mk.inj (Except.ok.inj h)
      exact ⟨rfl, rfl⟩
    · obtain ⟨rfl, -⟩ := Prod.mk.inj (Except.ok.inj h)
      exact ⟨rfl, rfl⟩
    · split at h
      · cases h
      · obtain ⟨rfl, -⟩ := Prod.mk.inj (Except.ok.inj h)
        exact ⟨rfl, rfl⟩

end Loopback

/-- The second adapter comes from the first one by calls: objects in memory keep their server, their
family and their sensors, apart from values. -/
def Descends : Adapter → Adapter → Prop
  | .loopback l, .loopback l' =>
    l'.server = l.server ∧ l'.protocol = l.protocol ∧ ∀ o, l'.labels o = l.labels o
  | .scripted _, .scripted _ => True
  | _, _ => False

theorem Descends.refl (a : Adapter) : a.Descends a := by
  cases a with
  | loopback l => exact ⟨rfl, rfl, fun _ => rfl⟩
  | scripted s => trivial

theorem Descends.ask {a₀ a : Adapter} (h : a₀.Descends a) (now : Instant) (c : Call) :
    a₀.Descends (a.ask now c).adapter := by
  cases a₀ with
  | scripted s₀ => cases a with
    | loopback l => cases h
    | scripted s => trivial
  | loopback l₀ => cases a with
    | scripted s => cases h
    | loopback l =>
      cases hp : l.perform now c with
      | error e =>
        have hsame : ((Adapter.loopback l).ask now c).adapter = .loopback l := by
          simp only [Adapter.ask, hp]
        rw [hsame]
        exact h
      | ok r =>
        have hnew : ((Adapter.loopback l).ask now c).adapter = .loopback r.1 := by
          simp only [Adapter.ask, hp]
        obtain ⟨hserver, hprotocol, hlabels⟩ := h
        obtain ⟨hserver', hprotocol'⟩ := Loopback.server_perform hp
        rw [hnew]
        exact ⟨hserver'.trans hserver, hprotocol'.trans hprotocol,
          fun o => (Loopback.labels_perform hp o).trans (hlabels o)⟩

/-! ## Values -/

/-- The sensors of an object in memory with their values. -/
def sensors? (a : Adapter) (object : String) : Option (List MemorySensor) :=
  match a with
  | .loopback l => (l.objects.get? object).map (·.sensors)
  | .scripted _ => none

/-- Another set of watched keys leaves all values alone. -/
theorem sensors?_setObject {l : Loopback} {name : String} {ob : MemoryObject}
    (hob : l.objects.get? name = some ob) (keys : KeySet) (object : String) :
    (Adapter.loopback (l.setObject name { ob with watched := keys })).sensors? object =
      (Adapter.loopback l).sensors? object := by
  show ((l.objects.insert name _).get? object).map _ = (l.objects.get? object).map _
  rw [SortedMap.get?_insert]
  by_cases ho : object = name
  · rw [if_pos ho, ho, hob]
    rfl
  · rw [if_neg ho]

/-- Only a write changes values. -/
theorem sensors?_ask (a : Adapter) (now : Instant) {c : Call} (hc : c.kind ≠ .setValue)
    (object : String) : (a.ask now c).adapter.sensors? object = a.sensors? object := by
  cases a with
  | scripted s => rfl
  | loopback l =>
    cases hob : l.objects.get? c.object with
    | none => simp only [ask, Loopback.perform, hob]
    | some ob =>
      cases c with
      | setValue name k v => exact absurd rfl hc
      | subscribe name keys =>
        simp only [ask, Loopback.perform, hob]
        exact sensors?_setObject hob keys object
      | unsubscribe name =>
        simp only [ask, Loopback.perform, hob]
        exact sensors?_setObject hob .empty object
      | forceEmit name => simp only [ask, Loopback.perform, hob]

end Adapter

end SensorGateway
