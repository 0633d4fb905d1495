/-
# SensorGateway.Proofs.Adapter.Holding -- what an adapter holds after a call

An adapter holds a set of keys on an object, or it is unsubscribed from the object.
Calls that it accepts change that as `Adapter.Call.hold` says; a call that it refuses
changes nothing. `Adapter.watched_ask` says so for all adapters, whatever they tell and
however long they take.
-/
import SensorGateway.Adapter

namespace SensorGateway.Adapter

/-- What is held on an object after a call was accepted; `none` says unsubscribed. -/
def Call.hold (c : Call) (o : String) (before : Option KeySet) : Option KeySet :=
  match c with
  | .subscribe o' keys => if o' = o then some keys else before
  | .unsubscribe o' => if o' = o then none else before
  | .forceEmit _ => before
  | .setValue _ _ _ => before

/-- A call that says what to watch on an object. -/
def Call.Points (c : Call) (o : String) : Prop :=
  (∃ keys, c = .subscribe o keys) ∨ c = .unsubscribe o

instance (c : Call) (o : String) : Decidable (c.Points o) :=
  match c with
  | .subscribe o' _ => decidable_of_iff (o' = o) (by simp [Call.Points])
  | .unsubscribe o' => decidable_of_iff (o' = o) (by simp [Call.Points])
  | .forceEmit _ => isFalse (by simp [Call.Points])
  | .setValue _ _ _ => isFalse (by simp [Call.Points])

theorem Call.hold_of_not_points {c : Call} {o : String} (h : ¬ c.Points o)
    (before : Option KeySet) : c.hold o before = before := by
  cases c with
  | subscribe o' keys => exact if_neg fun ho => h (Or.inl ⟨keys, by rw [ho]⟩)
  | unsubscribe o' => exact if_neg fun ho => h (Or.inr (by rw [ho]))
  | forceEmit o' => rfl
  | setValue o' k v => rfl

namespace Loopback

theorem watched_setObject {l : Loopback} {name o : String} {ob : MemoryObject} :
    (l.setObject name ob).watched o = if o = name then ob.watched else l.watched o := by
  by_cases h : o = name <;> simp [watched, setObject, h]

/-- A call that objects in memory accept. -/
theorem watched_perform {l l' : Loopback} {now : Instant} {c : Call} {b : Batch}
    (h : l.perform now c = .ok (l', b)) (o : String) {before : Option KeySet}
    (hb : l.watched o = before.getD .empty) : l'.watched o = (c.hold o before).getD .empty := by
  unfold perform at h
  cases hob : l.objects.get? c.object with
  | none => rw [hob] at h; cases h
  | some ob =>
    rw [hob] at h
    cases c with
    | subscribe name keys =>
      obtain ⟨rfl, -⟩ := Prod.mk.inj (Except.ok.inj h)
      rw [watched_setObject, Call.hold]
      by_cases ho : o = name
      · simp [ho]
      · rw [if_neg ho, if_neg (Ne.symm ho), hb]
    | unsubscribe name =>
      obtain ⟨rfl, -⟩ := Prod.mk.inj (Except.ok.inj h)
      rw [watched_setObject, Call.hold]
      by_cases ho : o = name
      · simp [ho]
      · rw [if_neg ho, if_neg (Ne.symm ho), hb]
    | forceEmit name =>
      obtain ⟨rfl, -⟩ := Prod.mk.inj (Except.ok.inj h)
      exact hb
    | setValue name k v =>
      simp only at h
      split at h
      · cases h
      · obtain ⟨rfl, -⟩ := Prod.mk.inj (Except.ok.inj h)
        rw [watched_setObject, Call.hold, ← hb]
        -- a written object keeps its watched keys
        split
        · next ho =>
          have hn : l.objects.get? name = some ob := hob
          simp only [watched, ho, hn]
        · rfl

end Loopback

theorem watched_scripted_accept {s : Scripted} {c : Call} {o : String} {before : Option KeySet}
    (hb : (scripted s).watched o = before.getD .empty) :
    (scripted (s.accept c)).watched o = (c.hold o before).getD .empty := by
  cases c with
  | subscribe o' keys =>
    simp only [watched, Scripted.accept, SortedMap.get?_insert, Call.hold]
    by_cases ho : o = o'
    · simp [ho]
    · rw [if_neg ho, if_neg (Ne.symm ho)]
      exact hb
  | unsubscribe o' =>
    simp only [watched, Scripted.accept, SortedMap.get?_erase, Call.hold]
    by_cases ho : o = o'
    · simp [ho]
    · rw [if_neg ho, if_neg (Ne.symm ho)]
      exact hb
  | forceEmit o' => exact hb
  | setValue o' k v => exact hb

/-- What an adapter watches changes with the calls that it accepts, and only with those. -/
theorem watched_ask (a : Adapter) (now : Instant) (c : Call) (o : String)
    {before : Option KeySet} (hb : a.watched o = before.getD .empty) :
    (a.ask now c).adapter.watched o =
      (if (a.ask now c).result.isOk then c.hold o before else before).getD .empty := by
  cases a with
  | loopback l =>
    cases hp : l.perform now c with
    | ok r =>
      have ha : (loopback l).ask now c = ⟨.loopback r.1, .ok (), [r.2], 0⟩ := by simp [ask, hp]
      rw [ha]
      exact Loopback.watched_perform hp o hb
    | error e =>
      have ha : (loopback l).ask now c = ⟨.loopback l, .error e, [], 0⟩ := by simp [ask, hp]
      rw [ha]
      exact hb
  | scripted s =>
    have hcounted : (scripted (s.counted c.kind)).watched o = before.getD .empty := hb
    show (scripted (s.perform c).1).watched o =
      (if (s.perform c).2.isOk then c.hold o before else before).getD .empty
    cases hr : (s.counted c.kind).script.refusal c.kind ((s.counted c.kind).count c.kind) with
    | none =>
      have hp : s.perform c = ((s.counted c.kind).accept c, .ok ()) := by
        simp [Scripted.perform, hr]
      rw [hp]
      exact watched_scripted_accept hcounted
    | some r =>
      have hp : s.perform c = (s.counted c.kind, .error (r.error c.object)) := by
        simp [Scripted.perform, hr]
      rw [hp]
      exact hcounted

end SensorGateway.Adapter
