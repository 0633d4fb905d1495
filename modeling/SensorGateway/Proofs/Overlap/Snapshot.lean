/-
# SensorGateway.Proofs.Overlap.Snapshot -- recordings that start in the middle of other calls

A recording begins with what sessions asked for when it read the bus. Reading takes no lock,
and neither does the recorder when it takes over what was read. A session that gives its
sensors up between the two has the adapter unsubscribed, and the recorder tracks sensors
that nobody watches: `given_up_during_start` is such an interleaving.

This is the only way: if every sensor that was read is still asked for when the recorder
takes it over, then, however other calls overlap with the start, all sensors that are
tracked in the end are watched (`recorded_sensors_are_watched`).
-/
import SensorGateway.Proofs.Overlap.Repair

namespace SensorGateway.Overlap

/-- **Recorded sensors are watched.** Let any number of calls overlap in any way, starts of recordings
among them, and let a topic be used under one family. If whenever a recording begins every sensor
that it read on the topic is still asked for by some session, then once all calls have ended the
adapter of the topic's family watches every sensor that the recorder tracks there, and every
sensor that a session asks for. -/
theorem recorded_sensors_are_watched (r : Run) (t : Topic) (p : Protocol)
    (keeps : ∀ step ∈ r.steps, step.KeepsTo t p)
    (still : r.start.Along (State.StillAsked t) r.steps)
    (ended : ∀ x ∈ r.state.tasks, x = .ended) :
    ∀ k, k ∈ (r.gateway.recorder.sensorsOn? t).getD .empty ∨ k ∈ r.gateway.bus.sensorsOn t →
      k ∈ (r.gateway.heldOn t p).getD .empty ∧
      ∀ a, r.gateway.adapterOn? t p = some a → k ∈ a.watched t.object := by
  have hkind := (State.along_of_forall fun _ step hmem => keeps step hmem).and still
  have hsettling : Settling False t p r.state :=
    r.induction (P := Settling False t p) (fun _ hg => settling_start hg)
      (fun _ _ h hcan hquiet hkind => h.next hcan hquiet hkind.1 hkind.2 False.elim) hkind
  intro k hk
  have hwanted : k ∈ r.gateway.wanted t := SortedSet.mem_union.mpr hk.symm
  have hheld := (hsettling.meets ended).covers k hwanted
  refine ⟨hheld, ?_⟩
  intro a ha
  rw [hsettling.orderly.tidy.faithful.watched ha]
  exact hheld

/-- The object of `overtaken` and `lost`. -/
def duct : Topic := ⟨"plant", "duct"⟩

/-- A session asks for one sensor. While the adapter is being asked for a second one, a recording
starts; the second sensor is tracked when the adapter has answered. -/
def overtaken : Run where
  config := {}
  clock := ⟨⟨0, 0⟩, 0⟩
  more := [.accepting "plant" .modbus]
  steps := [.openSession ⟨1⟩, .subscribe ⟨1⟩ duct .modbus (.ofList [.name "flow"])] ++
    Step.times 0 8 ++ [.openSession ⟨2⟩, .startRecording, .advance 1,
      .subscribe ⟨2⟩ duct .modbus (.ofList [.name "level"])] ++
    Step.times 2 4 ++ Step.times 1 3 ++ Step.times 2 4 ++ Step.times 1 2
  admissible := by decide

theorem overtaken_watched :
    overtaken.gateway.recorder.sensorsOn? duct = some (.ofList [.name "flow", .name "level"]) ∧
      SensorKey.name "level" ∈ (overtaken.gateway.heldOn duct .modbus).getD .empty :=
  ⟨by decide, (recorded_sensors_are_watched overtaken duct .modbus (by decide) (by decide)
    (by decide) _ (by decide)).1⟩

/-- A recording reads that a session asks for a sensor. The session gives the sensor up, and only then
the recorder takes over what was read. -/
def lost : Run where
  config := {}
  clock := ⟨⟨0, 0⟩, 0⟩
  more := [.accepting "plant" .modbus]
  steps := [.openSession ⟨1⟩, .subscribe ⟨1⟩ duct .modbus (.ofList [.name "flow"])] ++
    Step.times 0 8 ++ [.startRecording, .advance 1, .unsubscribe ⟨1⟩ duct .modbus] ++
    Step.times 2 8 ++ Step.times 1 5
  admissible := by decide

/-- All calls have ended, nothing was refused and nobody was evicted, and the recording is on. It
tracks a sensor, but the adapter was unsubscribed. -/
theorem given_up_during_start :
    (∀ x ∈ lost.state.tasks, x = .ended) ∧ (∀ step ∈ lost.steps, step.KeepsTo duct .modbus) ∧
      (∀ e ∈ lost.gateway.calls, e.result.isOk = true) ∧ lost.gateway.bus.departed = [] ∧
      lost.gateway.recorder.isRecording = true ∧
      lost.gateway.recorder.sensorsOn? duct = some (.ofList [.name "flow"]) ∧
      lost.gateway.heldOn duct .modbus = none :=
  ⟨by decide, by decide, by decide, by decide, by decide, by decide, by decide⟩

end SensorGateway.Overlap
