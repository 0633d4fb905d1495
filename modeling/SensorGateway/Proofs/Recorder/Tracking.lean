/-
# SensorGateway.Proofs.Recorder.Tracking -- the recorder's own interest

Records come and go without touching what the recorder tracks; only starting, stopping
and a subscription during a recording change that. `Recorder.get?_track` is the law of
the last one: what is tracked on a topic grows by the new sensors and keeps its family.
-/
import SensorGateway.Recorder

namespace SensorGateway.Recorder

/-! ## Records do not matter -/

@[simp] theorem tracked_trim (r : Recorder) : r.trim.tracked = r.tracked := by
  unfold trim
  split
  · split <;> rfl
  · rfl

@[simp] theorem isRecording_trim (r : Recorder) : r.trim.isRecording = r.isRecording := by
  unfold trim
  split
  · split <;> rfl
  · rfl

theorem tracked_foldl_append (us : List Update) (r : Recorder) :
    (us.foldl append r).tracked = r.tracked ∧
      (us.foldl append r).isRecording = r.isRecording := by
  induction us generalizing r with
  | nil => exact ⟨rfl, rfl⟩
  | cons u rest ih =>
    obtain ⟨ht, hr⟩ := ih (r.append u)
    exact ⟨ht.trans (tracked_trim _), hr.trans (isRecording_trim _)⟩

theorem tracked_recordBatch (r : Recorder) (b : Batch) :
    (r.recordBatch b).1.tracked = r.tracked := by
  unfold recordBatch
  split
  · exact (tracked_foldl_append b.updates r).1
  · rfl

theorem isRecording_recordBatch (r : Recorder) (b : Batch) :
    (r.recordBatch b).1.isRecording = r.isRecording := by
  unfold recordBatch
  split
  · exact (tracked_foldl_append b.updates r).2
  · rfl

/-! ## Starting, stopping, and tracking more -/

theorem start?_eq_some {r r' : Recorder} {now : Instant} {topics : SortedMap Topic Interest}
    (h : r.start? now topics = some r') :
    r.isRecording = false ∧ r'.isRecording = true ∧ r'.tracked = topics := by
  unfold start? at h
  split at h
  · cases h
  · next hr =>
    obtain rfl := Option.some.inj h
    exact ⟨by simpa using hr, rfl, rfl⟩

theorem start?_eq_none {r : Recorder} {now : Instant} {topics : SortedMap Topic Interest}
    (h : r.start? now topics = none) : r.isRecording = true := by
  unfold start? at h
  split at h
  · assumption
  · cases h

theorem stop?_eq_some {r r' : Recorder} {now : Instant} {topics : SortedMap Topic Interest}
    (h : r.stop? now = some (r', topics)) :
    r'.isRecording = false ∧ r'.tracked = .empty ∧ topics = r.tracked := by
  unfold stop? at h
  split at h
  · obtain ⟨rfl, rfl⟩ := Prod.mk.inj (Option.some.inj h)
    exact ⟨rfl, rfl, rfl⟩
  · cases h

theorem stop?_eq_none {r : Recorder} {now : Instant} (h : r.stop? now = none) :
    r.isRecording = false := by
  unfold stop? at h
  split at h
  · cases h
  · next hidle => simpa using hidle

theorem isRecording_of_stop? {r : Recorder} {now : Instant}
    {stopped : Recorder × SortedMap Topic Interest} (h : r.stop? now = some stopped) :
    r.isRecording = true := by
  unfold stop? at h
  split at h
  · assumption
  · cases h

theorem isRecording_track (r : Recorder) (t : Topic) (p : Protocol) (keys : KeySet) :
    (r.track t p keys).1.isRecording = r.isRecording := by
  unfold track
  split <;> rfl

/-- Tracking is ignored without sensors and without a recording. -/
theorem track_of_not {r : Recorder} {keys : KeySet} (h : r.isRecording = false ∨ keys.isEmpty)
    (t : Topic) (p : Protocol) : (r.track t p keys).1 = r := by
  unfold track
  rw [if_pos (by rcases h with h | h <;> simp [h])]

/-- What is tracked on a topic grows by the new sensors; the family that came first stays. -/
theorem get?_track {r : Recorder} {keys : KeySet} (hr : r.isRecording = true)
    (hk : keys.isEmpty = false) (t t' : Topic) (p : Protocol) :
    (r.track t p keys).1.tracked.get? t' =
      if t' = t then
        some ⟨((r.tracked.get? t).getD ⟨p, .empty⟩).protocol,
          ((r.tracked.get? t).getD ⟨p, .empty⟩).sensors.union keys⟩
      else r.tracked.get? t' := by
  unfold track
  rw [if_neg (by simp [hr, hk])]
  exact SortedMap.get?_insert

end SensorGateway.Recorder
