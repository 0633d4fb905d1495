/-
# SensorGateway.Proofs.Gateway.Episode -- what a recorder tracks, and since when

Operations and their answers say in which episode a recorder is: it has never been started, it
runs since some start, or it has ended with some stop (`Episode`). A start while a recording
runs and a stop while none does are no news. `recording_episode` says that the recorder is as
its episode says. While it runs it tracks what sessions asked for at the start and what was
asked for with success since then, whatever was given up, taken back, closed or evicted in
between; when it has ended it tracks nothing. The times of start and stop are those of the
episode.
-/
import SensorGateway.Proofs.Gateway.Coverage
import SensorGateway.Proofs.Gateway.Parts

namespace SensorGateway

/-! ## Episodes -/

/-- How far the recordings of a gateway have come. -/
inductive Episode where
  | unused
  /-- A recording runs. It began with the gateway `start`, and `accepted` are the topics and keys
  that sessions have asked for with success since then. -/
  | running (start : Gateway) (accepted : List (Topic × KeySet))
  /-- A recording ran from the one gateway to the other. -/
  | ended (start stop : Gateway)

namespace Episode

/-- The episode after an operation on a gateway. -/
def next (e : Episode) (g : Gateway) (op : Op) : Episode :=
  match e, op with
  | .running start accepted, .subscribe id t p keys =>
    if (g.subscribe id t p keys).2.isOk then .running start (accepted ++ [(t, keys)])
    else .running start accepted
  | .running start _, .stopRecording => .ended start g
  | .running start accepted, _ => .running start accepted
  | _, .startRecording => .running g []
  | e, _ => e

/-- The episode after some operations. -/
def after (e : Episode) (w : World) : List Op → Episode
  | [] => e
  | op :: ops => (e.next w.gateway op).after (w.step op) ops

end Episode

/-- The episode at the end of a run. -/
def Run.episode (r : Run) : Episode :=
  Episode.unused.after (.start (.assemble r.config r.clock r.more)) r.ops

/-- A session asks for a sensor of a topic. -/
def Gateway.AsksFor (g : Gateway) (t : Topic) (k : SensorKey) : Prop :=
  ∃ s ∈ g.bus.sessions, ∃ i, s.subscriptions.get? t = some i ∧ k ∈ i.sensors

/-- The time of day does not go back while operations happen. -/
def World.OnTime (w : World) : List Op → Prop
  | [] => True
  | op :: ops => w.gateway.clock.wall ≤ (op.act w.gateway).clock.wall ∧ (w.step op).OnTime ops

instance World.decidableOnTime (w : World) : (ops : List Op) → Decidable (w.OnTime ops)
  | [] => isTrue trivial
  | op :: ops =>
    have := decidableOnTime (w.step op) ops
    inferInstanceAs (Decidable (_ ≤ _ ∧ (w.step op).OnTime ops))

namespace Recorder

/-- A sensor of a topic is tracked. -/
def Tracks (r : Recorder) (t : Topic) (k : SensorKey) : Prop :=
  ∃ keys, r.sensorsOn? t = some keys ∧ k ∈ keys

/-- A recorder that runs since some start. -/
structure Running (start : Gateway) (accepted : List (Topic × KeySet)) (r : Recorder) : Prop where
  isRecording : r.isRecording = true
  tracked : ∀ t k, r.Tracks t k ↔
    start.AsksFor t k ∨ ∃ keys, (t, keys) ∈ accepted ∧ k ∈ keys
  /-- No topic is tracked without sensors. -/
  inhabited : ∀ t keys, r.sensorsOn? t = some keys → keys.isEmpty = false
  startedAt : r.startedAt = some start.clock.wall
  stoppedAt : r.stoppedAt = none

/-- A recorder that does not run. -/
structure Idle (startedAt stoppedAt : Option Instant) (r : Recorder) : Prop where
  isRecording : r.isRecording = false
  tracked : r.tracked = .empty
  startedAt : r.startedAt = startedAt
  stoppedAt : r.stoppedAt = stoppedAt

end Recorder

/-- A recorder is as its episode says. -/
def Episode.Fits (r : Recorder) : Episode → Prop
  | .unused => r.Idle none none
  | .running start accepted => r.Running start accepted
  | .ended start stop => r.Idle (some start.clock.wall) (some stop.clock.wall)

/-! ## Records do not matter -/

namespace Recorder

/-- Apart from its records a recorder is what it was. -/
structure Stays (r r' : Recorder) : Prop where
  isRecording : r'.isRecording = r.isRecording
  tracked : r'.tracked = r.tracked
  startedAt : r'.startedAt = r.startedAt
  stoppedAt : r'.stoppedAt = r.stoppedAt

theorem Stays.refl (r : Recorder) : r.Stays r := ⟨rfl, rfl, rfl, rfl⟩

theorem Stays.trans {a b c : Recorder} (h : a.Stays b) (h' : b.Stays c) : a.Stays c where
  isRecording := h'.isRecording.trans h.isRecording
  tracked := h'.tracked.trans h.tracked
  startedAt := h'.startedAt.trans h.startedAt
  stoppedAt := h'.stoppedAt.trans h.stoppedAt

theorem stays_trim (r : Recorder) : r.Stays r.trim := by
  unfold trim
  split
  · split <;> exact ⟨rfl, rfl, rfl, rfl⟩
  · exact .refl r

theorem stays_foldl_append (us : List Update) (r : Recorder) : r.Stays (us.foldl append r) := by
  induction us generalizing r with
  | nil => exact .refl r
  | cons u rest ih =>
    have happend : r.Stays (r.append u) := by
      refine .trans ?_ (stays_trim _)
      exact ⟨rfl, rfl, rfl, rfl⟩
    exact happend.trans (ih _)

theorem stays_recordBatch (r : Recorder) (b : Batch) : r.Stays (r.recordBatch b).1 := by
  unfold recordBatch
  split
  · exact stays_foldl_append b.updates r
  · exact .refl r

variable {r r' : Recorder}

theorem Stays.sensorsOn? (h : r.Stays r') (t : Topic) : r'.sensorsOn? t = r.sensorsOn? t := by
  unfold Recorder.sensorsOn?
  rw [h.tracked]

theorem Stays.tracks_iff (h : r.Stays r') {t : Topic} {k : SensorKey} :
    r'.Tracks t k ↔ r.Tracks t k := by
  unfold Tracks
  rw [h.sensorsOn?]

theorem Running.stays {start : Gateway} {accepted : List (Topic × KeySet)}
    (hr : r.Running start accepted) (h : r.Stays r') : r'.Running start accepted where
  isRecording := h.isRecording.trans hr.isRecording
  tracked t k := h.tracks_iff.trans (hr.tracked t k)
  inhabited t keys hkeys := hr.inhabited t keys (h.sensorsOn? t ▸ hkeys)
  startedAt := h.startedAt.trans hr.startedAt
  stoppedAt := h.stoppedAt.trans hr.stoppedAt

theorem Idle.stays {startedAt stoppedAt : Option Instant} (hr : r.Idle startedAt stoppedAt)
    (h : r.Stays r') : r'.Idle startedAt stoppedAt where
  isRecording := h.isRecording.trans hr.isRecording
  tracked := h.tracked.trans hr.tracked
  startedAt := h.startedAt.trans hr.startedAt
  stoppedAt := h.stoppedAt.trans hr.stoppedAt

/-! ## Tracking more -/

theorem sensorsOn?_track (hr : r.isRecording = true) {keys : KeySet} (hk : keys.isEmpty = false)
    (t t' : Topic) (p : Protocol) :
    (r.track t p keys).1.sensorsOn? t' =
      if t' = t then some (((r.sensorsOn? t).getD .empty).union keys) else r.sensorsOn? t' := by
  unfold sensorsOn?
  rw [get?_track hr hk]
  split
  · cases r.tracked.get? t <;> rfl
  · rfl

/-- A running recorder takes in the keys that a session asked for. -/
theorem tracks_track (hr : r.isRecording = true) {t t' : Topic} {p : Protocol} {keys : KeySet}
    {k : SensorKey} :
    (r.track t p keys).1.Tracks t' k ↔ r.Tracks t' k ∨ t' = t ∧ k ∈ keys := by
  cases hk : keys.isEmpty with
  | true =>
    rw [track_of_not (.inr hk)]
    exact ⟨.inl, fun h => h.resolve_right fun hnew => SortedSet.isEmpty_iff.mp hk k hnew.2⟩
  | false =>
    unfold Tracks
    rw [sensorsOn?_track hr hk]
    by_cases ht : t' = t
    · subst ht
      rw [if_pos rfl]
      cases r.sensorsOn? t' with
      | none => simp
      | some old => simp
    · rw [if_neg ht]
      exact ⟨.inl, fun h => h.resolve_right fun hnew => ht hnew.1⟩

theorem Running.track {start : Gateway} {accepted : List (Topic × KeySet)}
    (hr : r.Running start accepted) (t : Topic) (p : Protocol) (keys : KeySet) :
    (r.track t p keys).1.Running start (accepted ++ [(t, keys)]) where
  isRecording := (isRecording_track r t p keys).trans hr.isRecording
  tracked t' k := by
    rw [tracks_track hr.isRecording, hr.tracked]
    simp only [List.mem_append, List.mem_singleton, Prod.mk.injEq]
    constructor
    · rintro ((h | ⟨keys', h, hk⟩) | ⟨ht, hk⟩)
      · exact .inl h
      · exact .inr ⟨keys', .inl h, hk⟩
      · exact .inr ⟨keys, .inr ⟨ht, rfl⟩, hk⟩
    · rintro (h | ⟨keys', h | ⟨ht, rfl⟩, hk⟩)
      · exact .inl (.inl h)
      · exact .inl (.inr ⟨keys', h, hk⟩)
      · exact .inr ⟨ht, hk⟩
  inhabited t' keys' h := by
    cases hk : keys.isEmpty with
    | true =>
      rw [track_of_not (.inr hk)] at h
      exact hr.inhabited t' keys' h
    | false =>
      rw [sensorsOn?_track hr.isRecording hk] at h
      split at h
      · obtain rfl := Option.some.inj h
        obtain ⟨k, hmem⟩ := SortedSet.isEmpty_eq_false_iff.mp hk
        exact SortedSet.isEmpty_eq_false_iff.mpr ⟨k, SortedSet.mem_union.mpr (.inr hmem)⟩
      · exact hr.inhabited t' keys' h
  startedAt := by
    rw [← hr.startedAt]
    unfold Recorder.track
    split <;> rfl
  stoppedAt := by
    rw [← hr.stoppedAt]
    unfold Recorder.track
    split <;> rfl

end Recorder

/-! ## Operations -/

namespace Gateway

variable {g g' : Gateway}

theorem Publishes.stays (h : Publishes g g') : g.recorder.Stays g'.recorder := by
  obtain ⟨bs, hdoes⟩ := h
  rw [hdoes.recorder]
  generalize g.recorder = r
  clear hdoes
  induction bs generalizing r with
  | nil => exact .refl r
  | cons b rest ih => exact (r.stays_recordBatch b).trans (ih _)

theorem stays_reconcileWith (g : Gateway) (b : Bus) (t : Topic) (p : Protocol) :
    g.recorder.Stays ({ g with bus := b }.reconcile t p).1.recorder :=
  (publishes_reconcile { g with bus := b } t p).stays

/-- A request that is refused leaves no trace with the recorder; one that is accepted is tracked. -/
theorem recorder_subscribe (g : Gateway) (id : SessionId) (t : Topic) (p : Protocol)
    (keys : KeySet) :
    ((g.subscribe id t p keys).2.isOk = false ∧
      g.recorder.Stays (g.subscribe id t p keys).1.recorder) ∨
    ((g.subscribe id t p keys).2.isOk = true ∧ ∃ r, g.recorder.Stays r ∧
      (g.subscribe id t p keys).1.recorder = (r.track t p keys).1) := by
  rcases subscribe_cases g id t p keys with
    ⟨hsame, ⟨-, he⟩ | ⟨-, he⟩⟩ | ⟨n, b, -, -, ⟨e, -, hback, he⟩ | ⟨-, hnew, hok⟩⟩
  · rw [hsame, he]
    exact .inl ⟨rfl, .refl _⟩
  · rw [hsame, he]
    exact .inl ⟨rfl, .refl _⟩
  · rw [hback, he]
    refine .inl ⟨rfl, (g.stays_reconcileWith b t p).trans ?_⟩
    rcases takeBack_cases ({ g with bus := b }.reconcile t p).1 id t p (g.bus.subscription? id t) e
      with ⟨-, hsame⟩ | ⟨b', -, hrec⟩
    · rw [hsame]
      exact .refl _
    · rw [hrec]
      exact stays_reconcileWith _ b' t p
  · rw [hnew, hok]
    exact .inr ⟨rfl, _, g.stays_reconcileWith b t p, rfl⟩

theorem stays_unsubscribe (g : Gateway) (id : SessionId) (t : Topic) (p : Protocol) :
    g.recorder.Stays (g.unsubscribe id t p).1.recorder := by
  rcases unsubscribe_cases g id t p with hsame | ⟨b, -, hrec⟩
  · rw [hsame]
    exact .refl _
  · rw [hrec]
    exact g.stays_reconcileWith b t p

theorem recorder_authorize (g : Gateway) (token : Option String) :
    (g.authorize token).1.recorder = g.recorder := by
  unfold authorize
  split <;> rfl

theorem stays_setValue (g : Gateway) (token : Option String) (t : Topic) (p : Protocol)
    (k : SensorKey) (v : SensorValue) :
    g.recorder.Stays (g.setValue token t p k v).1.recorder := by
  have hauthorize := g.recorder_authorize token
  unfold setValue
  split
  · next heq =>
    rw [heq] at hauthorize
    rw [hauthorize]
    exact .refl _
  · next heq =>
    rw [heq] at hauthorize
    rw [← hauthorize]
    exact (publishes_request _ t p _).stays

theorem stays_clearRecording (g : Gateway) : g.recorder.Stays g.clearRecording.1.recorder :=
  ⟨rfl, rfl, rfl, rfl⟩

/-- A start while a recording runs is ignored. Else the recorder starts, and values come in. -/
theorem recorder_startRecording (g : Gateway) :
    (g.recorder.isRecording = true ∧ g.startRecording.1 = g) ∨
      ∃ r, g.recorder.start? g.clock.wall g.activeInterests = some r ∧
        r.Stays g.startRecording.1.recorder := by
  cases hr : g.recorder.start? g.clock.wall g.activeInterests with
  | none =>
    exact .inl ⟨Recorder.start?_eq_none hr, by rw [startRecording, hr]⟩
  | some r =>
    refine .inr ⟨r, rfl, ?_⟩
    unfold startRecording
    rw [hr]
    exact (publishes_captureBaseline { g with recorder := r } _).stays

/-- A stop while no recording runs is ignored. Else the recorder stops, and topics are released. -/
theorem recorder_stopRecording (g : Gateway) :
    (g.recorder.isRecording = false ∧ g.stopRecording.1 = g) ∨
      ∃ r tracked, g.recorder.stop? g.clock.wall = some (r, tracked) ∧
        r.Stays g.stopRecording.1.recorder := by
  cases hr : g.recorder.stop? g.clock.wall with
  | none =>
    exact .inl ⟨Recorder.stop?_eq_none hr, by rw [stopRecording, hr]⟩
  | some s =>
    refine .inr ⟨s.1, s.2, rfl, ?_⟩
    unfold stopRecording
    rw [hr]
    exact (publishes_releaseTopics { g with recorder := s.1 } _).stays

theorem asksFor_iff {g : Gateway} {t : Topic} {k : SensorKey} :
    g.AsksFor t k ↔ k ∈ g.bus.sensorsOn t := by
  rw [Bus.mem_sensorsOn]
  constructor
  · rintro ⟨s, hs, i, hi, hk⟩
    exact ⟨s.id, i, Bus.asks_of_mem hs hi, hk⟩
  · rintro ⟨id, i, ha, hk⟩
    obtain ⟨s, hs, -, hi⟩ := Bus.asks_iff.mp ha
    exact ⟨s, hs, i, hi, hk⟩

/-- A recording is to begin with all sensors of the topics that sessions ask for. -/
theorem sensors_activeInterests (g : Gateway) (t : Topic) :
    (g.activeInterests.get? t).map (·.sensors) =
      (g.bus.activeTopics.get? t).map fun _ => g.bus.sensorsOn t := by
  rw [activeInterests, SortedMap.get?_mapValues, Option.map_map]
  rfl

end Gateway

/-- Whether an operation can change what a recorder tracks, or whether it runs. -/
def Op.steers : Op → Bool
  | .subscribe _ _ _ _ => true
  | .startRecording => true
  | .stopRecording => true
  | _ => false

/-- All other operations leave the recorder as it is, apart from records. -/
theorem Op.stays_act {op : Op} (h : op.steers = false) (g : Gateway) :
    g.recorder.Stays (op.act g).recorder := by
  cases op with
  | cleanUp t p => exact (Gateway.publishes_releaseTopics g [(t, p)]).stays
  | unsubscribe id t p => exact g.stays_unsubscribe id t p
  | releaseTopics topics => exact (Gateway.publishes_releaseTopics g topics).stays
  | clearRecording => exact g.stays_clearRecording
  | setValue token t p k v => exact g.stays_setValue token t p k v
  | takeControl token =>
    show g.recorder.Stays (g.takeControl token).1.recorder
    unfold Gateway.takeControl
    split <;> exact .refl _
  | expireControl =>
    show g.recorder.Stays g.expireControl.1.recorder
    unfold Gateway.expireControl
    split <;> exact .refl _
  | authorize token =>
    show g.recorder.Stays (g.authorize token).1.recorder
    rw [g.recorder_authorize token]
    exact .refl _
  | publish b => exact g.recorder.stays_recordBatch b
  | sendTo id e =>
    show g.recorder.Stays (g.sendTo id e).1.recorder
    unfold Gateway.sendTo
    split <;> exact .refl _
  | subscribe id t p keys => cases h
  | startRecording => cases h
  | stopRecording => cases h
  | _ => exact .refl _

/-- While no recording runs only a start changes the recorder, apart from its records. -/
theorem Op.stays_act_of_idle {op : Op} (h : op ≠ .startRecording) {g : Gateway}
    (hidle : g.recorder.isRecording = false) : g.recorder.Stays (op.act g).recorder := by
  cases op with
  | subscribe id t p keys =>
    rcases g.recorder_subscribe id t p keys with ⟨-, hstays⟩ | ⟨-, r, hstays, hr⟩
    · exact hstays
    · show g.recorder.Stays (g.subscribe id t p keys).1.recorder
      rw [hr, Recorder.track_of_not (.inl (hstays.isRecording.trans hidle))]
      exact hstays
  | startRecording => exact absurd rfl h
  | stopRecording =>
    rcases g.recorder_stopRecording with ⟨-, hsame⟩ | ⟨r, tracked, hr, -⟩
    · show g.recorder.Stays g.stopRecording.1.recorder
      rw [hsame]
      exact .refl _
    · exact absurd ((Recorder.isRecording_of_stop? hr).symm.trans hidle) (by decide)
  | _ => exact Op.stays_act rfl g

/-! ## Episodes are told right -/

namespace Episode

variable {e : Episode} {g : Gateway}

theorem next_of_not_steers {op : Op} (h : op.steers = false) (e : Episode) (g : Gateway) :
    e.next g op = e := by
  cases op with
  | subscribe id t p keys => cases h
  | startRecording => cases h
  | stopRecording => cases h
  | _ => cases e <;> rfl

theorem Fits.stays {r r' : Recorder} (h : e.Fits r) (hr : r.Stays r') : e.Fits r' := by
  cases e with
  | unused => exact Recorder.Idle.stays h hr
  | running start accepted => exact Recorder.Running.stays h hr
  | ended start stop => exact Recorder.Idle.stays h hr

/-- A recorder records exactly while its episode runs. -/
theorem Fits.isRecording_iff {r : Recorder} (h : e.Fits r) :
    r.isRecording = true ↔ ∃ start accepted, e = .running start accepted := by
  cases e with
  | unused => simp [Recorder.Idle.isRecording h]
  | running start accepted => exact ⟨fun _ => ⟨start, accepted, rfl⟩, fun _ => h.isRecording⟩
  | ended start stop => simp [Recorder.Idle.isRecording h]

/-- Exactly while a recording runs there is a time of start and none of stop. -/
theorem Fits.isRecording_iff_times {r : Recorder} (h : e.Fits r) :
    r.isRecording = true ↔ (∃ started, r.startedAt = some started) ∧ r.stoppedAt = none := by
  cases e with
  | unused => simp [Recorder.Idle.isRecording h, Recorder.Idle.startedAt h]
  | running start accepted =>
    simp [Recorder.Running.isRecording h, Recorder.Running.startedAt h,
      Recorder.Running.stoppedAt h]
  | ended start stop => simp [Recorder.Idle.isRecording h, Recorder.Idle.stoppedAt h]

theorem next_startRecording (h : ¬ ∃ start accepted, e = .running start accepted) (g : Gateway) :
    e.next g .startRecording = .running g [] := by
  cases e with
  | running start accepted => exact absurd ⟨start, accepted, rfl⟩ h
  | _ => rfl

theorem next_stopRecording (h : ¬ ∃ start accepted, e = .running start accepted) (g : Gateway) :
    e.next g .stopRecording = e := by
  cases e with
  | running start accepted => exact absurd ⟨start, accepted, rfl⟩ h
  | _ => rfl

/-- A recording begins with what sessions ask for. -/
theorem running_start (hasking : ∀ {id t i}, g.bus.Asks id t i → i.sensors.isEmpty = false)
    {r : Recorder} (hr : g.recorder.start? g.clock.wall g.activeInterests = some r) :
    r.Running g [] := by
  unfold Recorder.start? at hr
  split at hr
  · cases hr
  obtain rfl := Option.some.inj hr
  refine ⟨rfl, ?_, ?_, rfl, rfl⟩
  · intro t k
    show (∃ keys, (g.activeInterests.get? t).map (·.sensors) = some keys ∧ k ∈ keys) ↔ _
    rw [g.sensors_activeInterests, Gateway.asksFor_iff]
    simp only [List.not_mem_nil, false_and, exists_false, or_false]
    constructor
    · rintro ⟨keys, hkeys, hk⟩
      obtain ⟨-, -, rfl⟩ := Option.map_eq_some_iff.mp hkeys
      exact hk
    · intro hk
      -- a topic on which somebody asks for a sensor is active
      obtain ⟨id, i, ha, -⟩ := Bus.mem_sensorsOn.mp hk
      obtain ⟨p, hp⟩ := Option.isSome_iff_exists.mp (Bus.isSome_activeTopics_iff.mpr ⟨id, i, ha⟩)
      exact ⟨_, by rw [hp]; rfl, hk⟩
  · intro t keys hkeys
    replace hkeys : (g.activeInterests.get? t).map (·.sensors) = some keys := hkeys
    rw [g.sensors_activeInterests] at hkeys
    obtain ⟨p, hp, rfl⟩ := Option.map_eq_some_iff.mp hkeys
    obtain ⟨id, i, ha, -⟩ := Bus.asks_of_activeTopics hp
    obtain ⟨k, hk⟩ := SortedSet.isEmpty_eq_false_iff.mp (hasking ha)
    exact SortedSet.isEmpty_eq_false_iff.mpr ⟨k, Bus.mem_sensorsOn.mpr ⟨id, i, ha, hk⟩⟩

theorem Fits.subscribe (h : e.Fits g.recorder) (id : SessionId) (t : Topic) (p : Protocol)
    (keys : KeySet) :
    (e.next g (.subscribe id t p keys)).Fits (g.subscribe id t p keys).1.recorder := by
  rcases g.recorder_subscribe id t p keys with ⟨hrefused, hstays⟩ | ⟨hok, r, hstays, hr⟩
  · have hsame : e.next g (.subscribe id t p keys) = e := by
      cases e with
      | running start accepted => exact if_neg (by simp [hrefused])
      | _ => rfl
    rw [hsame]
    exact h.stays hstays
  · rw [hr]
    -- an idle recorder tracks nothing new, a running one tracks the keys
    cases e with
    | running start accepted =>
      have hnext : (running start accepted).next g (.subscribe id t p keys) =
          running start (accepted ++ [(t, keys)]) := if_pos hok
      rw [hnext]
      exact (Recorder.Running.stays h hstays).track t p keys
    | unused =>
      have hidle := Recorder.Idle.stays h hstays
      rw [Recorder.track_of_not (.inl hidle.isRecording)]
      exact hidle
    | ended start stop =>
      have hidle := Recorder.Idle.stays h hstays
      rw [Recorder.track_of_not (.inl hidle.isRecording)]
      exact hidle

theorem Fits.startRecording (h : e.Fits g.recorder)
    (hasking : ∀ {id t i}, g.bus.Asks id t i → i.sensors.isEmpty = false) :
    (e.next g .startRecording).Fits g.startRecording.1.recorder := by
  rcases g.recorder_startRecording with ⟨hrecording, hsame⟩ | ⟨r, hr, hstays⟩
  · obtain ⟨start, accepted, rfl⟩ := h.isRecording_iff.mp hrecording
    rw [hsame]
    exact h
  · have hidle := (Recorder.start?_eq_some hr).1
    rw [next_startRecording fun hrunning => by simp [h.isRecording_iff.mpr hrunning] at hidle]
    exact (running_start hasking hr).stays hstays

theorem Fits.stopRecording (h : e.Fits g.recorder) :
    (e.next g .stopRecording).Fits g.stopRecording.1.recorder := by
  rcases g.recorder_stopRecording with ⟨hidle, hsame⟩ | ⟨r, tracked, hr, hstays⟩
  · rw [hsame, next_stopRecording fun hrunning => by
      simp [h.isRecording_iff.mpr hrunning] at hidle]
    exact h
  · -- it records, so the episode has a start, and that is where the recording ran from
    unfold Recorder.stop? at hr
    split at hr
    · next hrecording =>
      obtain ⟨start, accepted, rfl⟩ := h.isRecording_iff.mp hrecording
      obtain ⟨rfl, -⟩ := Prod.mk.inj (Option.some.inj hr)
      have hstarted : g.recorder.startedAt = some start.clock.wall := Recorder.Running.startedAt h
      refine Recorder.Idle.stays ?_ hstays
      exact ⟨rfl, rfl, hstarted, rfl⟩
    · cases hr

/-- An episode goes on as operations say. -/
theorem Fits.step (h : e.Fits g.recorder)
    (hasking : ∀ {id t i}, g.bus.Asks id t i → i.sensors.isEmpty = false) (op : Op) :
    (e.next g op).Fits (op.act g).recorder := by
  by_cases hop : op.steers = true
  · cases op with
    | subscribe id t p keys => exact h.subscribe id t p keys
    | startRecording => exact h.startRecording hasking
    | stopRecording => exact h.stopRecording
    | _ => cases hop
  · have hop : op.steers = false := by simpa using hop
    rw [next_of_not_steers hop]
    exact h.stays (op.stays_act hop g)

/-- Only a stop ends a recording. -/
theorem next_running {op : Op} (hop : op ≠ .stopRecording) (start : Gateway)
    (accepted : List (Topic × KeySet)) (g : Gateway) :
    ∃ more, (running start accepted).next g op = running start (accepted ++ more) := by
  have hsame : running start accepted = running start (accepted ++ []) := by
    rw [List.append_nil]
  cases op with
  | subscribe id t p keys =>
    by_cases hok : (g.subscribe id t p keys).2.isOk = true
    · exact ⟨[(t, keys)], if_pos hok⟩
    · exact ⟨[], (if_neg hok).trans hsame⟩
  | stopRecording => exact absurd rfl hop
  | _ => exact ⟨[], hsame⟩

/-- While a recording runs what is tracked only widens. -/
theorem Fits.widens (h : e.Fits g.recorder)
    (hasking : ∀ {id t i}, g.bus.Asks id t i → i.sensors.isEmpty = false) {op : Op}
    (hop : op ≠ .stopRecording) (hrecording : g.recorder.isRecording = true) :
    (op.act g).recorder.isRecording = true ∧
      ∀ t k, g.recorder.Tracks t k → (op.act g).recorder.Tracks t k := by
  -- both episodes have the same start, so more is accepted and nothing less
  obtain ⟨start, accepted, rfl⟩ := h.isRecording_iff.mp hrecording
  obtain ⟨more, hmore⟩ := next_running hop start accepted g
  have hnext := h.step hasking op
  rw [hmore] at hnext
  refine ⟨Recorder.Running.isRecording hnext, fun t k hk => ?_⟩
  refine (Recorder.Running.tracked hnext t k).mpr ?_
  rcases (Recorder.Running.tracked h t k).mp hk with hasked | ⟨keys, hmem, hkeys⟩
  · exact .inl hasked
  · exact .inr ⟨keys, List.mem_append_left more hmem, hkeys⟩

/-- An episode goes on as operations say, however many there are. -/
theorem Fits.after {w : World} (h : e.Fits w.gateway.recorder)
    (hserved : Gateway.Served (fun _ _ => False) w.gateway) (ops : List Op) :
    (e.after w ops).Fits (w.after ops).gateway.recorder := by
  induction ops generalizing e w with
  | nil => exact h
  | cons op rest ih =>
    exact ih (h.step hserved.asking op) (hserved.act fun _ _ ho => ho.elim)

/-- The times of an episode are in order, up to the time of day. -/
def InOrder (g : Gateway) : Episode → Prop
  | .unused => True
  | .running start _ => start.clock.wall ≤ g.clock.wall
  | .ended start stop => start.clock.wall ≤ stop.clock.wall

theorem InOrder.step (h : e.InOrder g) {op : Op} (hop : g.clock.wall ≤ (op.act g).clock.wall) :
    (e.next g op).InOrder (op.act g) := by
  unfold next
  split
  · have hnow := Instant.le_trans h hop
    split
    · exact hnow
    · exact hnow
  · exact h
  · exact Instant.le_trans h hop
  · exact hop
  · next hother =>
    cases e with
    | unused => trivial
    | running start accepted => exact Instant.le_trans h hop
    | ended start stop => exact h

theorem InOrder.after {w : World} (h : e.InOrder w.gateway) {ops : List Op} (hops : w.OnTime ops) :
    (e.after w ops).InOrder (w.after ops).gateway := by
  induction ops generalizing e w with
  | nil => exact h
  | cons op rest ih => exact ih (h.step hops.1) hops.2

theorem Fits.le_of_inOrder (h : e.Fits g.recorder) (horder : e.InOrder g)
    {started stopped : Instant} (hstarted : g.recorder.startedAt = some started)
    (hstopped : g.recorder.stoppedAt = some stopped) : started ≤ stopped := by
  cases e with
  | unused =>
    rw [Recorder.Idle.startedAt h] at hstarted
    cases hstarted
  | running start accepted =>
    rw [Recorder.Running.stoppedAt h] at hstopped
    cases hstopped
  | ended start stop =>
    rw [Recorder.Idle.startedAt h] at hstarted
    rw [Recorder.Idle.stoppedAt h] at hstopped
    obtain rfl := Option.some.inj hstarted
    obtain rfl := Option.some.inj hstopped
    exact horder

end Episode

/-- **What the recorder tracks widens with what is accepted, and ends with the recording.** After
any run the recorder is as its episode says: while a recording runs it tracks what sessions asked
for when it started and what was asked for with success since then, no topic without sensors, and
else nothing at all. It has the times of the last start, and of the stop if it has stopped; nothing
but a start changes them then. They are in order if the time of day never went back. -/
theorem recording_episode (r : Run) :
    r.episode.Fits r.gateway.recorder ∧
    (r.gateway.recorder.isRecording = true ↔
      (∃ started, r.gateway.recorder.startedAt = some started) ∧
        r.gateway.recorder.stoppedAt = none) ∧
    (∀ op : Op, op ≠ .stopRecording → r.gateway.recorder.isRecording = true →
      (op.act r.gateway).recorder.isRecording = true ∧
        ∀ t k, r.gateway.recorder.Tracks t k → (op.act r.gateway).recorder.Tracks t k) ∧
    (∀ op : Op, op ≠ .startRecording → r.gateway.recorder.isRecording = false →
      r.gateway.recorder.Stays (op.act r.gateway).recorder) ∧
    ((World.start (.assemble r.config r.clock r.more)).OnTime r.ops →
      ∀ started stopped, r.gateway.recorder.startedAt = some started →
        r.gateway.recorder.stoppedAt = some stopped → started ≤ stopped) := by
  have hfresh : (Gateway.assemble r.config r.clock r.more).Fresh :=
    Gateway.fresh_assemble r.config r.clock r.more
  have hstart : Episode.unused.Fits (Gateway.assemble r.config r.clock r.more).recorder := by
    rw [Gateway.recorder_assemble]
    exact ⟨rfl, rfl, rfl, rfl⟩
  have hfits : r.episode.Fits r.gateway.recorder :=
    hstart.after (w := .start _) (Gateway.served_fresh hfresh) r.ops
  have hasking : ∀ {id t i}, r.gateway.bus.Asks id t i → i.sensors.isEmpty = false :=
    (Gateway.served_run_always r).asking
  refine ⟨hfits, ?_, fun op hop => hfits.widens hasking hop,
    fun op hop => Op.stays_act_of_idle hop, ?_⟩
  · exact hfits.isRecording_iff_times
  · intro hontime started stopped
    have horder : r.episode.InOrder r.gateway :=
      Episode.InOrder.after (e := .unused) (w := .start _) trivial hontime
    exact hfits.le_of_inOrder horder

/-- A recording during which the only session changes its mind twice. -/
def changesOfMind : Run where
  config := {}
  clock := ⟨⟨0, 0⟩, 0⟩
  more := [.accepting "plant" .modbus]
  ops := [.openSession ⟨1⟩, .subscribe ⟨1⟩ Gateway.tank .modbus (.ofList [.name "level"]),
    .elapse 1000 ⟨1, 0⟩, .startRecording,
    .subscribe ⟨1⟩ Gateway.tank .modbus (.ofList [.name "valve"]),
    .unsubscribe ⟨1⟩ Gateway.tank .modbus]
  admissible := by decide

/-- The same recording, stopped a second later. -/
def stoppedLater : Run where
  config := {}
  clock := ⟨⟨0, 0⟩, 0⟩
  more := [.accepting "plant" .modbus]
  ops := changesOfMind.ops ++ [.elapse 1000 ⟨2, 0⟩, .stopRecording]
  admissible := by decide

/-- The sensor that the session asked for first goes on to be tracked when it leaves. The recording
ends after it began, and nothing changes that when the session leaves then. -/
theorem changesOfMind_tracked :
    (changesOfMind.gateway.recorder.isRecording = true ∧
      ((Op.closeSession ⟨1⟩).act changesOfMind.gateway).recorder.Tracks Gateway.tank
        (.name "level")) ∧
    stoppedLater.gateway.recorder.startedAt = some ⟨1, 0⟩ ∧
    stoppedLater.gateway.recorder.stoppedAt = some ⟨2, 0⟩ ∧ (⟨1, 0⟩ : Instant) ≤ ⟨2, 0⟩ ∧
    stoppedLater.gateway.recorder.Stays
      ((Op.closeSession ⟨1⟩).act stoppedLater.gateway).recorder := by
  have hrecording : changesOfMind.gateway.recorder.isRecording = true := by decide
  have hlevel : changesOfMind.gateway.recorder.Tracks Gateway.tank (.name "level") :=
    ⟨.ofList [.name "level", .name "valve"], by decide, by decide⟩
  obtain ⟨-, -, hwidens, -, -⟩ := recording_episode changesOfMind
  obtain ⟨-, -, -, hrests, horder⟩ := recording_episode stoppedLater
  have hstarted : stoppedLater.gateway.recorder.startedAt = some ⟨1, 0⟩ := by decide
  have hstopped : stoppedLater.gateway.recorder.stoppedAt = some ⟨2, 0⟩ := by decide
  exact ⟨⟨hrecording, (hwidens (.closeSession ⟨1⟩) nofun hrecording).2 _ _ hlevel⟩, hstarted,
    hstopped, horder (by decide) _ _ hstarted hstopped,
    hrests (.closeSession ⟨1⟩) nofun (by decide)⟩

end SensorGateway
