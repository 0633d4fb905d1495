/-
# SensorGateway.Proofs.Gateway.Books -- the books are in order after every run

`Gateway.Sound` says that no identifier was used twice, that closed sessions are gone, and
that an idle recorder tracks nothing. Every operation keeps it, whatever it asks for and
whatever adapters refuse, so it holds after every run (`sound_run`). `Gateway.Ready` adds
what pointing an adapter relies on: routes are apart, and no topic is tracked without
sensors.
-/
import SensorGateway.Proofs.Gateway.Coverage

namespace SensorGateway.Gateway

/-- The books are in order: no identifier was used twice, closed sessions are gone, and an idle
recorder tracks nothing. -/
structure Sound (closed : List SessionId) (g : Gateway) : Prop where
  distinct : g.bus.Distinct
  gone : ∀ id ∈ closed, id ∈ g.bus.goneTable.map (·.1)
  idle : g.recorder.isRecording = false → g.recorder.tracked = .empty

variable {closed : List SessionId} {g g' : Gateway}

theorem Sound.steady (h : Sound closed g) (hs : Steady g g') : Sound closed g' where
  distinct := Bus.distinct_of_thins hs.bus h.distinct
  gone id hid := by
    obtain ⟨gone, hg, -⟩ := hs.bus
    rw [hg, List.map_append]
    exact List.mem_append_left _ (h.gone id hid)
  idle hr := hs.tracked.trans (h.idle (hs.isRecording ▸ hr))

/-! ## Operations -/

theorem Sound.openSession (h : Sound closed g) {id : SessionId} (hnew : id ∉ g.bus.ids) :
    Sound closed (g.openSession id).1 := by
  refine ⟨?_, h.gone, h.idle⟩
  exact (Bus.ids_register hnew).nodup_iff.mpr (List.nodup_cons.mpr ⟨hnew, h.distinct⟩)

theorem steady_closeSession (h : Sound closed g) (id : SessionId) :
    Steady g (g.closeSession id).1 :=
  ⟨Bus.thins_close h.distinct id, rfl, rfl, rfl, rfl, List.prefix_refl _⟩

theorem Sound.closeSession (h : Sound closed g) (id : SessionId) :
    Sound (g.closing closed id) (g.closeSession id).1 := by
  have hs := h.steady (steady_closeSession h id)
  refine ⟨hs.distinct, ?_, hs.idle⟩
  intro id' hid
  unfold closing at hid
  split at hid
  · next hr =>
    rcases List.mem_append.mp hid with hid | hid
    · exact hs.gone id' hid
    · rw [List.mem_singleton.mp hid]
      exact Bus.mem_gone_of_close hr
  · exact hs.gone id' hid

/-- A closed session was registered, so none that was gone before is taken for a closed one. -/
theorem Sound.mem_of_mem_closing (h : Sound closed g) {id : SessionId}
    {e : SessionId × SortedMap Topic Interest} (he : e ∈ g.bus.goneTable)
    (hc : e.1 ∈ g.closing closed id) : e.1 ∈ closed := by
  unfold closing at hc
  split at hc
  · next hr =>
    rcases List.mem_append.mp hc with hold | hnew
    · exact hold
    · obtain ⟨s, hs, hid⟩ := Bus.isRegistered_iff.mp hr
      have hgone : s.id ∈ g.bus.goneTable.map (·.1) :=
        List.mem_map.mpr ⟨e, he, (List.mem_singleton.mp hnew).trans hid.symm⟩
      exact absurd hgone (h.distinct.not_gone (List.mem_map_of_mem hs))
  · exact hc

theorem Sound.restore (h : Sound closed g) {id : SessionId} {t' : Topic} {o : Option Interest}
    {b : Bus} (hb : g.bus.restore id t' o = .ok b) : Sound closed { g with bus := b } := by
  obtain ⟨hids, hgone⟩ := Bus.ids_restore hb
  refine ⟨?_, ?_, h.idle⟩
  · show b.ids.Nodup
    exact hids ▸ h.distinct
  · intro id' hid
    show id' ∈ b.goneTable.map (·.1)
    exact hgone ▸ h.gone id' hid

theorem Sound.subscribe (h : Sound closed g) (id : SessionId) (t' : Topic) (p' : Protocol)
    (keys : KeySet) : Sound closed (g.subscribe id t' p' keys).1 := by
  apply subscribe_induction (P := Sound closed)
  case restored =>
    exact fun g id i b hb h => (h.restore hb).steady (steady_reconcile { g with bus := b } t' p')
  case tracked =>
    intro g keys h
    refine ⟨h.distinct, h.gone, ?_⟩
    intro hr
    simp only [Recorder.isRecording_track] at hr
    rw [Recorder.track_of_not (.inl hr)]
    exact h.idle hr
  case hg => exact h

theorem Sound.unsubscribe (h : Sound closed g) (id : SessionId) (t : Topic) (p : Protocol) :
    Sound closed (g.unsubscribe id t p).1 := by
  rcases unsubscribe_cases g id t p with hsame | ⟨b, hb, hrec⟩
  · rw [hsame]
    exact h
  · rw [hrec]
    exact (h.restore hb).steady (steady_reconcile _ t p)

theorem Sound.releaseTopics (h : Sound closed g) (topics : List (Topic × Protocol)) :
    Sound closed (g.releaseTopics topics) :=
  releaseTopics_induction (fun g t p hg => hg.steady (steady_reconcile g t p)) h topics

/-- A recorder tracks what it likes while it records. -/
theorem Sound.start (h : Sound closed g) {r : Recorder}
    (hr : g.recorder.start? g.clock.wall g.activeInterests = some r) :
    Sound closed { g with recorder := r } := by
  obtain ⟨-, hrec, -⟩ := Recorder.start?_eq_some hr
  exact ⟨h.distinct, h.gone, fun hidle => absurd (hrec.symm.trans hidle) (by decide)⟩

/-- A recorder that stops tracks nothing. -/
theorem Sound.stop (h : Sound closed g) {r : Recorder} {tracked : SortedMap Topic Interest}
    (hr : g.recorder.stop? g.clock.wall = some (r, tracked)) :
    Sound closed { g with recorder := r } := by
  obtain ⟨-, hempty, -⟩ := Recorder.stop?_eq_some hr
  exact ⟨h.distinct, h.gone, fun _ => hempty⟩

theorem Sound.startRecording (h : Sound closed g) : Sound closed g.startRecording.1 := by
  rcases startRecording_cases g with hsame | ⟨r, hr, hcalm⟩
  · rw [hsame]
    exact h
  · exact (h.start hr).steady hcalm.toSteady

theorem Sound.stopRecording (h : Sound closed g) : Sound closed g.stopRecording.1 := by
  rcases stopRecording_cases g with hsame | ⟨r, tracked, hr, hcalm⟩
  · rw [hsame]
    exact h
  · exact ((h.stop hr).releaseTopics _).steady hcalm.toSteady

/-! ## Runs -/

/-- Every operation keeps the books in order. -/
theorem Sound.step {w : World} (h : Sound w.closed w.gateway) {op : Op} (hop : w.Admits op) :
    Sound (w.step op).closed (w.step op).gateway := by
  by_cases hc : op.isCalm = true
  · show Sound (w.closedAfter op) (op.act w.gateway)
    rw [w.closedAfter_of_calm hc]
    exact h.steady (Op.calm_act hc w.gateway).toSteady
  cases op with
  | openSession id => exact h.openSession hop
  | closeSession id => exact h.closeSession id
  | cleanUp t p => exact h.releaseTopics [(t, p)]
  | subscribe id t p keys => exact h.subscribe id t p keys
  | unsubscribe id t p => exact h.unsubscribe id t p
  | releaseTopics topics => exact h.releaseTopics topics
  | startRecording => exact h.startRecording
  | stopRecording => exact h.stopRecording
  | _ => exact absurd rfl hc

theorem sound_fresh (h : Fresh g) : Sound [] g := by
  refine ⟨?_, fun id hid => absurd hid List.not_mem_nil, fun _ => h.tracked⟩
  show ((g.bus.sessions.map Session.entry ++ g.bus.departed.map Session.entry).map (·.1)).Nodup
  rw [h.sessions, h.departed]
  exact List.nodup_nil

/-- The books are in order after every run. -/
theorem sound_run (r : Run) : Sound r.world.closed r.gateway :=
  r.induction (P := fun w => Sound w.closed w.gateway) (K := fun _ => True)
    (fun _ hg => sound_fresh hg) (fun _ _ h hop _ => h.step hop) fun _ _ => trivial

/-! ## What pointing adapters relies on -/

/-- What pointing an adapter at a topic relies on. -/
structure Ready (closed : List SessionId) (t : Topic) (g : Gateway) : Prop where
  routed : g.WellRouted
  sound : Sound closed g
  tracking : ∀ i, g.recorder.tracked.get? t = some i → i.sensors.isEmpty = false

variable {t : Topic}

/-- Where no topic is tracked without sensors there is always something to tell the adapter. -/
theorem isSome_pointingCall_of_tracking
    (h : ∀ i, g.recorder.tracked.get? t = some i → i.sensors.isEmpty = false) :
    (g.pointingCall t).isSome := by
  cases hw : (g.wanted t).isEmpty with
  | false => exact isSome_pointingCall hw
  | true =>
    cases ht : g.recorder.tracked.get? t with
    | none => simp [pointingCall, hw, Recorder.isTracking, SortedMap.contains, ht]
    | some i =>
      have hne := isEmpty_wanted_of_mem (h i ht) (mem_wanted_of_tracked ht)
      rw [hw] at hne
      cases hne

theorem Ready.steady (h : Ready closed t g) (hs : Steady g g') :
    Ready closed t g' where
  routed := hs.wellRouted h.routed
  sound := h.sound.steady hs
  tracking i hi := h.tracking i (hs.tracked ▸ hi)

theorem Ready.reconcile (h : Ready closed t g) (t' : Topic) (p' : Protocol) :
    Ready closed t (g.reconcile t' p').1 := h.steady (steady_reconcile g t' p')

theorem Ready.restore (h : Ready closed t g) {id : SessionId} {t' : Topic} {o : Option Interest}
    {b : Bus} (hb : g.bus.restore id t' o = .ok b) : Ready closed t { g with bus := b } :=
  ⟨h.routed.of_same rfl rfl, h.sound.restore hb, h.tracking⟩

theorem ready_run (r : Run) (t : Topic) : Ready r.world.closed t r.gateway := by
  have hserved := served_run_always r
  exact ⟨hserved.routed, sound_run r, fun _ => hserved.tracking⟩

end SensorGateway.Gateway
