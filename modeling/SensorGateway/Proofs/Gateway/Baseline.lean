/-
# SensorGateway.Proofs.Gateway.Baseline -- a recording begins with everything that is watched

A recording that starts asks the adapter of each active topic for all values that it watches. So
the buffer begins with one block of records for each topic (`Gateway.baseline_is_complete`): in
the order of the topics, and in each block the watched sensors in the order of the settings,
with the values that they have. Whoever asks for a sensor under the family that is asked finds
it there.

What an adapter watches is settled before the start, by `Gateway.Served`, and asking it for values
changes nothing at the adapters (`Gateway.Emits`). So it does not matter which sessions are
evicted while the first blocks are handed out: the later blocks are what they were going to be.
Topics that are asked for under several families are asked under one of them only, and nothing
is said about those who ask under another one.
-/
import SensorGateway.Proofs.Gateway.Echo
import SensorGateway.Proofs.Gateway.Parts

namespace SensorGateway.Gateway

variable {g g' : Gateway} {t : Topic} {p : Protocol}

/-! ## What is in memory -/

/-- The object of a topic in the memory of the adapter that serves the topic's family. -/
def objectOn? (g : Gateway) (t : Topic) (p : Protocol) : Option Adapter.MemoryObject :=
  match g.adapterOn? t p with
  | some (.loopback l) => l.objects.get? t.object
  | _ => none

theorem objectOn?_of_loopback {n : Nat} {l : Adapter.Loopback}
    (hn : g.routes.get? ⟨t.server, p⟩ = some n) (hl : g.adapters[n]? = some (.loopback l)) :
    g.objectOn? t p = l.objects.get? t.object := by
  unfold objectOn? adapterOn?
  rw [hn, Option.bind_some, hl]

theorem objectOn?_of_none (hn : g.routes.get? ⟨t.server, p⟩ = none) :
    g.objectOn? t p = none := by
  unfold objectOn? adapterOn?
  rw [hn]
  rfl

/-- The sensors of that object in the order of the settings. -/
def sensorsInMemory (g : Gateway) (t : Topic) (p : Protocol) : List Adapter.MemorySensor :=
  ((g.objectOn? t p).map (·.sensors)).getD []

/-- Those of them that the adapter watches, in the same order. -/
def watchedSensors (g : Gateway) (t : Topic) (p : Protocol) : List Adapter.MemorySensor :=
  match g.objectOn? t p with
  | some ob => ob.sensors.filter (·.isWatched ob.watched)
  | none => []

/-- The values of the watched sensors of a topic, as an adapter tells them. -/
def readings (g : Gateway) (t : Topic) (p : Protocol) : List Update :=
  (g.watchedSensors t p).map fun x => g.written t x x.value

/-- Adapters and the time of day are what they were. -/
structure Still (g g' : Gateway) : Prop where
  adapters : g'.adapters = g.adapters
  routes : g'.routes = g.routes
  wall : g'.clock.wall = g.clock.wall

theorem Still.refl (g : Gateway) : Still g g := ⟨rfl, rfl, rfl⟩

theorem Still.trans {a b c : Gateway} (h : Still a b) (h' : Still b c) : Still a c :=
  ⟨h'.adapters.trans h.adapters, h'.routes.trans h.routes, h'.wall.trans h.wall⟩

theorem Still.readings (h : Still g g') (t : Topic) (p : Protocol) :
    g'.readings t p = g.readings t p := by
  unfold Gateway.readings Gateway.watchedSensors objectOn? adapterOn? written
  rw [h.adapters, h.routes, h.wall]

theorem Still.stocked (h : Still g g') (hg : g.Stocked) : g'.Stocked := by
  intro server p n hn
  rw [h.routes] at hn
  obtain ⟨l, hl, hrest⟩ := hg server p n hn
  exact ⟨l, h.adapters ▸ hl, hrest⟩

/-! ## Asking for all values -/

/-- Some updates were handed on, and are recorded if anything is. -/
structure Emits (g g' : Gateway) (us : List Update) : Prop extends Still g g' where
  recorder : g'.recorder = if g.recorder.isRecording then us.foldl Recorder.append g.recorder
    else g.recorder

theorem Emits.isRecording {us : List Update} (h : Emits g g' us) :
    g'.recorder.isRecording = g.recorder.isRecording := by
  rw [h.recorder]
  split
  · exact (Recorder.tracked_foldl_append us g.recorder).2
  · rfl

theorem Emits.nothing (h : Still g g') (hr : g'.recorder = g.recorder) : Emits g g' [] :=
  ⟨h, by rw [hr]; exact (ite_self _).symm⟩

theorem Emits.trans {a b c : Gateway} {us vs : List Update} (h : Emits a b us)
    (h' : Emits b c vs) : Emits a c (us ++ vs) := by
  refine ⟨h.toStill.trans h'.toStill, ?_⟩
  rw [h'.recorder, h.isRecording, h.recorder]
  cases a.recorder.isRecording with
  | true => exact (List.foldl_append ..).symm
  | false => rfl

theorem emits_publishFrom (g : Gateway) (b : Batch) : Emits g (g.publishFrom b).1 b.updates := by
  unfold publishFrom
  split
  · next hempty =>
    rw [List.isEmpty_iff.mp hempty]
    exact .nothing (.refl g) rfl
  · refine ⟨⟨rfl, rfl, rfl⟩, ?_⟩
    show (g.recorder.recordBatch b).1 = _
    unfold Recorder.recordBatch
    split <;> rfl

/-- An adapter that holds objects in memory tells the values of the sensors that it watches. -/
theorem emits_request (hg : g.Stocked) (t : Topic) (p : Protocol) :
    Emits g (g.request t p (.forceEmit t.object)).1 (g.readings t p) := by
  rcases request_cases g t p (.forceEmit t.object) with ⟨hn, hsame, -⟩ | ⟨n, hn, hcall, -⟩
  · have hnone : g.readings t p = [] := by
      unfold readings watchedSensors
      rw [objectOn?_of_none hn]
      rfl
    rw [hsame, hnone]
    exact .nothing (.refl g) rfl
  obtain ⟨l, hl, hserver, hprotocol⟩ := hg t.server p n hn
  have hset : g.adapters.set n (.loopback l) = g.adapters := by
    obtain ⟨hlt, heq⟩ := List.getElem?_eq_some_iff.mp hl
    rw [← heq, List.set_getElem_self]
  rw [hcall, call_eq hl]
  unfold readings watchedSensors
  rw [objectOn?_of_loopback hn hl]
  cases hob : l.objects.get? t.object with
  | none =>
    have hask : (Adapter.loopback l).ask g.clock.wall (.forceEmit t.object) =
        ⟨.loopback l, .error (.unknownObject t.object), [], 0⟩ := by
      simp only [Adapter.ask, Adapter.Loopback.perform, Adapter.Call.object, hob]
    rw [hask]
    exact .nothing ⟨hset, rfl, rfl⟩ rfl
  | some ob =>
    let b := l.batch g.clock.wall t.object (ob.sensors.filter (·.isWatched ob.watched))
    have hask : (Adapter.loopback l).ask g.clock.wall (.forceEmit t.object) =
        ⟨.loopback l, .ok (), [b], 0⟩ := by
      simp only [Adapter.ask, Adapter.Loopback.perform, Adapter.Call.object, hob]
      rfl
    have hupdates : b.updates =
        (ob.sensors.filter (·.isWatched ob.watched)).map fun x => g.written t x x.value := by
      unfold written
      rw [← hserver]
      rfl
    rw [hask]
    show Emits g ((g.noting n _ _).publishFrom b).1 _
    rw [← hupdates]
    have hnoted : Emits g (g.noting n (.forceEmit t.object) ⟨.loopback l, .ok (), [b], 0⟩) [] :=
      .nothing ⟨hset, rfl, rfl⟩ rfl
    exact hnoted.trans (emits_publishFrom _ b)

/-- Asking one adapter after the other. -/
theorem emits_captureBaseline (hg : g.Stocked) (topics : List (Topic × Interest)) :
    Emits g (g.captureBaseline topics)
      (topics.flatMap fun e => g.readings e.1 e.2.protocol) := by
  unfold captureBaseline
  induction topics generalizing g with
  | nil => exact .nothing (.refl g) rfl
  | cons e rest ih =>
    have hfirst := emits_request hg e.1 e.2.protocol
    have hrest := ih (hfirst.toStill.stocked hg)
    simp only [hfirst.toStill.readings] at hrest
    exact hfirst.trans hrest

/-! ## The law of baselines -/

/-- The records of all values that are watched on active topics, topic by topic. -/
def baseline (g : Gateway) : List Record :=
  g.bus.activeTopics.toList.flatMap fun e =>
    (g.readings e.1 e.2).map (Record.ofUpdate · g.clock.wall)

/-- What a recording that starts has got when the start is over. -/
structure CapturesAll (origin g g' : Gateway) : Prop where
  isRecording : g'.recorder.isRecording = true
  /-- The buffer is one block of records for each active topic. -/
  records : g'.recorder.records = g.baseline
  /-- Active topics are those that some session asks for, in their order. -/
  active : ∀ t, t ∈ g.bus.activeTopics.keys ↔ ∃ id i, g.bus.Asks id t i
  ordered : g.bus.activeTopics.keys.Pairwise (compare · · = .lt)
  /-- A block lists sensors of the topic's object in the order of the settings. -/
  block : ∀ t p, ∃ keys : KeySet,
    g.watchedSensors t p = (g.sensorsInMemory t p).filter (·.isWatched keys)
  settings : ∀ t p, (g.sensorsInMemory t p).map (fun x => (x.number, x.name)) =
    (origin.sensorsInMemory t p).map fun x => (x.number, x.name)
  /-- Whoever asks under the family of a block finds all sensors there that its keys address. -/
  complete : ∀ t p id i x, g.bus.activeTopics.get? t = some p → g.bus.Asks id t i →
    i.protocol = p → x ∈ g.sensorsInMemory t p →
    i.sensors.addresses x.number x.name = true → x ∈ g.watchedSensors t p
  /-- That is everybody who asks for the topic, if all do so under one family. -/
  alone : ∀ t p, (∃ id i, g.bus.Asks id t i) → (∀ id i, g.bus.Asks id t i → i.protocol = p) →
    g.bus.activeTopics.get? t = some p
  /-- All keys that sessions ask for are tracked. -/
  tracked : ∀ t, (∃ id i, g.bus.Asks id t i) → ∃ keys, g'.recorder.sensorsOn? t = some keys ∧
    ∀ k, k ∈ keys ↔ ∃ id i, g.bus.Asks id t i ∧ k ∈ i.sensors

theorem baseline_eq (g : Gateway) : g.baseline =
    (g.activeInterests.toList.flatMap fun e => g.readings e.1 e.2.protocol).map
      (Record.ofUpdate · g.clock.wall) := by
  unfold baseline activeInterests SortedMap.mapValues
  rw [List.map_flatMap, List.flatMap_map]

/-- A recording that starts has room for its baseline, so that is what the buffer holds. -/
theorem records_startRecording (hg : g.Stocked) (hidle : g.recorder.isRecording = false)
    (hroom : g.recorder.maxRecords = 0 ∨ g.baseline.length ≤ g.recorder.maxRecords.toNat) :
    g.startRecording.1.recorder.records = g.baseline ∧
      g.startRecording.1.recorder.isRecording = true ∧
      g.startRecording.1.recorder.tracked = g.activeInterests := by
  let started : Recorder := { g.recorder.clear with
    isRecording := true, startedAt := some g.clock.wall, stoppedAt := none
    tracked := g.activeInterests }
  have hstart : g.recorder.start? g.clock.wall g.activeInterests = some started :=
    if_neg (by simp [hidle])
  let us := g.activeInterests.toList.flatMap fun e => g.readings e.1 e.2.protocol
  have hemits : Emits { g with recorder := started }
      ({ g with recorder := started }.captureBaseline g.activeInterests.toList) us :=
    emits_captureBaseline (g := { g with recorder := started }) hg g.activeInterests.toList
  have hrecorder : g.startRecording.1.recorder = us.foldl Recorder.append started := by
    unfold startRecording
    rw [hstart]
    exact hemits.recorder
  have hempty : Recorder.Holds g.recorder.maxRecords [] started :=
    (Recorder.holds_clear g.recorder).congr rfl rfl
  have hholds := hempty.foldl_append us
  rw [← hrecorder, List.nil_append] at hholds
  have hrows : Log.rows us = g.baseline := by
    rw [baseline_eq]
    apply Log.rows_of_one_moment
    intro u hu
    obtain ⟨e, -, hu⟩ := List.mem_flatMap.mp hu
    obtain ⟨x, -, rfl⟩ := List.mem_map.mp hu
    rfl
  refine ⟨?_, ?_, ?_⟩
  · rw [hholds.records, hrows]
    exact Log.lastOf_eq_self (hroom.imp_left fun h => by rw [h]; rfl)
  · rw [hrecorder]
    exact (Recorder.tracked_foldl_append us started).2
  · rw [hrecorder]
    exact (Recorder.tracked_foldl_append us started).1

/-- The sensors in memory after a run are those of the settings. -/
theorem labels_sensorsInMemory (r : Run) (hmore : ∀ i ∈ r.more, i.InMemory) (t : Topic)
    (p : Protocol) :
    (r.gateway.sensorsInMemory t p).map (fun x => (x.number, x.name)) =
      ((assemble r.config r.clock r.more).sensorsInMemory t p).map
        fun x => (x.number, x.name) := by
  have hroutes : r.gateway.routes = (assemble r.config r.clock r.more).routes :=
    ((callInductive_descends _).after r.ops (descends_refl _)).1
  have hlabels {g : Gateway} {n : Nat} {l : Adapter.Loopback}
      (hn : g.routes.get? ⟨t.server, p⟩ = some n) (hl : g.adapters[n]? = some (.loopback l)) :
      (g.sensorsInMemory t p).map (fun x => (x.number, x.name)) =
        (l.labels t.object).getD [] := by
    unfold sensorsInMemory Adapter.Loopback.labels
    rw [objectOn?_of_loopback hn hl]
    cases l.objects.get? t.object <;> rfl
  cases hn : r.gateway.routes.get? ⟨t.server, p⟩ with
  | some n =>
    obtain ⟨l₀, l, hl₀, hl, -, -, hsame⟩ := r.inMemory hmore hn
    rw [hlabels hn hl, hlabels (hroutes ▸ hn) hl₀, hsame]
  | none =>
    unfold sensorsInMemory
    rw [objectOn?_of_none hn, objectOn?_of_none (hroutes ▸ hn)]

/-- The adapter watches what was asked for, and so the sensors that the keys address. -/
theorem mem_watchedSensors_of_asks (r : Run) {id : SessionId} {i : Interest}
    (ha : r.gateway.bus.Asks id t i) {x : Adapter.MemorySensor}
    (hx : x ∈ r.gateway.sensorsInMemory t i.protocol)
    (haddresses : i.sensors.addresses x.number x.name = true) :
    x ∈ r.gateway.watchedSensors t i.protocol := by
  have hwatches := (served_run_always r).covered ha
  unfold sensorsInMemory at hx
  unfold watchedSensors
  cases hob : r.gateway.objectOn? t i.protocol with
  | none =>
    rw [hob] at hx
    cases hx
  | some ob =>
    rw [hob] at hx
    refine List.mem_filter.mpr ⟨hx, ?_⟩
    unfold objectOn? at hob
    split at hob
    · next l hon => exact hwatches.addresses r.faithful_gateway hon hob haddresses
    · cases hob

/-- **A recording begins with everything that is watched.** After any run of a gateway whose
adapters all hold objects in memory, a recording that starts, with room for the values of all
watched sensors of active topics, has got just these values when the start is over: a block for
each topic that some session asks for, in the order of the topics. The sensors that a session asks
for under the family of the block are all there, whoever is evicted meanwhile. -/
theorem baseline_is_complete (r : Run) (hmore : ∀ i ∈ r.more, i.InMemory)
    (hidle : r.gateway.recorder.isRecording = false)
    (hroom : r.config.recording.maxRecords = 0 ∨
      r.gateway.baseline.length ≤ r.config.recording.maxRecords.toNat) :
    CapturesAll (assemble r.config r.clock r.more) r.gateway r.gateway.startRecording.1 := by
  rw [← r.maxRecords] at hroom
  obtain ⟨hrecords, hrecording, htracked⟩ :=
    records_startRecording (r.stocked hmore) hidle hroom
  constructor
  case isRecording => exact hrecording
  case records => exact hrecords
  case active => exact fun _ => SortedMap.mem_keys_iff.trans Bus.isSome_activeTopics_iff
  case ordered => exact List.pairwise_map.mpr r.gateway.bus.activeTopics.increasing
  case block =>
    intro t p
    unfold watchedSensors sensorsInMemory
    cases r.gateway.objectOn? t p with
    | none => exact ⟨.empty, rfl⟩
    | some ob => exact ⟨ob.watched, rfl⟩
  case settings => exact labels_sensorsInMemory r hmore
  case complete =>
    rintro t p id i x - ha rfl hx haddresses
    exact mem_watchedSensors_of_asks r ha hx haddresses
  case alone =>
    intro t p hasked hfamily
    obtain ⟨q, hq⟩ := Option.isSome_iff_exists.mp (Bus.isSome_activeTopics_iff.mpr hasked)
    obtain ⟨id, i, ha, rfl⟩ := Bus.asks_of_activeTopics hq
    rw [hq, hfamily id i ha]
  case tracked =>
    intro t hasked
    obtain ⟨p, hp⟩ := Option.isSome_iff_exists.mp (Bus.isSome_activeTopics_iff.mpr hasked)
    refine ⟨r.gateway.bus.sensorsOn t, ?_, fun k => Bus.mem_sensorsOn⟩
    unfold Recorder.sensorsOn?
    rw [htracked, activeInterests, SortedMap.get?_mapValues, hp]
    rfl

/-- Two objects, the second one with two sensors. -/
def cellar : Run where
  config := {
    servers := [{
      id := some "plant"
      url := "http://plant"
      loopback := [⟨"boiler", .modbus, [⟨some 7, "heat", .int 60⟩, ⟨some 8, "flow", .int 2⟩]⟩,
        ⟨"tank", .ionc, [⟨some 1, "level", .int 5⟩, ⟨some 2, "lid", .bool true⟩]⟩] }]
    sessions := { channelCapacity := 1 } }
  clock := ⟨⟨0, 0⟩, 0⟩
  more := []
  ops := [.openSession ⟨1⟩, .subscribe ⟨1⟩ ⟨"plant", "tank"⟩ .ionc (.ofList [.name "lid", .id 1]),
    .receive ⟨1⟩ 1, .subscribe ⟨1⟩ ⟨"plant", "boiler"⟩ .modbus (.ofList [.id 7])]
  admissible := by decide

/-- The only session has not read yet what the boiler told it. So it is evicted when the boiler
tells its values again, and the tank is recorded nevertheless. -/
theorem cellar_baseline :
    let g := cellar.gateway
    let g' := g.startRecording.1
    g'.recorder.records.map (fun row => (row.object, row.variableName, row.value)) =
        [("boiler", "heat", .int 60), ("tank", "level", .int 5), ("tank", "lid", .bool true)] ∧
      g'.bus.sessions = [] ∧ g'.bus.departed.length = 1 ∧
      CapturesAll (assemble cellar.config cellar.clock cellar.more) g g' := by
  intro g g'
  have hall := baseline_is_complete cellar (by simp [cellar]) (by decide) (.inr (by decide))
  refine ⟨?_, by decide, by decide, hall⟩
  rw [hall.records]
  decide

end SensorGateway.Gateway
