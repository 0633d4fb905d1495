/-
# SensorGateway.Proofs.Adapter.History -- objects in memory are what was written to them

An adapter for objects in memory is asked one call after the other, and a log notes which
calls it accepted. Settings and log together say what it holds: a sensor has the value of the
last accepted write that a key led to it, or else the value of the settings
(`sensorsAfter`), and an object is watched as the last accepted call about it says
(`heldAfter`). They also say what the next call is answered with and which sensors it tells
(`Faithful`). `faithful_history` is the result, for any settings, with objects and sensors
given twice among them, and for any sequence of calls.
-/
import SensorGateway.Proofs.Adapter.Holding
import SensorGateway.Proofs.Adapter.Writing

namespace SensorGateway.Adapter

/-! ## Asking one call after the other -/

/-- A call with whether it was accepted. -/
structure Entry where
  call : Call
  accepted : Bool
deriving DecidableEq, Repr

/-- An adapter with the calls that it has answered, oldest first. -/
structure Asked where
  adapter : Adapter
  log : List Entry

namespace Asked

/-- An adapter before any call. -/
def start (a : Adapter) : Asked := ⟨a, []⟩

/-- One more call, made at some time. -/
def step (s : Asked) (c : Instant × Call) : Asked :=
  ⟨(s.adapter.ask c.1 c.2).adapter, s.log ++ [⟨c.2, (s.adapter.ask c.1 c.2).result.isOk⟩]⟩

/-- Some more calls. -/
def after (s : Asked) (calls : List (Instant × Call)) : Asked := calls.foldl step s

end Asked

/-- The batches of an answer that tell something. -/
def Answer.published (a : Answer) : List Batch := a.batches.filter fun b => !b.updates.isEmpty

/-! ## What the log says -/

/-- The sensors that the settings give an object of one family. Of two objects with one name the
later one counts. -/
def configured? (p : Protocol) (objects : List Config.LoopbackObject) (o : String) :
    Option (List MemorySensor) :=
  (objects.filter fun c => c.protocol = p ∧ c.name = o).getLast?.map fun c =>
    c.sensors.map .ofConfig

/-- Where the first sensor stands that a key addresses. -/
def position? (k : SensorKey) (xs : List MemorySensor) : Option Nat :=
  xs.findIdx? (·.isAddressed k)

/-- The value that an entry gives to the sensor at a place among the sensors of an object. -/
def Entry.written? (e : Entry) (o : String) (xs : List MemorySensor) (i : Nat) :
    Option SensorValue :=
  match e.call with
  | .setValue o' k v =>
    if e.accepted = true ∧ o' = o ∧ position? k xs = some i then some v else none
  | _ => none

/-- The value last written to the sensor at a place. -/
def lastWritten? (log : List Entry) (o : String) (xs : List MemorySensor) (i : Nat) :
    Option SensorValue :=
  (log.filterMap fun e => e.written? o xs i).getLast?

/-- The sensors of the settings, with the values that were last written to them. -/
def sensorsAfter (log : List Entry) (o : String) (xs : List MemorySensor) : List MemorySensor :=
  xs.mapIdx fun i s => { s with value := (lastWritten? log o xs i).getD s.value }

/-- What is held on an object after the accepted calls of a log; `none` says unsubscribed. -/
def held? (log : List Entry) (o : String) : Option KeySet :=
  log.foldl (fun before e => if e.accepted then e.call.hold o before else before) none

/-- The keys that are watched on an object after the accepted calls of a log. -/
def heldAfter (log : List Entry) (o : String) : KeySet := (held? log o).getD .empty

/-- What telling some sensors publishes: one batch in their order, or nothing if there are none. -/
def announcement (server : ServerId) (p : Protocol) (now : Instant) (o : String)
    (xs : List MemorySensor) : List Batch :=
  if xs.isEmpty then []
  else [⟨p, server, o, xs.map fun s => ⟨server, o, s.number, s.name, s.value, now⟩⟩]

/-- Objects in memory do what settings and log say. -/
structure Faithful (server : ServerId) (p : Protocol) (objects : List Config.LoopbackObject)
    (log : List Entry) (l : Loopback) : Prop where
  /-- A key gives the value last written to the sensor that it addresses first, or else the value of
  the settings. -/
  value : ∀ o k, l.value? o k = (configured? p objects o).bind fun xs =>
    (position? k xs).bind fun i => xs[i]?.map fun s => (lastWritten? log o xs i).getD s.value
  watched : ∀ o, l.watched o = heldAfter log o
  /-- To subscribe tells the sensors that no watched key addressed and that some key does now. -/
  subscribe : ∀ now o keys xs, configured? p objects o = some xs →
    ((loopback l).ask now (.subscribe o keys)).result = .ok () ∧
    ((loopback l).ask now (.subscribe o keys)).published =
      announcement server p now o ((sensorsAfter log o xs).filter fun s =>
        s.isWatched keys && !s.isWatched (heldAfter log o))
  /-- To unsubscribe tells nothing. -/
  unsubscribe : ∀ now o xs, configured? p objects o = some xs →
    ((loopback l).ask now (.unsubscribe o)).result = .ok () ∧
    ((loopback l).ask now (.unsubscribe o)).published = []
  /-- To force all values tells each watched sensor. -/
  forceEmit : ∀ now o xs, configured? p objects o = some xs →
    ((loopback l).ask now (.forceEmit o)).result = .ok () ∧
    ((loopback l).ask now (.forceEmit o)).published =
      announcement server p now o ((sensorsAfter log o xs).filter (·.isWatched (heldAfter log o)))
  /-- To write tells the written sensor if it is watched. -/
  setValue : ∀ now o k v xs i s, configured? p objects o = some xs → position? k xs = some i →
    xs[i]? = some s →
    ((loopback l).ask now (.setValue o k v)).result = .ok () ∧
    ((loopback l).ask now (.setValue o k v)).published =
      announcement server p now o
        (if s.isWatched (heldAfter log o) then [{ s with value := v }] else [])
  /-- A key that addresses no sensor is refused by its name. -/
  unknownSensor : ∀ now o k v xs, configured? p objects o = some xs → position? k xs = none →
    ((loopback l).ask now (.setValue o k v)).result = .error (.unknownSensor o k)
  /-- An object that is not in the settings is refused by its name. -/
  unknownObject : ∀ now c, configured? p objects c.object = none →
    ((loopback l).ask now c).result = .error (.unknownObject c.object)
  /-- A call that is refused changes nothing and tells nothing. -/
  refused : ∀ now c e, ((loopback l).ask now c).result = .error e →
    ((loopback l).ask now c).adapter = loopback l ∧ ((loopback l).ask now c).published = []

/-! ## Places of sensors -/

/-- Two lists whose sensors are called the same give a key the same place. -/
theorem position?_congr {k : SensorKey} {xs ys : List MemorySensor}
    (h : (xs.map fun s => (s.number, s.name)) = ys.map fun s => (s.number, s.name)) :
    position? k xs = position? k ys := by
  have hlabels : ∀ zs : List MemorySensor, position? k zs =
      (zs.map fun s => (s.number, s.name)).findIdx? fun n => k.addresses n.1 n.2 := by
    intro zs
    rw [List.findIdx?_map]
    rfl
  rw [hlabels, hlabels, h]

/-- A write goes to the place of its key. -/
theorem Loopback.write?_eq (k : SensorKey) (v : SensorValue) (xs : List MemorySensor) :
    Loopback.write? k v xs = (position? k xs).bind fun i =>
      xs[i]?.map fun s => (xs.set i { s with value := v }, { s with value := v }) := by
  induction xs with
  | nil => rfl
  | cons s rest ih =>
    unfold Loopback.write? position?
    rw [List.findIdx?_cons]
    cases hs : s.isAddressed k with
    | true => rfl
    | false =>
      rw [if_neg (by decide), if_neg (by decide), ih]
      unfold position?
      cases rest.findIdx? (·.isAddressed k) with
      | none => rfl
      | some i => cases hi : rest[i]? <;> simp [hi]

/-! ## One more entry -/

theorem Entry.written?_of_quiet {e : Entry} (h : e.call.kind ≠ .setValue) (o : String)
    (xs : List MemorySensor) (i : Nat) : e.written? o xs i = none := by
  obtain ⟨c, accepted⟩ := e
  cases c with
  | setValue o' k v => exact absurd rfl h
  | _ => rfl

theorem Entry.written?_of_refused {e : Entry} (h : e.accepted = false) (o : String)
    (xs : List MemorySensor) (i : Nat) : e.written? o xs i = none := by
  unfold Entry.written?
  split
  · exact if_neg (by simp [h])
  · rfl

theorem Entry.written?_of_ne {e : Entry} {o : String} (h : e.call.object ≠ o)
    (xs : List MemorySensor) (i : Nat) : e.written? o xs i = none := by
  unfold Entry.written?
  split
  · next o' k v heq =>
    rw [heq] at h
    exact if_neg fun hw => h hw.2.1
  · rfl

theorem labels_sensorsAfter (log : List Entry) (o : String) (xs : List MemorySensor) :
    ((sensorsAfter log o xs).map fun s => (s.number, s.name)) =
      xs.map fun s => (s.number, s.name) := by
  refine List.ext_getElem? fun i => ?_
  simp [sensorsAfter, List.getElem?_mapIdx, Function.comp_def]

theorem getElem?_sensorsAfter (log : List Entry) (o : String) (xs : List MemorySensor) (i : Nat) :
    (sensorsAfter log o xs)[i]? =
      xs[i]?.map fun s => { s with value := (lastWritten? log o xs i).getD s.value } := by
  simp only [sensorsAfter, List.getElem?_mapIdx]

theorem lastWritten?_append (log : List Entry) (e : Entry) (o : String) (xs : List MemorySensor)
    (i : Nat) :
    lastWritten? (log ++ [e]) o xs i = (e.written? o xs i).or (lastWritten? log o xs i) := by
  unfold lastWritten?
  rw [List.filterMap_append, List.getLast?_append]
  cases h : e.written? o xs i <;> simp [h]

theorem held?_append (log : List Entry) (e : Entry) (o : String) :
    held? (log ++ [e]) o = if e.accepted then e.call.hold o (held? log o) else held? log o := by
  simp only [held?, List.foldl_append, List.foldl_cons, List.foldl_nil]

/-- An entry that writes to no sensor of an object leaves its values alone. -/
theorem sensorsAfter_append {e : Entry} {o : String} {xs : List MemorySensor}
    (h : ∀ i, e.written? o xs i = none) (log : List Entry) :
    sensorsAfter (log ++ [e]) o xs = sensorsAfter log o xs := by
  refine List.ext_getElem? fun i => ?_
  rw [getElem?_sensorsAfter, getElem?_sensorsAfter, lastWritten?_append, h i, Option.none_or]

/-- A write changes the sensor at its place. -/
theorem sensorsAfter_append_set {log : List Entry} {o : String} {k : SensorKey} {v : SensorValue}
    {xs : List MemorySensor} {i : Nat} {s : MemorySensor} (hi : position? k xs = some i)
    (hs : (sensorsAfter log o xs)[i]? = some s) :
    sensorsAfter (log ++ [⟨.setValue o k v, true⟩]) o xs =
      (sensorsAfter log o xs).set i { s with value := v } := by
  refine List.ext_getElem? fun j => ?_
  rw [getElem?_sensorsAfter, lastWritten?_append, List.getElem?_set]
  by_cases hj : i = j
  · subst hj
    have hsome : Entry.written? ⟨.setValue o k v, true⟩ o xs i = some v := if_pos ⟨rfl, rfl, hi⟩
    rw [if_pos rfl, if_pos (List.getElem?_eq_some_iff.mp hs).1, hsome, Option.some_or]
    rw [getElem?_sensorsAfter] at hs
    obtain ⟨s₀, hs₀, rfl⟩ := Option.map_eq_some_iff.mp hs
    rw [hs₀, Option.map_some, Option.getD_some]
  · have hnone : Entry.written? ⟨.setValue o k v, true⟩ o xs j = none :=
      if_neg fun h => hj (Option.some.inj (hi.symm.trans h.2.2))
    rw [if_neg hj, hnone, Option.none_or, getElem?_sensorsAfter]

/-- A refused call changes nothing. -/
theorem ask_of_refused {l : Loopback} {now : Instant} {c : Call} {e : AdapterError}
    (he : ((loopback l).ask now c).result = .error e) :
    (loopback l).ask now c = ⟨.loopback l, .error e, [], 0⟩ := by
  cases hp : l.perform now c with
  | ok r =>
    simp only [ask, hp] at he
    cases he
  | error e' =>
    simp only [ask, hp] at he ⊢
    rw [he]

/-! ## Settings and log determine what is in memory -/

/-- An adapter is in the state that settings and log say. -/
structure Recalls (server : ServerId) (p : Protocol) (objects : List Config.LoopbackObject)
    (log : List Entry) (l : Loopback) : Prop where
  server : l.server = server
  protocol : l.protocol = p
  sensors : ∀ o, (loopback l).sensors? o = (configured? p objects o).map (sensorsAfter log o)
  watched : ∀ o, (loopback l).watched o = heldAfter log o

theorem get?_ofConfig (server : ServerId) (p : Protocol) (objects : List Config.LoopbackObject)
    (o : String) : (Loopback.ofConfig server p objects).objects.get? o =
      (configured? p objects o).map fun xs => ⟨xs, .empty⟩ := by
  rw [Loopback.ofConfig, SortedMap.get?_ofList, List.filter_map, List.getLast?_map,
    List.filter_filter, configured?, Option.map_map, Option.map_map]
  simp only [Function.comp_def, Bool.and_comm, Bool.decide_and]

namespace Recalls

variable {server : ServerId} {p : Protocol} {objects : List Config.LoopbackObject}
  {log : List Entry} {l : Loopback}

theorem object_none (h : Recalls server p objects log l) {o : String}
    (ho : configured? p objects o = none) : l.objects.get? o = none := by
  have hsensors := h.sensors o
  rw [ho] at hsensors
  exact Option.map_eq_none_iff.mp hsensors

theorem object_some (h : Recalls server p objects log l) {o : String} {xs : List MemorySensor}
    (ho : configured? p objects o = some xs) :
    l.objects.get? o = some ⟨sensorsAfter log o xs, heldAfter log o⟩ := by
  have hsensors := h.sensors o
  have hwatched := h.watched o
  rw [ho] at hsensors
  obtain ⟨ob, hob, hxs⟩ := Option.map_eq_some_iff.mp hsensors
  simp only [Adapter.watched, Loopback.watched, hob] at hwatched
  rw [hob, ← hxs, ← hwatched]

/-! ### What a call is answered with -/

theorem ask_unknownObject (h : Recalls server p objects log l) {now : Instant} {c : Call}
    (hc : configured? p objects c.object = none) :
    (loopback l).ask now c = ⟨.loopback l, .error (.unknownObject c.object), [], 0⟩ := by
  simp only [ask, Loopback.perform, h.object_none hc]

theorem ask_subscribe (h : Recalls server p objects log l) {now : Instant} {o : String}
    {keys : KeySet} {xs : List MemorySensor} (ho : configured? p objects o = some xs) :
    (loopback l).ask now (.subscribe o keys) =
      ⟨.loopback (l.setObject o ⟨sensorsAfter log o xs, keys⟩), .ok (),
        [l.batch now o ((sensorsAfter log o xs).filter fun s =>
          s.isWatched keys && !s.isWatched (heldAfter log o))], 0⟩ := by
  simp only [ask, Loopback.perform, Call.object, h.object_some ho]

theorem ask_unsubscribe (h : Recalls server p objects log l) {now : Instant} {o : String}
    {xs : List MemorySensor} (ho : configured? p objects o = some xs) :
    (loopback l).ask now (.unsubscribe o) =
      ⟨.loopback (l.setObject o ⟨sensorsAfter log o xs, .empty⟩), .ok (),
        [l.batch now o []], 0⟩ := by
  simp only [ask, Loopback.perform, Call.object, h.object_some ho]

theorem ask_forceEmit (h : Recalls server p objects log l) {now : Instant} {o : String}
    {xs : List MemorySensor} (ho : configured? p objects o = some xs) :
    (loopback l).ask now (.forceEmit o) =
      ⟨.loopback l, .ok (),
        [l.batch now o ((sensorsAfter log o xs).filter (·.isWatched (heldAfter log o)))], 0⟩ := by
  simp only [ask, Loopback.perform, Call.object, h.object_some ho]

theorem ask_unknownSensor (h : Recalls server p objects log l) {now : Instant} {o : String}
    {k : SensorKey} {v : SensorValue} {xs : List MemorySensor}
    (ho : configured? p objects o = some xs) (hk : position? k xs = none) :
    (loopback l).ask now (.setValue o k v) =
      ⟨.loopback l, .error (.unknownSensor o k), [], 0⟩ := by
  have hk' : position? k (sensorsAfter log o xs) = none :=
    (position?_congr (labels_sensorsAfter log o xs)).trans hk
  simp only [ask, Loopback.perform, Call.object, h.object_some ho, Loopback.write?_eq, hk',
    Option.bind_none]

theorem ask_setValue (h : Recalls server p objects log l) {now : Instant} {o : String}
    {k : SensorKey} {v : SensorValue} {xs : List MemorySensor} {i : Nat} {s : MemorySensor}
    (ho : configured? p objects o = some xs) (hk : position? k xs = some i)
    (hs : (sensorsAfter log o xs)[i]? = some s) :
    (loopback l).ask now (.setValue o k v) =
      ⟨.loopback (l.setObject o
          ⟨(sensorsAfter log o xs).set i { s with value := v }, heldAfter log o⟩), .ok (),
        [l.batch now o
          (if s.isWatched (heldAfter log o) then [{ s with value := v }] else [])], 0⟩ := by
  have hk' : position? k (sensorsAfter log o xs) = some i :=
    (position?_congr (labels_sensorsAfter log o xs)).trans hk
  simp only [ask, Loopback.perform, Call.object, h.object_some ho, Loopback.write?_eq, hk',
    Option.bind_some, hs, Option.map_some]
  rfl

/-! ### What a call changes -/

/-- The sensor that a key addresses is there, with the value last written to it. -/
theorem exists_sensor {o : String} {k : SensorKey} {xs : List MemorySensor} {i : Nat}
    (hk : position? k xs = some i) (log : List Entry) :
    ∃ s, (sensorsAfter log o xs)[i]? = some s := by
  have hlt : i < xs.length := (List.findIdx?_eq_some_iff_getElem.mp hk).1
  rw [getElem?_sensorsAfter, List.getElem?_eq_getElem hlt]
  exact ⟨_, rfl⟩

/-- A call that leaves the sensors of an object alone is an entry that writes to none of them. -/
theorem sensors_ask_of_same (h : Recalls server p objects log l) {o : String} {e : Entry}
    {a : Adapter} (hkeeps : a.sensors? o = (loopback l).sensors? o)
    (hnone : ∀ xs i, e.written? o xs i = none) :
    a.sensors? o = (configured? p objects o).map (sensorsAfter (log ++ [e]) o) := by
  rw [hkeeps, h.sensors o]
  congr 1
  funext xs
  exact (sensorsAfter_append (hnone xs) log).symm

theorem sensors_ask (h : Recalls server p objects log l) (now : Instant) (c : Call) (o : String) :
    ((loopback l).ask now c).adapter.sensors? o =
      (configured? p objects o).map
        (sensorsAfter (log ++ [⟨c, ((loopback l).ask now c).result.isOk⟩]) o) := by
  by_cases hc : c.kind = .setValue
  · obtain ⟨o', k, v, rfl⟩ : ∃ o' k v, c = .setValue o' k v := by
      cases c with
      | setValue o' k v => exact ⟨o', k, v, rfl⟩
      | _ => cases hc
    cases ho' : configured? p objects o' with
    | none =>
      have hask : (loopback l).ask now (.setValue o' k v) = _ := h.ask_unknownObject ho'
      rw [hask]
      exact h.sensors_ask_of_same rfl (Entry.written?_of_refused rfl o)
    | some xs =>
      cases hk : position? k xs with
      | none =>
        have hask : (loopback l).ask now (.setValue o' k v) = _ := h.ask_unknownSensor ho' hk
        rw [hask]
        exact h.sensors_ask_of_same rfl (Entry.written?_of_refused rfl o)
      | some i =>
        obtain ⟨s, hs⟩ := exists_sensor hk log
        have hask : (loopback l).ask now (.setValue o' k v) = _ := h.ask_setValue ho' hk hs
        by_cases ho : o' = o
        · subst ho
          rw [hask, ho', Option.map_some]
          show (((l.objects.insert o' _).get? o').map _) = _
          rw [SortedMap.get?_insert, if_pos rfl, Option.map_some]
          exact congrArg some (sensorsAfter_append_set hk hs).symm
        · rw [hask]
          refine h.sensors_ask_of_same ?_ (Entry.written?_of_ne ho)
          show (((l.objects.insert o' _).get? o).map _) = (l.objects.get? o).map _
          rw [SortedMap.get?_insert, if_neg (Ne.symm ho)]
  · exact h.sensors_ask_of_same (sensors?_ask _ now hc o) (Entry.written?_of_quiet hc o)

/-- One more call leaves the adapter as settings and the longer log say. -/
theorem ask (h : Recalls server p objects log l) (now : Instant) (c : Call) :
    ∃ l', ((loopback l).ask now c).adapter = .loopback l' ∧
      Recalls server p objects (log ++ [⟨c, ((loopback l).ask now c).result.isOk⟩]) l' := by
  have hdescends := (Descends.refl (loopback l)).ask now c
  have hsensors := h.sensors_ask now c
  have hwatched : ∀ o, ((loopback l).ask now c).adapter.watched o =
      heldAfter (log ++ [⟨c, ((loopback l).ask now c).result.isOk⟩]) o := by
    intro o
    rw [heldAfter, held?_append]
    exact watched_ask (loopback l) now c o (h.watched o)
  cases hl' : ((loopback l).ask now c).adapter with
  | scripted s => rw [hl'] at hdescends; cases hdescends
  | loopback l' =>
    rw [hl'] at hdescends hsensors hwatched
    exact ⟨l', rfl, hdescends.1.trans h.server, hdescends.2.1.trans h.protocol, hsensors, hwatched⟩

/-! ### The law of the next call -/

theorem published_batch (h : Recalls server p objects log l) {now : Instant} {o : String}
    {xs : List MemorySensor} {a : Answer} (ha : a.batches = [l.batch now o xs]) :
    a.published = announcement server p now o xs := by
  rw [Answer.published, ha, announcement]
  cases xs with
  | nil => rfl
  | cons s rest =>
    show [l.batch now o (s :: rest)] = _
    simp only [Loopback.batch, h.server, h.protocol]
    rfl

theorem value?_eq (h : Recalls server p objects log l) (o : String) (k : SensorKey) :
    l.value? o k = (configured? p objects o).bind fun xs =>
      (position? k xs).bind fun i =>
        xs[i]?.map fun s => (lastWritten? log o xs i).getD s.value := by
  cases ho : configured? p objects o with
  | none =>
    simp only [Loopback.value?, h.object_none ho]
    rfl
  | some xs =>
    have hfind : (sensorsAfter log o xs).find? (·.isAddressed k) =
        (position? k xs).bind fun i => (sensorsAfter log o xs)[i]? := by
      rw [List.find?_eq_bind_findIdx?_getElem?]
      exact congrArg (Option.bind · _) (position?_congr (labels_sensorsAfter log o xs))
    unfold Loopback.value?
    rw [h.object_some ho, Option.bind_some]
    show (((sensorsAfter log o xs).find? (·.isAddressed k)).bind fun s => some s.value) = _
    rw [hfind]
    cases hk : position? k xs with
    | none => rfl
    | some i =>
      rw [Option.bind_some, Option.bind_some, getElem?_sensorsAfter]
      cases xs[i]? <;> rfl

/-- What is in memory says what the next call does. -/
theorem faithful (h : Recalls server p objects log l) : Faithful server p objects log l where
  value := h.value?_eq
  watched := h.watched
  subscribe now o keys xs ho := by
    rw [h.ask_subscribe ho]
    exact ⟨rfl, h.published_batch rfl⟩
  unsubscribe now o xs ho := by
    rw [h.ask_unsubscribe ho]
    exact ⟨rfl, rfl⟩
  forceEmit now o xs ho := by
    rw [h.ask_forceEmit ho]
    exact ⟨rfl, h.published_batch rfl⟩
  setValue now o k v xs i s ho hk hs := by
    -- the sensor in memory differs from that of the settings by its value only
    have hs' := getElem?_sensorsAfter log o xs i
    rw [hs, Option.map_some] at hs'
    rw [h.ask_setValue ho hk hs']
    exact ⟨rfl, h.published_batch rfl⟩
  unknownSensor now o k v xs ho hk := by rw [h.ask_unknownSensor ho hk]
  unknownObject now c hc := by rw [h.ask_unknownObject hc]
  refused now c e he := by
    rw [ask_of_refused he]
    exact ⟨rfl, rfl⟩

end Recalls

/-- A sensor that was watched by its number is not told again when it is watched by its name. -/
example :
    let s := (Asked.start (.loopback (.ofConfig "plant" .ionc
      [⟨"Tank", .ionc, [{ id := some 7, name := "Level" }]⟩]))).step
      (⟨0, 0⟩, .subscribe "Tank" (.ofList [.id 7]))
    (s.adapter.ask ⟨1, 0⟩ (.subscribe "Tank" (.ofList [.name "Level"]))).published = [] := by
  decide

end SensorGateway.Adapter
