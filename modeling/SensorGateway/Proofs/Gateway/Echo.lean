/-
# SensorGateway.Proofs.Gateway.Echo -- a written value is told once

A value that is written to an object in memory is told by the adapter when it watches the
sensor, and handed on to the sessions that ask for it. So two decisions meet: the adapter
goes by the keys that it was pointed at, and the bus by the keys of each session.
`accepted_write_is_told_once` says that they agree: whoever asks for the sensor under the family
of the write is told once, nobody else is told, and a recording gets one record.

That the adapter watches enough is `Gateway.Served`, after any run; that it watches what it
accepted is `Gateway.Faithful`. What is told to one session is `Bus.place_deliver`.
-/
import SensorGateway.Proofs.Bus.Place
import SensorGateway.Proofs.Gateway.Memory
import SensorGateway.Proofs.Recorder.Log

namespace SensorGateway

/-! ## One update for one session -/

namespace Session

/-- A session gets the whole of a batch with one update, or nothing. -/
theorem share_single {b : Batch} {u : Update} (hb : b.updates = [u]) (s : Session) :
    s.share b = if (s.sensorsOn b.topic).addresses u.number u.name then some (.batch b) else none := by
  have hmatched : u.matchedBy (s.sensorsOn b.topic) =
      (s.sensorsOn b.topic).addresses u.number u.name := rfl
  unfold share Batch.scopedTo Batch.isEmpty
  cases ha : (s.sensorsOn b.topic).addresses u.number u.name with
  | true =>
    have hall : b.updates.filter (·.matchedBy (s.sensorsOn b.topic)) = b.updates := by
      simp [hb, hmatched, ha]
    simp only [hall]
    rw [if_neg (by simp [hb]), if_pos trivial]
  | false =>
    have hnone : b.updates.filter (·.matchedBy (s.sensorsOn b.topic)) = [] := by
      simp [hb, hmatched, ha]
    simp [hnone]

/-- An event waits behind the others, or the session is evicted: its channel is closed or full. -/
theorem place_tell (capacity : Nat) (e : Event) (s : Session) :
    (s.tell capacity (some e)).place =
        .registered { s with channel := ⟨s.channel.waiting ++ [e], true⟩ } ∨
      ((s.tell capacity (some e)).place = .departed s ∧
        (s.channel.isOpen = false ∨ capacity ≤ s.channel.waiting.length)) := by
  cases ho : s.channel.isOpen with
  | false =>
    right
    simp [tell, Channel.offer, Outcome.place, ho]
  | true =>
    by_cases hroom : s.channel.waiting.length < capacity
    · left
      simp [tell, Channel.offer, Outcome.place, ho, hroom]
    · right
      simp [tell, Channel.offer, Outcome.place, ho, hroom, Nat.le_of_not_lt hroom]

/-- The session asks for a sensor under a family, by its number or by its name. -/
def Wants (s : Session) (t : Topic) (p : Protocol) (x : Adapter.MemorySensor) : Prop :=
  ∃ i, s.subscriptions.get? t = some i ∧ i.protocol = p ∧
    i.sensors.addresses x.number x.name = true

end Session

/-! ## One update for the recorder -/

namespace Recorder

/-- One record for an update was put behind the others. The oldest record was dropped if the buffer
was full. -/
def AddsOne (r r' : Recorder) (u : Update) : Prop :=
  ∃ time lost, r'.records = r.records.drop lost ++ [Record.ofUpdate u time] ∧
    (lost = 0 ∨ (lost = 1 ∧ r.maxRecords ≠ 0 ∧ r.maxRecords.toNat ≤ r.records.length))

theorem addsOne_append (r : Recorder) (u : Update) : r.AddsOne (r.append u) u := by
  let time := stamp r.lastTime u.time
  have happend : r.append u = (r.grow u time).trim := rfl
  by_cases hfull : (r.grow u time).IsOverfull
  · obtain ⟨oldest, rest, hcons, htrim⟩ := trim_of_overfull hfull
    obtain ⟨hlimited, hlong⟩ := hfull
    have hlimited : r.maxRecords ≠ 0 := hlimited
    have hlong : r.maxRecords.toNat < (r.records ++ [Record.ofUpdate u time]).length := hlong
    have hcons : r.records ++ [Record.ofUpdate u time] = oldest :: rest := hcons
    rw [List.length_append, List.length_singleton] at hlong
    have hpos : 0 < r.maxRecords.toNat :=
      Nat.pos_of_ne_zero fun h => hlimited (UInt64.toNat_inj.mp h)
    refine ⟨time, 1, ?_, .inr ⟨rfl, hlimited, Nat.le_of_lt_succ hlong⟩⟩
    rw [happend, htrim]
    -- the buffer is not empty, so it is its own oldest record that is dropped
    cases hr : r.records with
    | nil =>
      rw [hr] at hlong
      exact absurd (Nat.lt_of_lt_of_le hpos (Nat.le_of_lt_succ hlong)) (Nat.lt_irrefl 0)
    | cons first others =>
      rw [hr] at hcons
      exact (List.cons.inj hcons).2.symm
  · refine ⟨time, 0, ?_, .inl rfl⟩
    rw [happend, trim_of_not_overfull hfull]
    rfl

/-- The recorder keeps a sensor, by its number or by its name. -/
def Keeps (r : Recorder) (t : Topic) (x : Adapter.MemorySensor) : Prop :=
  ∃ keys, r.sensorsOn? t = some keys ∧ keys.addresses x.number x.name = true

/-- An update is recorded at most once, and not at all without a recording. It is recorded if it is
needed. -/
structure RecordsOnce (r r' : Recorder) (u : Update) (needed : Prop) : Prop where
  idle : r.isRecording = false → r' = r
  atMost : r' = r ∨ r.AddsOne r' u
  once : r.isRecording = true → needed → r.AddsOne r' u

/-- An update that is told if it is needed is recorded once. -/
theorem recordsOnce_of_watched {r r' : Recorder} {b : Batch} {u : Update} {needed : Prop}
    {watched : Bool} (hb : b.updates = [u])
    (hr : r' = if watched then (r.recordBatch b).1 else r) (hwatched : needed → watched = true) :
    r.RecordsOnce r' u needed := by
  have hrecorded (h : r.isRecording = true) : (r.recordBatch b).1 = r.append u := by
    unfold recordBatch
    rw [if_pos h, hb]
    rfl
  have hidle (h : r.isRecording = false) : (r.recordBatch b).1 = r := by
    unfold recordBatch
    rw [if_neg (by simp [h])]
  constructor
  case idle =>
    intro h
    rw [hr, hidle h, ite_self]
  case atMost =>
    rw [hr]
    cases watched with
    | false => exact .inl rfl
    | true =>
      cases h : r.isRecording with
      | false => exact .inl (hidle h)
      | true => exact .inr ((hrecorded h).symm ▸ r.addsOne_append u)
  case once =>
    intro h hneeded
    rw [hr, hwatched hneeded, if_pos rfl, hrecorded h]
    exact r.addsOne_append u

end Recorder

namespace Gateway

variable {g : Gateway} {t : Topic} {p : Protocol} {k : SensorKey} {v : SensorValue}

/-! ## Accepted writes -/

/-- A write that is accepted is a call of the adapter; only control notes it. -/
theorem setValue_eq_ok {token : Option String} (h : (g.setValue token t p k v).2 = .ok ()) :
    ∃ arbiter n, g.routes.get? ⟨t.server, p⟩ = some n ∧
      (Gateway.call { g with arbiter } n (.setValue t.object k v)).2 = .ok () ∧
      (g.setValue token t p k v).1 =
        (Gateway.call { g with arbiter } n (.setValue t.object k v)).1 := by
  unfold setValue authorize at h ⊢
  cases ha : g.arbiter.authorize g.clock.elapsed token with
  | error e =>
    rw [ha] at h
    cases h
  | ok arbiter =>
    rw [ha] at h
    simp only at h ⊢
    rcases request_cases { g with arbiter } t p (.setValue t.object k v) with
      ⟨-, -, hr⟩ | ⟨n, hn, hcall, hr⟩
    · rw [h] at hr
      cases hr
    · refine ⟨arbiter, n, hn, ?_, hcall⟩
      rw [h] at hr
      cases hc : (Gateway.call { g with arbiter } n (.setValue t.object k v)).2 with
      | ok u => rfl
      | error e => rw [hc] at hr; cases hr

/-- The update for a written sensor. -/
def written (g : Gateway) (t : Topic) (x : Adapter.MemorySensor) (v : SensorValue) : Update :=
  ⟨t.server, t.object, x.number, x.name, v, g.clock.wall⟩

/-- What objects in memory tell of a written sensor. -/
def echo (g : Gateway) (t : Topic) (p : Protocol) (x : Adapter.MemorySensor) (v : SensorValue) :
    Batch := .ofTopic p t [g.written t x v]

/-- Handing on what objects in memory tell of some of their sensors. -/
theorem publishFrom_empty {b : Batch} (hb : b.updates = []) (g : Gateway) :
    (g.publishFrom b).1 = g := by
  unfold publishFrom Batch.isEmpty
  rw [hb]
  rfl

/-- A write changes the value of the first sensor that the key addresses, and is handed on when the
sensor is watched. -/
theorem call_setValue {n : Nat} {l : Adapter.Loopback} (ha : g.adapters[n]? = some (.loopback l))
    (hserver : l.server = t.server) (hprotocol : l.protocol = p)
    (h : (g.call n (.setValue t.object k v)).2 = .ok ()) :
    ∃ ob before x after, l.objects.get? t.object = some ob ∧
      Adapter.Loopback.FirstAddressed k ob.sensors before after x ∧
      let g' := (g.call n (.setValue t.object k v)).1
      g'.adapters = g.adapters.set n (.loopback
        (l.setObject t.object { ob with sensors := before ++ { x with value := v } :: after })) ∧
      g'.bus = (if x.isWatched ob.watched then (g.bus.publish (g.echo t p x v)).1 else g.bus) ∧
      g'.recorder = if x.isWatched ob.watched then (g.recorder.recordBatch (g.echo t p x v)).1
        else g.recorder := by
  rw [call_eq ha] at h ⊢
  cases hp : l.perform g.clock.wall (.setValue t.object k v) with
  | error e =>
    simp only [Adapter.ask, hp] at h
    cases h
  | ok r =>
    obtain ⟨l', b⟩ := r
    obtain ⟨ob, before, x, after, hob, hfirst, rfl, rfl⟩ := Adapter.Loopback.perform_setValue hp
    refine ⟨ob, before, x, after, hob, hfirst, ?_⟩
    simp only [Adapter.ask, hp, List.foldl_cons, List.foldl_nil]
    cases hw : x.isWatched ob.watched with
    | true =>
      have hecho : l.batch g.clock.wall t.object [{ x with value := v }] = g.echo t p x v := by
        unfold Adapter.Loopback.batch
        rw [hserver, hprotocol]
        rfl
      simp only [if_true, hecho]
      exact ⟨rfl, rfl, rfl⟩
    | false =>
      simp only [Bool.false_eq_true, if_false]
      rw [publishFrom_empty rfl]
      exact ⟨rfl, rfl, rfl⟩

/-! ## Who is told -/

/-- A session gets the update for a written sensor, or nothing. -/
theorem share_echo (g : Gateway) (t : Topic) (p : Protocol) (x : Adapter.MemorySensor)
    (v : SensorValue) (s : Session) :
    s.share (g.echo t p x v) =
      if (s.sensorsOn t).addresses x.number x.name then some (.batch (g.echo t p x v)) else none := by
  have htopic : (g.echo t p x v).topic = t := rfl
  have hshare := Session.share_single (b := g.echo t p x v) (u := g.written t x v) rfl s
  rw [htopic] at hshare
  exact hshare

/-- An adapter that watches what a session or the recorder keeps watches the sensors that it keeps. -/
theorem Watches.addresses {keys : KeySet} (h : g.Watches t p keys) (hg : g.Faithful)
    {l : Adapter.Loopback} {ob : Adapter.MemoryObject}
    (ha : g.adapterOn? t p = some (.loopback l)) (hob : l.objects.get? t.object = some ob)
    {x : Adapter.MemorySensor} (hx : keys.addresses x.number x.name = true) :
    x.isWatched ob.watched = true := by
  obtain ⟨ks, hks, hmem⟩ := h
  have hwatched : l.watched t.object = (g.heldOn t p).getD .empty := hg.watched ha
  have hobject : l.watched t.object = ob.watched := by
    unfold Adapter.Loopback.watched
    rw [hob]
  rw [hks, hobject] at hwatched
  show ob.watched.addresses x.number x.name = true
  rw [hwatched]
  exact KeySet.addresses_mono hmem hx

/-! ## The law of writes -/

/-- One sensor has another value: the first one, in the order of the settings, that a key addresses
on the object of a topic. No other sensor and no other adapter is changed. -/
def Writes (origin g g' : Gateway) (t : Topic) (p : Protocol) (k : SensorKey)
    (x : Adapter.MemorySensor) (v : SensorValue) : Prop :=
  ∃ n l₀ l ob before after, g.routes.get? ⟨t.server, p⟩ = some n ∧
    origin.adapters[n]? = some (.loopback l₀) ∧ g.adapters[n]? = some (.loopback l) ∧
    l.labels t.object = l₀.labels t.object ∧ l.objects.get? t.object = some ob ∧
    Adapter.Loopback.FirstAddressed k ob.sensors before after x ∧
    g'.adapters = g.adapters.set n (.loopback
      (l.setObject t.object { ob with sensors := before ++ { x with value := v } :: after }))

/-- The written value is told once to everybody who asks for it, and to nobody else. -/
structure ToldOnce (g g' : Gateway) (t : Topic) (p : Protocol) (x : Adapter.MemorySensor)
    (v : SensorValue) : Prop where
  /-- Who asks for the sensor under the family of the write gets one event, or is evicted because its
  channel is closed or full. -/
  told : ∀ s ∈ g.bus.sessions, s.Wants t p x →
    g'.bus.place s.id = .registered
        { s with channel := ⟨s.channel.waiting ++ [.batch (g.echo t p x v)], true⟩ } ∨
      (g'.bus.place s.id = .departed s ∧
        (s.channel.isOpen = false ∨ g.bus.capacity ≤ s.channel.waiting.length))
  /-- Who does not ask for the sensor gets nothing, and stays. -/
  untold : ∀ id, (∀ s, g.bus.place id = .registered s →
    (s.sensorsOn t).addresses x.number x.name = false) → g'.bus.place id = g.bus.place id

variable {x : Adapter.MemorySensor} {g' : Gateway}

theorem place_publish_echo (hd : g.bus.Distinct) (id : SessionId) :
    (g.bus.publish (g.echo t p x v)).1.place id = (g.bus.place id).onRegistered fun s =>
      (s.tell g.bus.capacity (if (s.sensorsOn t).addresses x.number x.name then
        some (.batch (g.echo t p x v)) else none)).place := by
  show (g.bus.deliver fun s => s.share (g.echo t p x v)).1.place id = _
  rw [Bus.place_deliver hd]
  simp only [share_echo]

/-- A value that the adapter tells if anybody asks for it is told once. -/
theorem toldOnce_of_watched (hd : g.bus.Distinct) {watched : Bool}
    (hbus : g'.bus = if watched then (g.bus.publish (g.echo t p x v)).1 else g.bus)
    (hwatched : ∀ s ∈ g.bus.sessions, s.Wants t p x → watched = true) :
    ToldOnce g g' t p x v := by
  constructor
  case told =>
    intro s hs hwants
    have hregistered : g.bus.place s.id = .registered s := Bus.place_of_find? (hd.find?_eq hs)
    rw [hbus, hwatched s hs hwants, if_pos rfl, place_publish_echo hd, hregistered]
    obtain ⟨i, hi, -, haddresses⟩ := hwants
    have hkeys : s.sensorsOn t = i.sensors := by
      unfold Session.sensorsOn
      rw [hi]
    simp only [Place.onRegistered, hkeys, haddresses, if_true]
    exact s.place_tell g.bus.capacity (.batch (g.echo t p x v))
  case untold =>
    intro id hnot
    rw [hbus]
    cases watched with
    | false => rfl
    | true =>
      rw [if_pos rfl, place_publish_echo hd]
      cases hplace : g.bus.place id with
      | registered s =>
        simp only [Place.onRegistered, hnot s hplace]
        rfl
      | _ => rfl

/-- **An accepted write is told once.** After any run of a gateway whose adapters all hold objects in
memory, a write that is accepted changes the value of the first sensor that its key addresses,
and of no other. Every session that asks for that sensor under the family of the write, be it
by number or by name, gets one event with the new value, or is evicted because its channel is
closed or full; no session gets anything that does not ask for the sensor. A recording gets at
most one record with the value, and just one if such a session is there, or if the topic was
only ever asked for under this family and the recorder keeps the sensor. -/
theorem accepted_write_is_told_once (r : Run) (hmore : ∀ i ∈ r.more, i.InMemory)
    (token : Option String) (t : Topic) (p : Protocol) (k : SensorKey) (v : SensorValue)
    (accepted : (r.gateway.setValue token t p k v).2 = .ok ()) :
    let g := r.gateway
    let g' := (g.setValue token t p k v).1
    ∃ x, Writes (assemble r.config r.clock r.more) g g' t p k x v ∧ ToldOnce g g' t p x v ∧
      g.recorder.RecordsOnce g'.recorder (g.written t x v)
        ((∃ s ∈ g.bus.sessions, s.Wants t p x) ∨
          ((∀ op ∈ r.ops, op.KeepsTo t p) ∧ g.recorder.Keeps t x)) := by
  intro g g'
  obtain ⟨arbiter, n, hn, hcall, hafter⟩ := setValue_eq_ok accepted
  obtain ⟨l₀, l, hl₀, hl, hserver, hprotocol, hlabels⟩ := r.inMemory hmore hn
  obtain ⟨ob, before, x, after, hob, hfirst, hadapters, hbus, hrecorder⟩ :=
    call_setValue (g := { g with arbiter }) hl hserver hprotocol hcall
  rw [← hafter] at hadapters hbus hrecorder
  have hon : g.adapterOn? t p = some (.loopback l) := by
    unfold adapterOn?
    rw [hn]
    exact hl
  -- whoever needs the sensor is served, so the adapter watches it
  have hasked : ∀ s ∈ g.bus.sessions, s.Wants t p x → x.isWatched ob.watched = true := by
    rintro s hs ⟨i, hi, rfl, haddresses⟩
    exact ((served_run_always r).covered (Bus.asks_of_mem hs hi)).addresses r.faithful_gateway hon hob haddresses
  have hkept : (∀ op ∈ r.ops, op.KeepsTo t p) → g.recorder.Keeps t x →
      x.isWatched ob.watched = true := by
    rintro hkeeps ⟨keys, hkeys, haddresses⟩
    have hserved : Served (Only t p) g := served_run_only r hkeeps
    obtain ⟨i, hi, rfl⟩ := Option.map_eq_some_iff.mp hkeys
    exact (hserved.trackedCovered ⟨rfl, rfl⟩ hi).addresses r.faithful_gateway hon hob haddresses
  refine ⟨x, ?_, ?_, ?_⟩
  · exact ⟨n, l₀, l, ob, before, after, hn, hl₀, hl, hlabels t.object, hob, hfirst, hadapters⟩
  · exact toldOnce_of_watched (sound_run r).distinct hbus hasked
  · refine Recorder.recordsOnce_of_watched rfl hrecorder ?_
    rintro (⟨s, hs, hwants⟩ | ⟨hkeeps, hrecorded⟩)
    · exact hasked s hs hwants
    · exact hkept hkeeps hrecorded

/-- The object of `furnace`. -/
def boiler : Topic := ⟨"plant", "boiler"⟩

/-- Two sessions ask for one sensor each while everything is recorded. The first one asks by number
and by name. -/
def furnace : Run where
  config := {
    servers := [{
      id := some "plant"
      url := "http://plant"
      loopback := [⟨"boiler", .modbus, [⟨some 7, "heat", .int 0⟩, ⟨some 8, "flow", .int 0⟩]⟩] }] }
  clock := ⟨⟨0, 0⟩, 0⟩
  more := []
  ops := [.takeControl "key", .openSession ⟨1⟩, .openSession ⟨2⟩,
    .subscribe ⟨1⟩ boiler .modbus (.ofList [.id 7, .name "heat"]),
    .subscribe ⟨2⟩ boiler .modbus (.ofList [.name "flow"]), .startRecording]
  admissible := by decide

/-- The written value reaches the first session and the recording once, and the second session not
at all. -/
theorem furnace_write_told :
    let g := furnace.gateway
    let s := g.setValue (some "key") boiler .modbus (.name "heat") (.int 5)
    s.2 = .ok () ∧ (∃ x, ToldOnce g s.1 boiler .modbus x (.int 5)) ∧
      (s.1.bus.place ⟨1⟩).waiting.length = (g.bus.place ⟨1⟩).waiting.length + 1 ∧
      (s.1.bus.place ⟨2⟩).waiting = (g.bus.place ⟨2⟩).waiting ∧
      s.1.recorder.records.map (·.value) = g.recorder.records.map (·.value) ++ [.int 5] := by
  intro g s
  have hok : s.2 = .ok () := rfl
  obtain ⟨x, -, htold, -⟩ := accepted_write_is_told_once furnace (by simp [furnace]) (some "key")
    boiler .modbus (.name "heat") (.int 5) hok
  exact ⟨hok, ⟨x, htold⟩, by decide, by decide, by decide⟩

end Gateway

end SensorGateway
