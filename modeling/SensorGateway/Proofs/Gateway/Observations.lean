/-
# SensorGateway.Proofs.Gateway.Observations -- a recording has what the sessions saw

Records and events are made from the same batches, but not by the same code: the recorder keeps
every update of a batch, and the bus gives each session the updates that it asks for, if there
is room in its channel. `recording_has_what_sessions_saw` says that nothing gets past the recorder:
while a recording with any number of records goes on, what is put into the channel of a session
can be found in the buffer, in the same order, whoever subscribes, writes, is evicted or goes
away meanwhile.

The times are left out. The recorder never goes back in time, so a late update is recorded under
a later time than the session is told. Nothing is said about those who use the bus directly:
what is broadcast or sent there is not recorded. Operations happen one after the other here; a
batch is recorded and handed out before the next one comes.

One part of an operation (`Part`) is followed on both sides, and `Recalls` says what they have in
common. The parts of an operation and the operations of a run are inductions over it.
-/
import Mathlib.Data.List.Flatten
import SensorGateway.Proofs.Bus.FanOut
import SensorGateway.Proofs.Gateway.Books
import SensorGateway.Proofs.Gateway.Parts

namespace SensorGateway

/-! ## Observations -/

/-- What an update says, apart from its time and from the number of the sensor. -/
structure Observation where
  server : ServerId
  object : String
  variableName : String
  value : SensorValue
deriving DecidableEq, Repr

def Update.observation (u : Update) : Observation :=
  ⟨u.server, u.object, u.variableName, u.value⟩

def Record.observation (row : Record) : Observation :=
  ⟨row.server, row.object, row.variableName, row.value⟩

/-- Under whatever times updates are recorded, the records say the same. -/
theorem Log.map_observation_rows (us : List Update) :
    (rows us).map Record.observation = us.map Update.observation := by
  refine List.ext_getElem (by simp) fun i _ _ => ?_
  simp only [rows, List.getElem_map, List.getElem_mapIdx]
  rfl

namespace Event

/-- What an event says about sensors. -/
def observed : Event → List Observation
  | .batch b => b.updates.map Update.observation
  | _ => []

/-- What some events say about sensors, in their order. -/
def observations (es : List Event) : List Observation := es.flatMap observed

theorem observations_append (es es' : List Event) :
    observations (es ++ es') = observations es ++ observations es' :=
  List.flatMap_append

end Event

/-- What an operation hands out on the bus. -/
def BusOp.handed : BusOp → List Event
  | .publish b _ => [.batch b]
  | .broadcast e _ => [e]
  | _ => []

/-- What a move of a session has for it. -/
def Move.handed : Move → List Event
  | .publish b _ => [.batch b]
  | .broadcast e _ => [e]
  | _ => []

theorem handed_of_toward {op : BusOp} {id : SessionId} {m : Move} (h : op.toward id = some m) :
    m.handed = op.handed := by
  cases op with
  | publish b pulls => cases h; rfl
  | broadcast e pulls => cases h; rfl
  | _ =>
    simp only [BusOp.toward] at h
    split at h
    · cases h
      rfl
    · cases h

/-! ## One session -/

/-- A session gets some of the updates of a batch. -/
theorem Session.observations_share (b : Batch) (s : Session) :
    (Event.observations (s.share b).toList).Sublist (Event.observations [.batch b]) := by
  unfold share
  dsimp only
  split
  · exact List.nil_sublist _
  · simp only [Event.observations, Option.toList_some, List.flatMap_singleton, Event.observed]
    exact List.filter_sublist.map _

/-- A session that is told something gets it, or gets nothing. -/
theorem Session.exists_told (capacity count : Nat) (e : Option Event) (s : Session) :
    ∃ new : List Event, new.Sublist e.toList ∧
      s.pulled capacity count e ++ (s.told capacity count e).waiting =
        s.channel.waiting ++ new := by
  cases e with
  | none =>
    obtain ⟨hpulled, htold⟩ := told_none capacity count s
    rw [hpulled, htold]
    exact ⟨[], .refl _, (List.append_nil _).symm⟩
  | some e =>
    cases ho : s.channel.isOpen with
    | false =>
      obtain ⟨hpulled, htold⟩ := told_of_closed ho capacity count e
      rw [hpulled, htold]
      exact ⟨[], List.nil_sublist _, (List.append_nil _).symm⟩
    | true =>
      by_cases hroom : s.channel.waiting.length < capacity
      · obtain ⟨hpulled, htold⟩ := told_of_room ho hroom count e
        rw [hpulled, htold]
        exact ⟨[e], .refl _, rfl⟩
      · obtain ⟨hpulled, htold⟩ := told_of_full ho (Nat.le_of_not_lt hroom) count e
        rw [hpulled, htold]
        split
        · refine ⟨[e], .refl _, ?_⟩
          show s.channel.waiting.take count ++ (s.channel.waiting.drop count ++ [e]) = _
          rw [← List.append_assoc, List.take_append_drop]
        · refine ⟨[], List.nil_sublist _, ?_⟩
          show s.channel.waiting.take count ++ s.channel.waiting.drop count = _
          rw [List.take_append_drop, List.append_nil]

/-- A move that has nothing for a session puts nothing into its channel. -/
theorem Place.act_of_silent {x : Place} (capacity : Nat) (id : SessionId) {m : Move}
    (hm : m.handed = []) (hnew : m = .register → x = .nowhere) :
    x.takes capacity m ++ (x.act capacity id m).waiting = x.waiting := by
  cases m with
  | register =>
    rw [hnew rfl]
    rfl
  | ask t i => cases x <;> cases i <;> rfl
  | close => cases x <;> rfl
  | publish b count => cases hm
  | broadcast e count => cases hm
  | read max =>
    cases x with
    | nowhere => rfl
    | registered s => exact readBy_append_waiting max s
    | departed s => exact readBy_append_waiting max s
  | hangUp => cases x <;> exact List.append_nil _

/-- By a move, nothing but what it has for the session is put into the channel. -/
theorem Place.exists_act {x : Place} (capacity : Nat) (id : SessionId) {m : Move}
    (hnew : m = .register → x = .nowhere) :
    ∃ new, x.takes capacity m ++ (x.act capacity id m).waiting = x.waiting ++ new ∧
      (Event.observations new).Sublist (Event.observations m.handed) := by
  have hsilent (hm : m.handed = []) : ∃ new,
      x.takes capacity m ++ (x.act capacity id m).waiting = x.waiting ++ new ∧
        (Event.observations new).Sublist (Event.observations m.handed) :=
    ⟨[], (act_of_silent capacity id hm hnew).trans (List.append_nil _).symm, List.nil_sublist _⟩
  cases m with
  | publish b count =>
    cases x with
    | registered s =>
      obtain ⟨new, hnew, hmail⟩ := s.exists_told capacity count (s.share b)
      exact ⟨new, hmail, (hnew.flatMap _).trans (s.observations_share b)⟩
    | _ => exact ⟨[], (List.append_nil _).symm, List.nil_sublist _⟩
  | broadcast e count =>
    cases x with
    | registered s =>
      obtain ⟨new, hnew, hmail⟩ := s.exists_told capacity count (some e)
      exact ⟨new, hmail, hnew.flatMap _⟩
    | _ => exact ⟨[], (List.append_nil _).symm, List.nil_sublist _⟩
  | _ => exact hsilent rfl

/-- An operation that hands out nothing puts nothing into a channel. -/
theorem Traffic.mail_step_of_silent {w : Traffic} (hd : w.bus.Distinct) {op : BusOp}
    (hop : op.IsPossible w.bus) (hsilent : op.handed = []) (id : SessionId) :
    (w.step op).mail id = w.mail id := by
  rw [Traffic.mail_step hd]
  cases hm : op.toward id with
  | none => rfl
  | some m =>
    have hact := Place.act_of_silent w.bus.capacity id ((handed_of_toward hm).trans hsilent)
      (nowhere_of_register hop hm)
    simp only [hact]
    rfl

/-- By an operation, nothing but what it hands out is put into a channel. -/
theorem Traffic.exists_step {w : Traffic} (hd : w.bus.Distinct) (op : BusOp)
    (hop : op.IsPossible w.bus) (id : SessionId) :
    ∃ new, (w.step op).mail id = w.mail id ++ new ∧
      (Event.observations new).Sublist (Event.observations op.handed) := by
  have hmail := Traffic.mail_step hd op id
  cases hm : op.toward id with
  | none =>
    rw [hm] at hmail
    exact ⟨[], hmail.trans (List.append_nil _).symm, List.nil_sublist _⟩
  | some m =>
    rw [hm] at hmail
    have hnew : m = .register → w.bus.place id = .nowhere := nowhere_of_register hop hm
    obtain ⟨new, hact, hsub⟩ := Place.exists_act w.bus.capacity id hnew
    refine ⟨new, ?_, handed_of_toward hm ▸ hsub⟩
    calc (w.step op).mail id
        = w.taken id ++ ((w.bus.place id).takes w.bus.capacity m ++
            ((w.bus.place id).act w.bus.capacity id m).waiting) := hmail
      _ = w.mail id ++ new := by rw [hact, ← List.append_assoc]; rfl

/-! ## A session and the recorder -/

/-- A recording is going on that keeps all records, and it has what was put into the channel of a
session after some mail. -/
structure Recalls (id : SessionId) (old : List Event) (r : Recorder) (w : Traffic) : Prop where
  distinct : w.bus.Distinct
  isRecording : r.isRecording = true
  recalled : ∃ us new, Recorder.Holds 0 us r ∧ w.mail id = old ++ new ∧
    (Event.observations new).Sublist (us.map Update.observation)

namespace Recalls

variable {id : SessionId} {old : List Event} {r : Recorder} {w : Traffic}

theorem publish (h : Recalls id old r w) (b : Batch) :
    Recalls id old (r.recordBatch b).1 (w.step (.publish b fun _ => 0)) := by
  obtain ⟨us, new, hholds, hmail, hsub⟩ := h.recalled
  obtain ⟨more, hmore, hsub'⟩ := Traffic.exists_step h.distinct (.publish b fun _ => 0) trivial id
  refine ⟨Bus.distinct_act h.distinct trivial, ?_, us ++ b.updates, new ++ more, ?_, ?_, ?_⟩
  · rw [Recorder.isRecording_recordBatch]
    exact h.isRecording
  · have hrecorded := hholds.recordBatch b
    rwa [if_pos h.isRecording] at hrecorded
  · rw [hmore, hmail, List.append_assoc]
  · rw [Event.observations_append, List.map_append]
    refine hsub.append (hsub'.trans ?_)
    simp [Event.observations, BusOp.handed, Event.observed]

/-- Other operations on the bus hand out no values. -/
theorem bus (h : Recalls id old r w) {op : BusOp} (hop : op.IsPossible w.bus)
    (hvoid : Event.observations op.handed = []) : Recalls id old r (w.step op) := by
  obtain ⟨us, new, hholds, hmail, hsub⟩ := h.recalled
  obtain ⟨more, hmore, hsub'⟩ := Traffic.exists_step h.distinct op hop id
  refine ⟨Bus.distinct_act h.distinct hop, h.isRecording, us, new ++ more, hholds, ?_, ?_⟩
  · rw [hmore, hmail, List.append_assoc]
  · rw [hvoid] at hsub'
    rw [Event.observations_append, List.sublist_nil.mp hsub', List.append_nil]
    exact hsub

theorem track (h : Recalls id old r w) (t : Topic) (p : Protocol) (keys : KeySet) :
    Recalls id old (r.track t p keys).1 w := by
  obtain ⟨us, new, hholds, hmail⟩ := h.recalled
  have hspares : r.Spares (.track t p keys) := trivial
  obtain ⟨hroom, haccounts⟩ := Recorder.accounts_of_spares hspares
  refine ⟨h.distinct, ?_, us, new, hholds.congr hroom haccounts, hmail⟩
  rw [Recorder.isRecording_track]
  exact h.isRecording

/-- Plain parts keep it so. -/
theorem parts (h : Recalls id old r w) {parts : List Part} (hplain : ∀ x ∈ parts, x.IsPlain)
    (hpossible : w.IsPossible (parts.filterMap Part.busOp?)) :
    Recalls id old ((parts.filterMap Part.recorderOp?).foldl RecorderOp.act r)
      (w.after (parts.filterMap Part.busOp?)) := by
  induction parts generalizing r w with
  | nil => exact h
  | cons x rest ih =>
    obtain ⟨hx, hrest⟩ := List.forall_mem_cons.mp hplain
    cases x with
    | publish b => exact ih (h.publish b) hrest hpossible.2
    | bus op =>
      refine ih (h.bus hpossible.1 ?_) hrest hpossible.2
      cases op with
      | publish b pulls => exact hx.elim
      | broadcast e pulls =>
        cases e with
        | batch b => exact hx.elim
        | _ => rfl
      | _ => rfl
    | recorder op =>
      cases op with
      | track t p keys => exact ih (h.track t p keys) hrest hpossible
      | _ => exact hx.elim

variable {g g' : Gateway} {taken : SessionId → List Event}

theorem plainly (h : Recalls id old g.recorder ⟨g.bus, taken⟩) (hplainly : g.Plainly g') :
    Recalls id old g'.recorder ⟨g'.bus, taken⟩ := by
  obtain ⟨parts, hdoes, hplain⟩ := hplainly
  have hparts := h.parts hplain (hdoes.possible taken)
  rwa [hdoes.bus taken, ← hdoes.recorder] at hparts

/-- It is so when a recording has started. -/
theorem started (hd : g.bus.Distinct) (hidle : g.recorder.isRecording = false)
    (hroom : g.recorder.maxRecords = 0) {now : Instant} {topics : SortedMap Topic Interest}
    (hstart : g.PlainlyAfter (.start now topics) g') (taken : SessionId → List Event) :
    Recalls id ((Traffic.mk g.bus taken).mail id) g'.recorder ⟨g'.bus, taken⟩ := by
  obtain ⟨parts, hdoes, hplain⟩ := hstart
  obtain ⟨hrecording, hempty⟩ := Recorder.holds_start hidle now topics
  rw [hroom] at hempty
  have hstarted : Recalls id ((Traffic.mk g.bus taken).mail id)
      (RecorderOp.act g.recorder (.start now topics)) ⟨g.bus, taken⟩ :=
    ⟨hd, hrecording, [], [], hempty, (List.append_nil _).symm, List.nil_sublist _⟩
  have hparts := hstarted.parts hplain (hdoes.possible taken)
  have hbus := hdoes.bus taken
  have hrecorder := hdoes.recorder
  simp only [List.filterMap_cons, Part.busOp?, Part.recorderOp?, List.foldl_cons]
    at hbus hrecorder
  rwa [hbus, ← hrecorder] at hparts

end Recalls

/-! ## A gateway in use -/

/-- A gateway in use, with what has left the channel of each session meanwhile. -/
structure Usage where
  world : World
  taken : SessionId → List Event

namespace Usage

/-- Nothing that has left a channel before is counted. -/
def start (w : World) : Usage := ⟨w, fun _ => []⟩

def traffic (u : Usage) : Traffic := ⟨u.world.gateway.bus, u.taken⟩

/-- What waited in the channel of a session at the start, and everything that was put into it
since, oldest first: what has left it, and what still waits in it. -/
def mail (u : Usage) (id : SessionId) : List Event := u.traffic.mail id

/-- One operation. -/
def step (u : Usage) (op : Op) : Usage :=
  ⟨u.world.step op, fun id => u.taken id ++ op.takes u.world.gateway id⟩

/-- Operations one after the other. -/
def after (u : Usage) (ops : List Op) : Usage := ops.foldl step u

theorem taken_step {u : Usage} {op : Op} (h : ∀ id, op.takes u.world.gateway id = []) :
    (u.step op).taken = u.taken := by
  funext id
  show u.taken id ++ op.takes u.world.gateway id = u.taken id
  rw [h, List.append_nil]

/-- What browsers do by themselves happens on the bus alone. -/
theorem traffic_step {u : Usage} {op : Op} {move : BusOp}
    (htakes : ∀ id, op.takes u.world.gateway id = move.takes u.world.gateway.bus id)
    (hbus : (op.act u.world.gateway).bus = move.act u.world.gateway.bus) :
    (u.step op).traffic = u.traffic.step move := by
  have htaken : (u.step op).taken = (u.traffic.step move).taken := by
    funext id
    show u.taken id ++ op.takes u.world.gateway id = _
    rw [htakes]
    rfl
  show Traffic.mk (op.act u.world.gateway).bus (u.step op).taken = _
  rw [hbus, htaken]
  rfl

end Usage

namespace Recalls

variable {id : SessionId} {old : List Event} {u : Usage}

/-- Every operation keeps it so, unless it stops the recording or empties it. -/
theorem step (h : Recalls id old u.world.gateway.recorder u.traffic) {op : Op}
    (hown : op.IsOwn) (hop : u.world.Admits op) (hstop : op ≠ .stopRecording)
    (hclear : op ≠ .clearRecording) :
    Recalls id old (u.step op).world.gateway.recorder (u.step op).traffic := by
  cases Op.comes hown hop with
  | reads move htakes hpossible hplain hbus hrecorder =>
    have hmove : ∀ x ∈ [Part.bus move], x.IsPlain := by simpa using hplain
    have hread := h.parts hmove ⟨hpossible, trivial⟩
    rw [Usage.traffic_step htakes hbus]
    show Recalls id old (op.act u.world.gateway).recorder _
    rw [hrecorder]
    exact hread
  | plainly htakes hplainly =>
    show Recalls id old (op.act u.world.gateway).recorder
      ⟨(op.act u.world.gateway).bus, (u.step op).taken⟩
    rw [Usage.taken_step htakes]
    exact h.plainly hplainly
  | starts now topics _ hidle _ => exact absurd (h.isRecording.symm.trans hidle) (by decide)
  | stops now heq _ => exact absurd heq hstop
  | clears heq _ => exact absurd heq hclear

theorem after (h : Recalls id old u.world.gateway.recorder u.traffic) {ops : List Op}
    (hops : ∀ op ∈ ops, op.IsOwn ∧ op ≠ .stopRecording ∧ op ≠ .clearRecording)
    (hpossible : u.world.Admissible ops) :
    Recalls id old (u.after ops).world.gateway.recorder (u.after ops).traffic := by
  induction ops generalizing u with
  | nil => exact h
  | cons op ops ih =>
    obtain ⟨⟨hown, hstop, hclear⟩, hrest⟩ := List.forall_mem_cons.mp hops
    exact ih (h.step hown hpossible.1 hstop hclear) hrest hpossible.2

end Recalls

/-! ## Recordings -/

/-- **A recording has what the sessions saw.** After any run, let a recording start that keeps all
records, and let any operations of the gateway follow that neither stop nor empty it. Then what
was put into the channel of any session meanwhile, as far as it says something about sensors, is
in the buffer, in the same order: the same servers, objects, names and values. It does not
matter whether the session is still there. -/
theorem recording_has_what_sessions_saw (r : Run)
    (hidle : r.gateway.recorder.isRecording = false)
    (hroom : r.config.recording.maxRecords = 0) (window : List Op)
    (hwindow : ∀ op ∈ window, op.IsOwn ∧ op ≠ .stopRecording ∧ op ≠ .clearRecording)
    (hpossible : r.world.Admissible (.startRecording :: window)) (id : SessionId) :
    let before := Usage.start r.world
    let now := before.after (.startRecording :: window)
    ∃ new, now.mail id = before.mail id ++ new ∧
      (Event.observations new).Sublist
        (now.world.gateway.recorder.records.map Record.observation) := by
  intro before now
  have hempty : r.gateway.recorder.maxRecords = 0 := r.maxRecords.trans hroom
  have hstarted : Recalls id (before.mail id) (before.step .startRecording).world.gateway.recorder
      (before.step .startRecording).traffic := by
    rcases r.gateway.startRecording_parts with ⟨hrecording, -⟩ | ⟨-, hparts⟩
    · exact absurd (hrecording.symm.trans hidle) (by decide)
    · exact .started (Gateway.sound_run r).distinct hidle hempty hparts before.taken
  obtain ⟨-, -, us, new, hholds, hmail, hsub⟩ := hstarted.after hwindow hpossible.2
  refine ⟨new, hmail, ?_⟩
  rw [show now.world.gateway.recorder.records = Log.rows us from hholds.records,
    Log.map_observation_rows]
  exact hsub

/-- One session asks for one of two sensors, and has room for two events. -/
def brewery : Run where
  config := {
    servers := [{
      id := some "plant"
      url := "http://plant"
      loopback := [⟨"kettle", .modbus, [⟨some 7, "heat", .int 60⟩, ⟨some 8, "flow", .int 2⟩]⟩] }]
    sessions := { channelCapacity := 2 }
    recording := { maxRecords := 0 } }
  clock := ⟨⟨0, 0⟩, 0⟩
  more := []
  ops := [.openSession ⟨1⟩, .subscribe ⟨1⟩ ⟨"plant", "kettle"⟩ .modbus (.ofList [.id 7]),
    .receive ⟨1⟩ 1]
  admissible := by decide

/-- While that is recorded, a second session asks for the other sensor, and never reads. Then both
sensors are written. -/
def brewing : List Op :=
  [.receive ⟨1⟩ 2, .openSession ⟨2⟩,
    .subscribe ⟨2⟩ ⟨"plant", "kettle"⟩ .modbus (.ofList [.name "flow"]),
    .takeControl "key",
    .setValue (some "key") ⟨"plant", "kettle"⟩ .modbus (.id 8) (.int 3),
    .setValue (some "key") ⟨"plant", "kettle"⟩ .modbus (.id 7) (.int 61)]

/-- Each session was told its part of the recording. The second one was evicted before it was told
the written value. -/
theorem brewing_recorded :
    let before := Usage.start brewery.world
    let now := before.after (.startRecording :: brewing)
    now.world.gateway.recorder.records.map (·.value) = [.int 60, .int 2, .int 3, .int 61] ∧
      (Event.observations (now.mail ⟨1⟩)).map (·.value) = [.int 60, .int 61] ∧
      (Event.observations (now.mail ⟨2⟩)).map (·.value) = [.int 2] ∧
      now.world.gateway.bus.isRegistered ⟨2⟩ = false ∧
      ∀ id, ∃ new, now.mail id = before.mail id ++ new ∧
        (Event.observations new).Sublist
          (now.world.gateway.recorder.records.map Record.observation) := by
  refine ⟨by decide, by decide, by decide, by decide, ?_⟩
  exact recording_has_what_sessions_saw brewery (by decide) rfl brewing
    (by simp [brewing, Op.IsOwn]) (by decide)

end SensorGateway
