/-
# SensorGateway.Proofs.Gateway.Parts -- what operations are made of

Whatever a gateway does to its sessions and its recorder, it does in a few elementary ways: a
batch is recorded and then handed out, something else happens to the bus, or something else to
the recorder. These are its parts (`Part`), and `Gateway.Does parts g g'` says that they can
happen one after the other, and take the one gateway to the other while nobody reads.

Each operation is taken apart once, here (`Op.comes`). What holds of batches, operations on the
bus and operations on the recorder is thereby brought to operations of the gateway. Adapters are
left out: what they tell is in the batches, and nothing says how they came to tell it.
-/
import SensorGateway.Proofs.Bus.Place
import SensorGateway.Proofs.Gateway.Run
import SensorGateway.Proofs.Recorder.Log

namespace SensorGateway

/-! ## Runs of a bus one after the other -/

namespace Traffic

theorem after_append (w : Traffic) (ops ops' : List BusOp) :
    w.after (ops ++ ops') = (w.after ops).after ops' := List.foldl_append

theorem isPossible_append {w : Traffic} {ops ops' : List BusOp} :
    w.IsPossible (ops ++ ops') ↔ w.IsPossible ops ∧ (w.after ops).IsPossible ops' := by
  induction ops generalizing w with
  | nil => exact ⟨fun h => ⟨trivial, h⟩, And.right⟩
  | cons op ops ih =>
    show op.IsPossible w.bus ∧ (w.step op).IsPossible (ops ++ ops') ↔ _
    rw [ih]
    exact and_assoc.symm

end Traffic

theorem Session.pulled_zero (capacity : Nat) (e : Option Event) (s : Session) :
    s.pulled capacity 0 e = [] := by
  unfold pulled
  split <;> rfl

/-! ## Parts -/

/-- An elementary change of the sessions and the recorder. -/
inductive Part where
  /-- A batch is recorded, and then handed out. -/
  | publish (b : Batch)
  | bus (op : BusOp)
  | recorder (op : RecorderOp)

namespace Part

/-- What a part does to the bus. -/
def busOp? : Part → Option BusOp
  | publish b => some (.publish b fun _ => 0)
  | bus op => some op
  | recorder _ => none

/-- What a part does to the recorder. -/
def recorderOp? : Part → Option RecorderOp
  | publish b => some (.record b)
  | bus _ => none
  | recorder op => some op

end Part

namespace Gateway

/-- Parts that can happen one after the other, and that take a gateway to another one while nothing
leaves the channels. -/
structure Does (parts : List Part) (g g' : Gateway) : Prop where
  bus : ∀ taken, (Traffic.mk g.bus taken).after (parts.filterMap Part.busOp?) = ⟨g'.bus, taken⟩
  possible : ∀ taken, (Traffic.mk g.bus taken).IsPossible (parts.filterMap Part.busOp?)
  recorder : g'.recorder = (parts.filterMap Part.recorderOp?).foldl RecorderOp.act g.recorder

variable {g g' : Gateway}

theorem Does.nothing (hbus : g'.bus = g.bus) (hrecorder : g'.recorder = g.recorder) :
    Does [] g g' :=
  ⟨fun _ => by rw [hbus]; rfl, fun _ => trivial, hrecorder⟩

theorem Does.refl (g : Gateway) : Does [] g g := .nothing rfl rfl

theorem Does.trans {a b c : Gateway} {parts parts' : List Part} (h : Does parts a b)
    (h' : Does parts' b c) : Does (parts ++ parts') a c where
  bus taken := by rw [List.filterMap_append, Traffic.after_append, h.bus, h'.bus]
  possible taken := by
    rw [List.filterMap_append, Traffic.isPossible_append, h.bus]
    exact ⟨h.possible taken, h'.possible taken⟩
  recorder := by
    rw [List.filterMap_append, List.foldl_append, ← h.recorder]
    exact h'.recorder

theorem Does.ofBus {op : BusOp} (hop : op.IsPossible g.bus) (htakes : ∀ id, op.takes g.bus id = [])
    (hbus : g'.bus = op.act g.bus) (hrecorder : g'.recorder = g.recorder) :
    Does [.bus op] g g' where
  bus taken := by
    show Traffic.mk (op.act g.bus) (fun id => taken id ++ op.takes g.bus id) = _
    simp only [htakes, List.append_nil, hbus]
  possible _ := ⟨hop, trivial⟩
  recorder := hrecorder

theorem Does.ofRecorder {op : RecorderOp} (hbus : g'.bus = g.bus)
    (hrecorder : g'.recorder = op.act g.recorder) : Does [.recorder op] g g' where
  bus _ := by rw [hbus]; rfl
  possible _ := trivial
  recorder := hrecorder

/-! ## Telling sessions -/

theorem does_publish (g : Gateway) (b : Batch) : Does [.publish b] g (g.publish b).1 where
  bus taken := by
    have htakes (id : SessionId) : BusOp.takes g.bus id (.publish b fun _ => 0) = [] := by
      unfold BusOp.takes
      cases g.bus.place id with
      | registered s => exact Session.pulled_zero _ _ s
      | _ => rfl
    show Traffic.mk (g.bus.publishWhile (fun _ => 0) b).1
      (fun id => taken id ++ BusOp.takes g.bus id (.publish b fun _ => 0)) = _
    simp only [htakes, List.append_nil, Bus.publishWhile_nobody]
    rfl
  possible _ := ⟨trivial, trivial⟩
  recorder := rfl

theorem does_broadcast (g : Gateway) (e : Event) :
    Does [.bus (.broadcast e fun _ => 0)] g (g.broadcast e).1 := by
  refine .ofBus trivial (fun id => ?_) ?_ rfl
  · unfold BusOp.takes
    cases g.bus.place id with
    | registered s => exact Session.pulled_zero _ _ s
    | _ => rfl
  · show (g.bus.broadcast e).1 = (g.bus.broadcastWhile (fun _ => 0) e).1
    rw [Bus.broadcastWhile_nobody]

/-- The second gateway comes from the first one by handing out batches. -/
def Publishes (g g' : Gateway) : Prop := ∃ bs : List Batch, Does (bs.map .publish) g g'

theorem Publishes.refl (g : Gateway) : Publishes g g := ⟨[], .refl g⟩

theorem Publishes.trans {a b c : Gateway} (h : Publishes a b) (h' : Publishes b c) :
    Publishes a c := by
  obtain ⟨bs, hbs⟩ := h
  obtain ⟨bs', hbs'⟩ := h'
  exact ⟨bs ++ bs', List.map_append ▸ hbs.trans hbs'⟩

theorem publishes_publishFrom (g : Gateway) (b : Batch) : Publishes g (g.publishFrom b).1 := by
  unfold publishFrom
  split
  · exact .refl g
  · exact ⟨[b], does_publish g b⟩

/-! ## Asking adapters -/

theorem publishes_call (g : Gateway) (n : Nat) (c : Adapter.Call) :
    Publishes g (g.call n c).1 :=
  call_induction (P := Publishes g) (.refl g) (fun _ => ⟨[], .nothing rfl rfl⟩)
    fun g' b h => h.trans (publishes_publishFrom g' b)

theorem publishes_request (g : Gateway) (t : Topic) (p : Protocol) (c : Adapter.Call) :
    Publishes g (g.request t p c).1 :=
  request_induction (P := Publishes g) (.refl g) (fun n => publishes_call g n c) t p

theorem publishes_reconcile (g : Gateway) (t : Topic) (p : Protocol) :
    Publishes g (g.reconcile t p).1 :=
  reconcile_induction (P := Publishes g) (.refl g) (publishes_request g t p)

theorem publishes_releaseTopics (g : Gateway) (topics : List (Topic × Protocol)) :
    Publishes g (g.releaseTopics topics) :=
  releaseTopics_induction (P := Publishes g)
    (fun g' t p h => h.trans (publishes_reconcile g' t p)) (.refl g) topics

theorem publishes_captureBaseline (g : Gateway) (topics : List (Topic × Interest)) :
    Publishes g (g.captureBaseline topics) :=
  captureBaseline_induction (P := Publishes g)
    (fun g' t p h => h.trans (publishes_request g' t p _)) (.refl g) topics

end Gateway

/-! ## Plain parts -/

/-- A part that tells sessions no values but those that it records, and neither starts, stops nor
empties the recorder. -/
def Part.IsPlain : Part → Prop
  | .publish _ => True
  | .bus (.publish _ _) => False
  | .bus (.broadcast (.batch _) _) => False
  | .bus _ => True
  | .recorder (.track _ _ _) => True
  | .recorder _ => False

namespace Gateway

/-- The second gateway comes from the first one by plain parts. -/
def Plainly (g g' : Gateway) : Prop := ∃ parts, Does parts g g' ∧ ∀ x ∈ parts, x.IsPlain

variable {g g' : Gateway}

theorem Plainly.refl (g : Gateway) : Plainly g g := ⟨[], .refl g, by simp⟩

theorem Plainly.single {x : Part} (h : Does [x] g g') (hx : x.IsPlain) : Plainly g g' :=
  ⟨[x], h, by simpa using hx⟩

theorem Plainly.trans {a b c : Gateway} (h : Plainly a b) (h' : Plainly b c) : Plainly a c := by
  obtain ⟨parts, hdoes, hplain⟩ := h
  obtain ⟨parts', hdoes', hplain'⟩ := h'
  refine ⟨parts ++ parts', hdoes.trans hdoes', fun x hx => ?_⟩
  exact (List.mem_append.mp hx).elim (hplain x) (hplain' x)

theorem Publishes.plainly (h : Publishes g g') : Plainly g g' := by
  obtain ⟨bs, hdoes⟩ := h
  refine ⟨_, hdoes, fun x hx => ?_⟩
  obtain ⟨b, -, rfl⟩ := List.mem_map.mp hx
  trivial

/-- A session is given another subscription, or loses one. -/
theorem plainly_restore {id : SessionId} {t : Topic} {i : Option Interest} {b : Bus}
    (hb : g.bus.restore id t i = .ok b) : Plainly g { g with bus := b } := by
  refine .single (x := .bus (.restore id t i)) (.ofBus trivial (fun _ => rfl) ?_ rfl) trivial
  show b = BusOp.unlessRefused g.bus (g.bus.restore id t i)
  rw [hb]
  rfl

theorem plainly_reconcileWith {id : SessionId} {t : Topic} {i : Option Interest} {b : Bus}
    (hb : g.bus.restore id t i = .ok b) (p : Protocol) :
    Plainly g ({ g with bus := b }.reconcile t p).1 :=
  (plainly_restore hb).trans (publishes_reconcile _ t p).plainly

theorem plainly_subscribe (g : Gateway) (id : SessionId) (t : Topic) (p : Protocol)
    (keys : KeySet) : Plainly g (g.subscribe id t p keys).1 := by
  apply subscribe_induction (P := Plainly g)
  case restored => exact fun g' id i b hb h => h.trans (plainly_reconcileWith hb p)
  case tracked =>
    intro g' keys h
    exact h.trans (.single (x := .recorder (.track t p keys)) (.ofRecorder rfl rfl) trivial)
  case hg => exact .refl g

theorem plainly_unsubscribe (g : Gateway) (id : SessionId) (t : Topic) (p : Protocol) :
    Plainly g (g.unsubscribe id t p).1 := by
  rcases unsubscribe_cases g id t p with hsame | ⟨b, hb, hrec⟩
  · rw [hsame]
    exact .refl g
  · rw [hrec]
    exact plainly_reconcileWith hb p

theorem plainly_announceControl (g : Gateway) (arbiter : Arbiter) :
    Plainly g { g with arbiter }.announceControl := by
  have hchanged : Plainly g { g with arbiter } := ⟨[], .nothing rfl rfl, by simp⟩
  exact hchanged.trans (.single (does_broadcast _ (.control arbiter.current)) trivial)

theorem plainly_takeControl (g : Gateway) (token : String) :
    Plainly g (g.takeControl token).1 := by
  unfold takeControl
  split
  · exact .refl g
  · exact plainly_announceControl g _

theorem plainly_expireControl (g : Gateway) : Plainly g g.expireControl.1 := by
  unfold expireControl
  split
  · exact plainly_announceControl g _
  · exact .refl g

theorem plainly_announceRecording (g : Gateway) : Plainly g g.announceRecording.1 :=
  .single (does_broadcast g (.recording g.recorder.status)) trivial

theorem plainly_authorize (g : Gateway) (token : Option String) :
    Plainly g (g.authorize token).1 := by
  unfold authorize
  split
  · exact .refl g
  · exact ⟨[], .nothing rfl rfl, by simp⟩

theorem plainly_setValue (g : Gateway) (token : Option String) (t : Topic) (p : Protocol)
    (k : SensorKey) (v : SensorValue) : Plainly g (g.setValue token t p k v).1 := by
  have hallowed := plainly_authorize g token
  unfold setValue
  split
  · next heq =>
    rw [heq] at hallowed
    exact hallowed
  · next heq =>
    rw [heq] at hallowed
    exact hallowed.trans (publishes_request _ t p _).plainly

/-! ## Operations that change the recorder -/

/-- The second gateway comes from the first one by a change of the recorder and plain parts. -/
def PlainlyAfter (op : RecorderOp) (g g' : Gateway) : Prop :=
  ∃ parts, Does (.recorder op :: parts) g g' ∧ ∀ x ∈ parts, x.IsPlain

theorem plainlyAfter_of {op : RecorderOp} {r : Recorder} (hr : r = op.act g.recorder)
    (h : Plainly { g with recorder := r } g') : PlainlyAfter op g g' := by
  obtain ⟨parts, hdoes, hplain⟩ := h
  have hchanged : Does [.recorder op] g { g with recorder := r } := .ofRecorder rfl hr
  exact ⟨parts, hchanged.trans hdoes, hplain⟩

/-- A recording that starts asks for values, and is announced. -/
theorem startRecording_parts (g : Gateway) :
    (g.recorder.isRecording = true ∧ g.startRecording.1 = g) ∨
      (g.recorder.isRecording = false ∧
        PlainlyAfter (.start g.clock.wall g.activeInterests) g g.startRecording.1) := by
  cases hr : g.recorder.start? g.clock.wall g.activeInterests with
  | none =>
    refine .inl ⟨Recorder.start?_eq_none hr, ?_⟩
    unfold startRecording
    rw [hr]
  | some r =>
    refine .inr ⟨(Recorder.start?_eq_some hr).1, plainlyAfter_of (r := r) ?_ ?_⟩
    · simp only [RecorderOp.act, hr, Option.getD_some]
    · unfold startRecording
      rw [hr]
      exact (publishes_captureBaseline _ _).plainly.trans (plainly_announceRecording _)

theorem stopRecording_parts (g : Gateway) :
    (g.recorder.isRecording = false ∧ g.stopRecording.1 = g) ∨
      (g.recorder.isRecording = true ∧
        PlainlyAfter (.stop g.clock.wall) g g.stopRecording.1) := by
  cases hr : g.recorder.stop? g.clock.wall with
  | none =>
    refine .inl ⟨Recorder.stop?_eq_none hr, ?_⟩
    unfold stopRecording
    rw [hr]
  | some s =>
    obtain ⟨r, tracked⟩ := s
    refine .inr ⟨Recorder.isRecording_of_stop? hr, plainlyAfter_of (r := r) ?_ ?_⟩
    · simp only [RecorderOp.act, hr, Option.map_some, Option.getD_some]
    · unfold stopRecording
      rw [hr]
      exact (publishes_releaseTopics _ _).plainly.trans (plainly_announceRecording _)

theorem clearRecording_parts (g : Gateway) : PlainlyAfter .clear g g.clearRecording.1 :=
  plainlyAfter_of rfl (plainly_announceRecording _)

end Gateway

/-! ## Operations -/

namespace Op

/-- An operation of the gateway, its control, its adapters or its browsers. The only others are
those by which somebody uses the bus directly to tell sessions something. -/
def IsOwn : Op → Prop
  | .broadcast _ => False
  | .sendTo _ _ => False
  | _ => True

/-- What leaves the channel of a session by an operation: what its browser reads, and what it has
not read when it goes away. -/
def takes (g : Gateway) (id : SessionId) : Op → List Event
  | .receive id' max => BusOp.takes g.bus id (.receive id' max)
  | .hangUp id' => BusOp.takes g.bus id (.hangUp id')
  | _ => []

/-- How an operation of the gateway comes about. -/
inductive Comes (g : Gateway) (op : Op) : Prop
  /-- A browser reads, or goes away. -/
  | reads (move : BusOp) : (∀ id, op.takes g id = move.takes g.bus id) → move.IsPossible g.bus →
      Part.IsPlain (.bus move) → (op.act g).bus = move.act g.bus →
      (op.act g).recorder = g.recorder → Comes g op
  | plainly : (∀ id, op.takes g id = []) → g.Plainly (op.act g) → Comes g op
  /-- A recording starts, stops, or is emptied. -/
  | starts (now : Instant) (topics : SortedMap Topic Interest) : op = .startRecording →
      g.recorder.isRecording = false → g.PlainlyAfter (.start now topics) (op.act g) → Comes g op
  | stops (now : Instant) : op = .stopRecording →
      g.PlainlyAfter (.stop now) (op.act g) → Comes g op
  | clears : op = .clearRecording → g.PlainlyAfter .clear (op.act g) → Comes g op

/-- Every operation of the gateway comes about in one of these ways. -/
theorem comes {w : World} {op : Op} (hown : op.IsOwn) (hop : w.Admits op) :
    op.Comes w.gateway := by
  have hnothing : ∀ id : SessionId, [] = ([] : List Event) := fun _ => rfl
  cases op with
  | openSession id =>
    refine .plainly hnothing (.single (x := .bus (.register id)) ?_ trivial)
    exact .ofBus hop (fun _ => rfl) rfl rfl
  | closeSession id =>
    refine .plainly hnothing (.single (x := .bus (.close id)) ?_ trivial)
    exact .ofBus trivial (fun _ => rfl) rfl rfl
  | cleanUp t p => exact .plainly hnothing (Gateway.publishes_releaseTopics _ [(t, p)]).plainly
  | subscribe id t p keys => exact .plainly hnothing (w.gateway.plainly_subscribe id t p keys)
  | unsubscribe id t p => exact .plainly hnothing (w.gateway.plainly_unsubscribe id t p)
  | releaseTopics topics =>
    exact .plainly hnothing (Gateway.publishes_releaseTopics _ topics).plainly
  | startRecording =>
    rcases w.gateway.startRecording_parts with ⟨-, hsame⟩ | ⟨hidle, hparts⟩
    · refine .plainly hnothing ?_
      show w.gateway.Plainly w.gateway.startRecording.1
      rw [hsame]
      exact .refl w.gateway
    · exact .starts _ _ rfl hidle hparts
  | stopRecording =>
    rcases w.gateway.stopRecording_parts with ⟨-, hsame⟩ | ⟨-, hparts⟩
    · refine .plainly hnothing ?_
      show w.gateway.Plainly w.gateway.stopRecording.1
      rw [hsame]
      exact .refl w.gateway
    · exact .stops _ rfl hparts
  | clearRecording => exact .clears rfl w.gateway.clearRecording_parts
  | setValue token t p k v => exact .plainly hnothing (w.gateway.plainly_setValue token t p k v)
  | takeControl token => exact .plainly hnothing (w.gateway.plainly_takeControl token)
  | releaseControl => exact .plainly hnothing (w.gateway.plainly_announceControl _)
  | expireControl => exact .plainly hnothing w.gateway.plainly_expireControl
  | authorize token => exact .plainly hnothing (w.gateway.plainly_authorize token)
  | publish b => exact .plainly hnothing (.single (w.gateway.does_publish b) trivial)
  | broadcast e => exact hown.elim
  | sendTo id e => exact hown.elim
  | receive id max => exact .reads (.receive id max) (fun _ => rfl) trivial trivial rfl rfl
  | hangUp id => exact .reads (.hangUp id) (fun _ => rfl) trivial trivial rfl rfl
  | elapse ms wall => exact .plainly hnothing ⟨[], .nothing rfl rfl, by simp⟩

end Op

/-! ## The room of the buffer -/

theorem RecorderOp.maxRecords_act (r : Recorder) (op : RecorderOp) :
    (op.act r).maxRecords = r.maxRecords := by
  cases op with
  | start now topics =>
    show ((r.start? now topics).getD r).maxRecords = _
    unfold Recorder.start?
    split <;> rfl
  | stop now =>
    show (((r.stop? now).map (·.1)).getD r).maxRecords = _
    unfold Recorder.stop?
    split <;> rfl
  | clear => rfl
  | record b =>
    show (r.recordBatch b).1.maxRecords = _
    unfold Recorder.recordBatch
    split
    · exact Recorder.maxRecords_foldl_append b.updates r
    · rfl
  | track t p keys =>
    show (r.track t p keys).1.maxRecords = _
    unfold Recorder.track
    split <;> rfl

theorem Gateway.Does.maxRecords {g g' : Gateway} {parts : List Part} (h : g.Does parts g') :
    g'.recorder.maxRecords = g.recorder.maxRecords := by
  rw [h.recorder]
  generalize g.recorder = r
  induction parts.filterMap Part.recorderOp? generalizing r with
  | nil => rfl
  | cons op rest ih => exact (ih (op.act r)).trans (op.maxRecords_act r)

theorem World.maxRecords_step {w : World} {op : Op} (hop : w.Admits op) :
    (w.step op).gateway.recorder.maxRecords = w.gateway.recorder.maxRecords := by
  show (op.act w.gateway).recorder.maxRecords = _
  by_cases hown : op.IsOwn
  · cases op.comes hown hop with
    | reads move _ _ _ _ hrecorder => rw [hrecorder]
    | plainly _ h => obtain ⟨parts, hdoes, -⟩ := h; exact hdoes.maxRecords
    | starts now topics _ _ h => obtain ⟨parts, hdoes, -⟩ := h; exact hdoes.maxRecords
    | stops now _ h => obtain ⟨parts, hdoes, -⟩ := h; exact hdoes.maxRecords
    | clears _ h => obtain ⟨parts, hdoes, -⟩ := h; exact hdoes.maxRecords
  · cases op with
    | broadcast e => rfl
    | sendTo id e =>
      show (w.gateway.sendTo id e).1.recorder.maxRecords = _
      unfold Gateway.sendTo
      split <;> rfl
    | _ => exact absurd trivial hown

/-- The buffer has as much room as the settings say, after every run. -/
theorem Run.maxRecords (r : Run) :
    r.gateway.recorder.maxRecords = r.config.recording.maxRecords := by
  have along (ops : List Op) (w : World) (hops : w.Admissible ops) :
      (w.after ops).gateway.recorder.maxRecords = w.gateway.recorder.maxRecords := by
    induction ops generalizing w with
    | nil => rfl
    | cons op ops ih => exact (ih (w.step op) hops.2).trans (w.maxRecords_step hops.1)
  refine (along r.ops _ r.admissible).trans ?_
  show (Gateway.assemble r.config r.clock r.more).recorder.maxRecords = _
  rw [Gateway.recorder_assemble]
  rfl

end SensorGateway
