/-
# SensorGateway.Proofs.Gateway.Silence -- giving up interest tells nobody anything

Giving up a topic, releasing topics and stopping a recording point adapters at what is still wanted,
by the same call by which sessions ask for more. That call tells the values of sensors that are
newly watched. `Gateway.Hushed` is why there are none then: everything that is wanted on a
topic is among the keys that its adapter accepted last (`Gateway.Served`), and an adapter watches
what it accepted (`Gateway.Faithful`). So the answers have no values in them, nothing is handed on
and nothing is recorded.

This holds for topics that a run keeps under one family. Adapters hold objects in memory, or they
follow a script that refuses and delays as it likes but tells nothing of its own accord.
-/
import SensorGateway.Proofs.Bus.Sending
import SensorGateway.Proofs.Gateway.Exactness
import SensorGateway.Proofs.Gateway.Memory
import SensorGateway.Proofs.Gateway.Subscription

namespace SensorGateway

/-! ## Adapters that tell nothing new -/

namespace Adapter

/-- An adapter that tells nothing of its own accord. -/
def Reticent : Adapter → Prop
  | .loopback _ => True
  | .scripted s => ∀ k n, s.script.tells k n = []

theorem Reticent.ask {a : Adapter} (h : a.Reticent) (now : Instant) (c : Call) :
    (a.ask now c).adapter.Reticent := by
  cases a with
  | loopback l =>
    cases hp : l.perform now c with
    | ok r => simp only [Adapter.ask, hp, Reticent]
    | error e => simp only [Adapter.ask, hp, Reticent]
  | scripted s =>
    intro k n
    show (s.perform c).1.script.tells k n = []
    rw [script_perform]
    exact h k n

/-- Objects in memory have nothing new to tell about keys that are watched already. -/
theorem fresh_of_watched {ob : MemoryObject} {keys : KeySet} (hk : ∀ k ∈ keys, k ∈ ob.watched) :
    ob.fresh keys = [] := by
  apply List.filter_eq_nil_iff.mpr
  intro s _ hfresh
  obtain ⟨hnew, hold⟩ := (Bool.and_eq_true _ _).mp hfresh
  have hseen : s.isWatched ob.watched = true := KeySet.addresses_mono hk hnew
  rw [hseen] at hold
  cases hold

/-- An adapter that tells nothing of its own accord has nothing to tell when it is pointed at keys
that it watches already. -/
theorem Reticent.isSilent {a : Adapter} (h : a.Reticent) {o : String} {keys : KeySet}
    (hk : ∀ k ∈ keys, k ∈ a.watched o) (now : Instant) :
    (a.ask now (pointing o keys)).IsSilent := by
  cases a with
  | scripted s => exact isSilent_scripted h now _
  | loopback l =>
    intro b hb
    cases hob : l.objects.get? o with
    | none =>
      rw [ask_pointing_of_none hob] at hb
      cases hb
    | some ob =>
      have hwatched : (loopback l).watched o = ob.watched := by
        show l.watched o = ob.watched
        unfold Loopback.watched
        rw [hob]
      rw [ask_pointing_of_some hob, fresh_of_watched (hwatched ▸ hk)] at hb
      obtain rfl := List.mem_singleton.mp hb
      rfl

end Adapter

namespace Gateway

/-- No adapter tells anything of its own accord. -/
def Reticent (g : Gateway) : Prop := ∀ a ∈ g.adapters, a.Reticent

theorem callInductive_reticent : CallInductive Reticent where
  rest h hadapters _ := fun a ha => h a (hadapters ▸ ha)
  call {g} h n c := by
    cases ha : g.adapters[n]? with
    | none =>
      rw [(call_of_absent ha c).1]
      exact h
    | some a =>
      intro a' ha'
      rw [(call_of_present ha c).2.adapters] at ha'
      rcases List.mem_or_eq_of_mem_set ha' with hmem | rfl
      · exact h a' hmem
      · exact (h a (List.mem_of_getElem? ha)).ask g.clock.wall c

variable {g g' : Gateway}

theorem Reticent.foldl_install (h : g.Reticent) {is : List Installation}
    (his : ∀ i ∈ is, i.adapter.Reticent) : (is.foldl Gateway.install g).Reticent := by
  induction is generalizing g with
  | nil => exact h
  | cons i rest ih =>
    refine ih ?_ fun i' hi' => his i' (List.mem_cons_of_mem i hi')
    intro a ha
    rw [install_eq] at ha
    rcases List.mem_append.mp ha with hmem | hlast
    · exact h a hmem
    · rw [List.mem_singleton.mp hlast]
      exact his i List.mem_cons_self

theorem Reticent.registerLoopback (h : g.Reticent) (servers : List Config.Server) :
    (g.registerLoopback servers).1.Reticent := by
  induction servers generalizing g with
  | nil => exact h
  | cons s rest ih =>
    have hserver : (g.registerServer s).1.Reticent := by
      unfold Gateway.registerServer
      split
      · exact h
      · have hmemory : ∀ i ∈ (loopbackFamilies s).map (memoryInstallation s),
            i.adapter.Reticent := by
          intro i hi
          obtain ⟨p, -, rfl⟩ := List.mem_map.mp hi
          exact trivial
        have hinstalled := h.foldl_install hmemory
        rw [List.foldl_map] at hinstalled
        exact hinstalled
    exact ih hserver

end Gateway

/-- No adapter of a run tells anything of its own accord, if none does that is installed beside those
of the settings. -/
theorem Run.reticent (r : Run) (hmore : ∀ i ∈ r.more, i.adapter.Reticent) :
    r.gateway.Reticent := by
  have hnew : (Gateway.new r.config r.clock).Reticent := fun a ha => by cases ha
  have hassembled : (Gateway.assemble r.config r.clock r.more).Reticent :=
    (hnew.registerLoopback r.config.servers).foldl_install hmore
  exact Gateway.callInductive_reticent.after r.ops hassembled

namespace Gateway

variable {g g' : Gateway} {only : Topic → Protocol → Prop} {t : Topic} {p : Protocol}

/-! ## Pointing adapters in silence -/

/-- A gateway that has nothing to tell when an adapter is pointed at a topic that is told apart. -/
structure Hushed (only : Topic → Protocol → Prop) (g : Gateway) : Prop where
  served : Served only g
  faithful : g.Faithful
  reticent : g.Reticent

/-- Neither the bus nor the recorder has changed. -/
structure Untouched (g g' : Gateway) : Prop where
  bus : g'.bus = g.bus
  recorder : g'.recorder = g.recorder

theorem Untouched.trans {a b c : Gateway} (hab : Untouched a b) (hbc : Untouched b c) :
    Untouched a c :=
  ⟨hbc.bus.trans hab.bus, hbc.recorder.trans hab.recorder⟩

/-- Everything that is wanted on a topic under one family is watched by the adapter. -/
theorem Hushed.watched (h : Hushed only g) (ho : only t p) {a : Adapter}
    (ha : g.adapterOn? t p = some a) : ∀ k ∈ g.wanted t, k ∈ a.watched t.object := by
  have hheld {keys : KeySet} (hw : g.Watches t p keys) : ∀ k ∈ keys, k ∈ a.watched t.object := by
    obtain ⟨ks, hks, hmem⟩ := hw
    intro k hk
    rw [h.faithful.watched ha, hks]
    exact hmem k hk
  intro k hk
  rcases mem_wanted.mp hk with hk | ⟨i, hi, hk⟩
  · obtain ⟨id, i, hasks, hk⟩ := Bus.mem_sensorsOn.mp hk
    have hcovered := h.served.covered hasks
    rw [h.served.family ho hasks] at hcovered
    exact hheld hcovered k hk
  · exact hheld (h.served.trackedCovered ho hi) k hk

/-- Pointing an adapter at such a topic touches neither the bus nor the recorder. -/
theorem Hushed.untouched_reconcile (h : Hushed only g) (ho : only t p) :
    Untouched g (g.reconcile t p).1 := by
  have hcall : g.pointingCall t = some (Adapter.pointing t.object (g.wanted t)) :=
    pointingCall_eq fun _ => h.served.tracking
  cases hn : g.routes.get? ⟨t.server, p⟩ with
  | none =>
    rw [(reconcile_of_unserved hn).1]
    exact ⟨rfl, rfl⟩
  | some n =>
    have hlt : n < g.adapters.length := h.served.routed.present hn
    have ha : g.adapters[n]? = some g.adapters[n] := List.getElem?_eq_getElem hlt
    have hon : g.adapterOn? t p = some g.adapters[n] := by
      unfold adapterOn?
      rw [hn]
      exact ha
    have hsilent := (h.reticent _ (List.getElem_mem hlt)).isSilent (h.watched ho hon) g.clock.wall
    rw [reconcile_eq_call hn hcall, call_of_silent ha hsilent]
    exact ⟨rfl, rfl⟩

theorem Hushed.reconcile (h : Hushed only g) (t : Topic) (p : Protocol) :
    Hushed only (g.reconcile t p).1 where
  served := h.served.reconcile t p
  faithful := faithful_reconcile h.faithful t p
  reticent := callInductive_reticent.quiet.reconcile h.reticent t p

/-- Releasing topics one after the other touches neither. -/
theorem Hushed.untouched_releaseTopics (h : Hushed only g) {topics : List (Topic × Protocol)}
    (ho : ∀ e ∈ topics, only e.1 e.2) : Untouched g (g.releaseTopics topics) := by
  unfold releaseTopics
  induction topics generalizing g with
  | nil => exact ⟨rfl, rfl⟩
  | cons e rest ih =>
    have hfirst := h.untouched_reconcile (ho e List.mem_cons_self)
    have hrest := ih (h.reconcile e.1 e.2) fun e' he' => ho e' (List.mem_cons_of_mem e he')
    exact hfirst.trans hrest

/-! ## Silence -/

end Gateway

/-- Whether an event carries values of sensors. -/
def Event.isBatch : Event → Bool
  | .batch _ => true
  | _ => false

namespace Gateway

/-- No channel has got any sensor batch, and no record was made or lost. -/
structure Silent (g g' : Gateway) : Prop where
  batches : ∀ id, (g'.bus.place id).waiting.filter Event.isBatch =
    (g.bus.place id).waiting.filter Event.isBatch
  records : g'.recorder.records = g.recorder.records

theorem Untouched.silent (h : Untouched g g') : Silent g g' :=
  ⟨fun _ => by rw [h.bus], by rw [h.recorder]⟩

/-- What a session asks for does not matter to its channel. -/
theorem waiting_restore {b b' : Bus} {id : SessionId} {o : Option Interest}
    (hb : b.restore id t o = .ok b') (id' : SessionId) :
    (b'.place id').waiting = (b.place id').waiting := by
  obtain ⟨-, rfl⟩ := Bus.restore_eq_ok hb
  rw [Bus.place_modify (fun _ => Bus.id_setSubscription) id]
  split
  · cases b.place id' with
    | registered s => cases o <;> rfl
    | _ => rfl
  · rfl

/-- What waits for a browser goes on waiting when the session is closed. -/
theorem waiting_close {b : Bus} (hd : b.Distinct) (id id' : SessionId) :
    ((b.close id).1.place id').waiting = (b.place id').waiting := by
  rw [Bus.place_close hd]
  split
  · cases b.place id' <;> rfl
  · rfl

/-- An event for everybody that carries no values. -/
theorem batches_broadcast {b : Bus} (hd : b.Distinct) {e : Event} (he : e.isBatch = false)
    (id : SessionId) : ((b.broadcast e).1.place id).waiting.filter Event.isBatch =
      (b.place id).waiting.filter Event.isBatch := by
  rw [show b.broadcast e = b.deliver fun _ => some e from rfl, Bus.place_deliver hd]
  cases b.place id with
  | registered s =>
    rcases Bus.tell_some b.capacity s e with ⟨-, htell⟩ | ⟨-, htell⟩
    · simp only [Place.onRegistered, htell]
      rfl
    · simp only [Place.onRegistered, htell]
      show (s.channel.waiting ++ [e]).filter Event.isBatch = s.channel.waiting.filter Event.isBatch
      rw [List.filter_append, List.filter_cons_of_neg (by simp [he]), List.filter_nil,
        List.append_nil]
  | _ => rfl

/-- A recording that stops is told to all sessions, and that is all. -/
theorem Hushed.silent_stopRecording (h : Hushed only g) (hd : g.bus.Distinct)
    (hone : ∀ t, ∃ p, only t p) : Silent g g.stopRecording.1 := by
  unfold stopRecording
  cases hstop : g.recorder.stop? g.clock.wall with
  | none => exact ⟨fun _ => rfl, rfl⟩
  | some stopped =>
    obtain ⟨r, tracked⟩ := stopped
    obtain ⟨-, -, htracked⟩ := Recorder.stop?_eq_some hstop
    have hrecords : r.records = g.recorder.records := by
      unfold Recorder.stop? at hstop
      split at hstop
      · obtain ⟨rfl, -⟩ := Prod.mk.inj (Option.some.inj hstop)
        rfl
      · cases hstop
    have hstopped : Hushed only { g with recorder := r } :=
      ⟨h.served.stop hstop, h.faithful, h.reticent⟩
    -- a tracked topic is tracked under the one family that it is asked for
    have honly : ∀ e ∈ tracked.toList.map (fun e : Topic × Interest => (e.1, e.2.protocol)),
        only e.1 e.2 := by
      intro e he
      obtain ⟨⟨t, i⟩, hmem, rfl⟩ := List.mem_map.mp he
      obtain ⟨p, ho⟩ := hone t
      have hi : g.recorder.tracked.get? t = some i :=
        htracked ▸ SortedMap.mem_toList_iff.mp hmem
      rw [show (t, i.protocol).2 = p from h.served.trackedFamily ho hi]
      exact ho
    have hreleased := hstopped.untouched_releaseTopics honly
    show Silent g (Gateway.releaseTopics { g with recorder := r }
      (tracked.toList.map fun e : Topic × Interest => (e.1, e.2.protocol))).announceRecording.1
    generalize Gateway.releaseTopics { g with recorder := r }
      (tracked.toList.map fun e : Topic × Interest => (e.1, e.2.protocol)) = released
      at hreleased ⊢
    have hbus : released.bus = g.bus := hreleased.bus
    constructor
    · intro id
      show ((released.bus.broadcast (.recording _)).1.place id).waiting.filter Event.isBatch = _
      rw [hbus]
      exact batches_broadcast hd rfl id
    · show released.recorder.records = g.recorder.records
      rw [hreleased.recorder]
      exact hrecords

/-- **Giving up interest never produces data.** Take any run that asks for each topic under one
family only, whatever adapters refused, whoever was evicted and whatever is still to be released.
Let a session give up a topic, let topics be released under their families, or what closed sessions
have left, in any order and as often as you like, or let the recording stop: no channel gets any
sensor batch, and no record is made. Releasing topics touches neither the bus nor the recorder, so no
subscription, no tracked topic and no channel changes, and giving up a topic changes one
subscription. -/
theorem giving_up_is_silent (r : Run) (hmore : ∀ i ∈ r.more, i.adapter.Reticent)
    (hone : ∀ t, ∃ p, ∀ op ∈ r.ops, op.KeepsTo t p) :
    let g := r.gateway
    (∀ id t p, (∀ op ∈ r.ops, op.KeepsTo t p) →
      Silent g (g.unsubscribe id t p).1 ∧
        (g.unsubscribe id t p).1.bus = BusOp.unlessRefused g.bus (g.bus.unsubscribe id t) ∧
        (g.unsubscribe id t p).1.recorder = g.recorder) ∧
    (∀ topics : List (Topic × Protocol),
      (∀ e ∈ topics, e ∈ r.world.pending ∨ ∀ op ∈ r.ops, op.KeepsTo e.1 e.2) →
        Untouched g (g.releaseTopics topics)) ∧
    (∀ id, Silent g ((g.closeSession id).1.releaseTopics (g.closeSession id).2)) ∧
    Silent g g.stopRecording.1 := by
  intro g
  let only (t : Topic) (p : Protocol) : Prop := ∀ op ∈ r.ops, op.KeepsTo t p
  have hserved : Served only g := served_run r only fun op hop t p ho => ho op hop
  have hhushed : Hushed only g := ⟨hserved, r.faithful_gateway, r.reticent hmore⟩
  have hd : g.bus.Distinct := (sound_run r).distinct
  refine ⟨?_, ?_, ?_, ?_⟩
  · intro id t p ho
    unfold Gateway.unsubscribe Bus.unsubscribe
    cases hb : g.bus.restore id t none with
    | error e => exact ⟨⟨fun _ => rfl, rfl⟩, rfl, rfl⟩
    | ok b =>
      have hgiven : Hushed only { g with bus := b } :=
        ⟨hserved.giveUp hb, hhushed.faithful, hhushed.reticent⟩
      have huntouched := hgiven.untouched_reconcile ho
      refine ⟨⟨fun id' => ?_, ?_⟩, huntouched.bus, huntouched.recorder⟩
      · simp only [huntouched.bus, waiting_restore hb]
      · simp only [huntouched.recorder]
  · intro topics htopics
    apply hhushed.untouched_releaseTopics
    intro e he
    rcases htopics e he with hpending | ho
    · -- what a closed session has left is under the family of the topic
      obtain ⟨p, ho⟩ := hone e.1
      rw [(kept_run r ho).family hpending]
      exact ho
    · exact ho
  · intro id
    have hclosed : Hushed only (g.closeSession id).1 :=
      ⟨hserved.closeSession id, hhushed.faithful, hhushed.reticent⟩
    have honly : ∀ e ∈ (g.closeSession id).2, only e.1 e.2 := by
      rintro ⟨t, p⟩ he
      obtain ⟨i, hasks, rfl⟩ := Bus.mem_topics_of_close he
      obtain ⟨p, ho⟩ := hone t
      rw [show (t, i.protocol).2 = p from hserved.family ho hasks]
      exact ho
    have huntouched := hclosed.untouched_releaseTopics honly
    refine ⟨fun id' => ?_, congrArg Recorder.records huntouched.recorder⟩
    have hwaiting := waiting_close hd id id'
    rw [huntouched.bus]
    exact congrArg (·.filter Event.isBatch) hwaiting
  · exact hhushed.silent_stopRecording hd hone

/-- A boiler that is recorded, and a till that refuses everything. The first session is evicted when
the recording starts, the second one is closed and has left the boiler to be released, and a third
one asks for the same sensors by other keys. -/
def weary : Run where
  config := {
    servers := [{
      id := some "plant"
      url := "http://plant"
      loopback := [⟨"boiler", .modbus, [⟨some 7, "heat", .int 60⟩, ⟨some 8, "flow", .int 2⟩]⟩] }]
    sessions := { channelCapacity := 2 } }
  clock := ⟨⟨0, 0⟩, 0⟩
  more := [⟨"shop", .scripted (.new .modbus
      { delay := fun _ _ => 0, refusal := fun _ _ => some .rejected }),
    fun _ => rfl⟩]
  ops := [.openSession ⟨1⟩, .subscribe ⟨1⟩ ⟨"plant", "boiler"⟩ .modbus (.ofList [.id 7]),
    .openSession ⟨2⟩, .subscribe ⟨2⟩ ⟨"plant", "boiler"⟩ .modbus (.ofList [.name "flow"]),
    .receive ⟨2⟩ 1, .subscribe ⟨2⟩ ⟨"shop", "till"⟩ .modbus (.ofList [.id 1]), .startRecording,
    .receive ⟨2⟩ 2, .openSession ⟨3⟩,
    .subscribe ⟨3⟩ ⟨"plant", "boiler"⟩ .modbus (.ofList [.name "heat", .id 8]),
    .closeSession ⟨2⟩]
  admissible := by decide

/-- Releasing the boiler twice touches nothing. When the third session gives it up, or the recording
stops, nobody is told a value. -/
theorem weary_gives_up_in_silence :
    let g := weary.gateway
    weary.world.pending = [(⟨"plant", "boiler"⟩, .modbus)] ∧
      g.bus.departed.map (·.id) = [⟨1⟩, ⟨2⟩] ∧ g.recorder.records.length = 2 ∧
      g.calls.map (·.result.isOk) = [true, true, false, false, true, true] ∧
      Untouched g (g.releaseTopics
        [(⟨"plant", "boiler"⟩, .modbus), (⟨"plant", "boiler"⟩, .modbus)]) ∧
      Silent g (g.unsubscribe ⟨3⟩ ⟨"plant", "boiler"⟩ .modbus).1 ∧
      Silent g g.stopRecording.1 := by
  intro g
  have hkeeps : ∀ t, ∀ op ∈ weary.ops, op.KeepsTo t .modbus := by
    intro t
    simp [weary, Op.KeepsTo]
  have hquiet : ∀ i ∈ weary.more, i.adapter.Reticent := by
    intro i hi
    obtain rfl := List.mem_singleton.mp hi
    exact fun _ _ => rfl
  obtain ⟨hunsubscribe, hrelease, -, hstop⟩ :=
    giving_up_is_silent weary hquiet fun t => ⟨.modbus, hkeeps t⟩
  have hreleased := hrelease [(⟨"plant", "boiler"⟩, .modbus), (⟨"plant", "boiler"⟩, .modbus)] (by
    intro e he
    rcases List.mem_cons.mp he with rfl | he
    · exact .inl (by decide)
    · obtain rfl := List.mem_singleton.mp he
      exact .inl (by decide))
  exact ⟨by decide, by decide, by decide, by decide, hreleased,
    (hunsubscribe ⟨3⟩ ⟨"plant", "boiler"⟩ .modbus (hkeeps _)).1, hstop⟩

end Gateway

end SensorGateway
