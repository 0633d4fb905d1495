/-
# SensorGateway.Proofs.Gateway.Replica -- what dashboards show is so

A dashboard starts with its handshake and follows its event stream: the last status of control
and the last status of the recording count (`Replica`). `replicas_match` says that it then shows
how the gateway stands, whenever it came and whatever happened since, as long as its session is
registered. Behind that stands what each operation puts into the channels of the sessions that
it leaves registered: some sensor batches, and after them its news (`Op.news`), which is one
status for each start, stop or change of control that takes effect and for each clear, and else
nothing.

Events that somebody broadcasts or sends on the bus directly are left out; they could say
anything. Operations happen one after the other.
-/
import SensorGateway.Proofs.Gateway.Control
import SensorGateway.Proofs.Gateway.Observations
import SensorGateway.Proofs.Gateway.Subscription

namespace SensorGateway

/-! ## Replicas -/

/-- What a dashboard shows of control and of the recording. -/
structure Replica where
  hasController : Bool
  isRecording : Bool
deriving DecidableEq, Repr

namespace Replica

/-- What a dashboard shows first. -/
def ofHandshake (c : Connected) : Replica := ⟨c.control.hasController, c.recording.isRecording⟩

/-- What a dashboard shows after one more event. -/
def see (x : Replica) : Event → Replica
  | .control s => { x with hasController := s.hasController }
  | .recording s => { x with isRecording := s.isRecording }
  | .batch _ => x
  | .connected c => .ofHandshake c

/-- Sensor batches change nothing that is shown. -/
theorem foldl_see_batches (bs : List Batch) (x : Replica) :
    (bs.map Event.batch).foldl see x = x := by
  induction bs with
  | nil => rfl
  | cons b rest ih => exact ih

end Replica

/-- What a dashboard should show of a gateway. -/
def Gateway.shown (g : Gateway) : Replica := ⟨g.arbiter.holder.isSome, g.recorder.isRecording⟩

/-- What an operation has to tell all sessions beside values: the status that it returns, or that
control has afterwards. -/
def Op.news (g : Gateway) : Op → List Event
  | .startRecording =>
    if g.recorder.isRecording then [] else [.recording g.startRecording.2]
  | .stopRecording =>
    if g.recorder.isRecording then [.recording g.stopRecording.2] else []
  | .clearRecording => [.recording g.clearRecording.2]
  | .takeControl token =>
    if (g.takeControl token).2.isOk then [.control (g.takeControl token).1.arbiter.current] else []
  | .releaseControl => [.control g.releaseControl.2]
  | .expireControl =>
    if g.expireControl.2 then [.control g.expireControl.1.arbiter.current] else []
  | _ => []

/-! ## Telling sessions -/

theorem Session.waiting_of_told {capacity : Nat} {e : Option Event} {s s' : Session}
    (h : (s.tell capacity e).place = .registered s') :
    s'.channel.waiting = s.channel.waiting ++ e.toList := by
  cases e with
  | none =>
    cases h
    exact (List.append_nil _).symm
  | some e =>
    -- a session that is told through a closed or a full channel is evicted
    unfold tell Channel.offer at h
    cases ho : s.channel.isOpen with
    | false => simp [ho, Outcome.place] at h
    | true =>
      by_cases hroom : s.channel.waiting.length < capacity
      · simp only [ho, hroom, Bool.not_true, Bool.false_eq_true, if_false, if_true] at h
        cases h
        rfl
      · simp [ho, hroom, Outcome.place] at h

/-- Who is still registered after everybody was told was registered before, and has got its news. -/
theorem Bus.waiting_deliver {b : Bus} (hd : b.Distinct) (news : Session → Option Event)
    {id : SessionId} (h : (b.deliver news).1.isRegistered id = true) :
    ∃ s, b.place id = .registered s ∧
      ((b.deliver news).1.place id).waiting = (b.place id).waiting ++ (news s).toList := by
  obtain ⟨s', hs'⟩ := isRegistered_iff_place.mp h
  rw [hs']
  rw [place_deliver hd] at hs'
  cases hs : b.place id with
  | nowhere => rw [hs] at hs'; cases hs'
  | departed s => rw [hs] at hs'; cases hs'
  | registered s =>
    rw [hs] at hs'
    exact ⟨s, rfl, Session.waiting_of_told hs'⟩

namespace Gateway

/-- A session that stays registered gets some sensor batches, and some news after them, and the
news tell everything that changed. -/
structure Brings (id : SessionId) (news : List Event) (g g' : Gateway) : Prop where
  shown : g'.shown = news.foldl Replica.see g.shown
  /-- Sessions move, but none comes, and none is forgotten. -/
  ids : g.bus.Distinct → g.bus.ids.Perm g'.bus.ids
  mail : g.bus.Distinct → g'.bus.isRegistered id = true → g.bus.isRegistered id = true ∧
    ∃ bs : List Batch, (g'.bus.place id).waiting =
      (g.bus.place id).waiting ++ (bs.map Event.batch ++ news)

variable {id : SessionId} {news : List Event} {g g' : Gateway}

/-- Whatever leaves the bus, the recording and control alone. -/
theorem Brings.of_same (hshown : g'.shown = g.shown) (hbus : g'.bus = g.bus) :
    Brings id [] g g' where
  shown := hshown
  ids _ := .of_eq (congrArg Bus.ids hbus.symm)
  mail _ hr := ⟨hbus ▸ hr, [], by rw [hbus]; exact (List.append_nil _).symm⟩

theorem Brings.refl (g : Gateway) : Brings id [] g g := .of_same rfl rfl

theorem Brings.distinct (h : Brings id news g g') (hd : g.bus.Distinct) : g'.bus.Distinct :=
  (h.ids hd).nodup_iff.mp hd

/-- Batches come before news. -/
theorem Brings.trans {a b c : Gateway} (h : Brings id [] a b) (h' : Brings id news b c) :
    Brings id news a c where
  shown := by
    rw [h'.shown, h.shown]
    rfl
  ids hd := (h.ids hd).trans (h'.ids (h.distinct hd))
  mail hd hr := by
    obtain ⟨hr, bs', hbs'⟩ := h'.mail (h.distinct hd) hr
    obtain ⟨hr, bs, hbs⟩ := h.mail hd hr
    refine ⟨hr, bs ++ bs', ?_⟩
    rw [hbs', hbs]
    simp

/-- What changes before anybody is told may be told in the end. -/
theorem Brings.of_told {g₀ : Gateway} (h : Brings id news g₀ g') (hbus : g₀.bus = g.bus)
    (htold : news.foldl Replica.see g₀.shown = news.foldl Replica.see g.shown) :
    Brings id news g g' where
  shown := h.shown.trans htold
  ids := hbus ▸ h.ids
  mail := hbus ▸ h.mail

theorem brings_publish (g : Gateway) (b : Batch) : Brings id [] g (g.publish b).1 where
  shown := by
    unfold Gateway.shown
    exact congrArg (Replica.mk _) (Recorder.isRecording_recordBatch g.recorder b)
  ids _ := Bus.ids_perm_of_thins (Bus.thins_deliver g.bus _)
  mail hd hr := by
    obtain ⟨s, hs, hwaiting⟩ := Bus.waiting_deliver hd (·.share b) hr
    refine ⟨Bus.isRegistered_iff_place.mpr ⟨s, hs⟩, ?_⟩
    have hshare : ∃ bs : List Batch, (s.share b).toList = bs.map Event.batch := by
      unfold Session.share
      dsimp only
      split
      · exact ⟨[], rfl⟩
      · exact ⟨[_], rfl⟩
    obtain ⟨bs, hbs⟩ := hshare
    exact ⟨bs, by rw [List.append_nil, ← hbs]; exact hwaiting⟩

theorem brings_publishFrom (g : Gateway) (b : Batch) : Brings id [] g (g.publishFrom b).1 := by
  unfold publishFrom
  split
  · exact .refl g
  · exact brings_publish g b

/-- Everybody is told how things stand. -/
theorem brings_broadcast {g : Gateway} {e : Event} (h : g.shown.see e = g.shown) :
    Brings id [e] g (g.broadcast e).1 where
  shown := h.symm
  ids _ := Bus.ids_perm_of_thins (Bus.thins_deliver g.bus _)
  mail hd hr := by
    obtain ⟨s, hs, hwaiting⟩ := Bus.waiting_deliver hd (fun _ => some e) hr
    exact ⟨Bus.isRegistered_iff_place.mpr ⟨s, hs⟩, [], hwaiting⟩

/-! ## Asking adapters -/

theorem brings_call (g : Gateway) (n : Nat) (c : Adapter.Call) : Brings id [] g (g.call n c).1 :=
  call_induction (P := Brings id [] g) (.refl g) (fun _ => .of_same rfl rfl)
    fun g' b h => h.trans (brings_publishFrom g' b)

theorem brings_request (g : Gateway) (t : Topic) (p : Protocol) (c : Adapter.Call) :
    Brings id [] g (g.request t p c).1 :=
  request_induction (P := Brings id [] g) (.refl g) (fun n => brings_call g n c) t p

theorem brings_reconcile (g : Gateway) (t : Topic) (p : Protocol) :
    Brings id [] g (g.reconcile t p).1 :=
  reconcile_induction (P := Brings id [] g) (.refl g) (brings_request g t p)

theorem brings_releaseTopics (g : Gateway) (topics : List (Topic × Protocol)) :
    Brings id [] g (g.releaseTopics topics) :=
  releaseTopics_induction (P := Brings id [] g)
    (fun g' t p h => h.trans (brings_reconcile g' t p)) (.refl g) topics

theorem brings_captureBaseline (g : Gateway) (topics : List (Topic × Interest)) :
    Brings id [] g (g.captureBaseline topics) :=
  captureBaseline_induction (P := Brings id [] g)
    (fun g' t p h => h.trans (brings_request g' t p _)) (.refl g) topics

/-! ## Sessions ask and go -/

theorem brings_restore {id' : SessionId} {t : Topic} {i : Option Interest} {b : Bus}
    (hb : g.bus.restore id' t i = .ok b) : Brings id [] g { g with bus := b } where
  shown := rfl
  ids _ := .of_eq (Bus.ids_restore hb).1.symm
  mail _ hr := by
    refine ⟨(Bus.isRegistered_restore hb).symm.trans hr, [], ?_⟩
    have hplace := g.bus.place_ask id id' t i
    rw [hb] at hplace
    show (b.place id).waiting = (g.bus.place id).waiting ++ []
    rw [List.append_nil, show b.place id = _ from hplace]
    split
    · cases i <;> cases g.bus.place id <;> rfl
    · rfl

theorem brings_reconcileWith {id' : SessionId} {t : Topic} {i : Option Interest} {b : Bus}
    (hb : g.bus.restore id' t i = .ok b) (p : Protocol) :
    Brings id [] g ({ g with bus := b }.reconcile t p).1 :=
  (brings_restore hb).trans (brings_reconcile _ t p)

theorem brings_subscribe (g : Gateway) (id' : SessionId) (t : Topic) (p : Protocol)
    (keys : KeySet) : Brings id [] g (g.subscribe id' t p keys).1 := by
  apply subscribe_induction (P := Brings id [] g)
  case restored => exact fun g' id' i b hb h => h.trans (brings_reconcileWith hb p)
  case tracked =>
    intro g' keys h
    refine h.trans (.of_same ?_ rfl)
    exact congrArg (Replica.mk _) (Recorder.isRecording_track _ t p keys)
  case hg => exact .refl g

theorem brings_unsubscribe (g : Gateway) (id' : SessionId) (t : Topic) (p : Protocol) :
    Brings id [] g (g.unsubscribe id' t p).1 := by
  rcases unsubscribe_cases g id' t p with hsame | ⟨b, hb, hrec⟩
  · rw [hsame]
    exact .refl g
  · rw [hrec]
    exact brings_reconcileWith hb p

/-- Who is closed is not registered afterwards; nobody else notices. -/
theorem brings_closeSession (g : Gateway) (id' : SessionId) :
    Brings id [] g (g.closeSession id').1 where
  shown := rfl
  ids hd := Bus.ids_perm_of_thins (Bus.thins_close hd id')
  mail hd hr := by
    have hplace : (g.closeSession id').1.bus.place id =
        if id' = id then (g.bus.place id).onRegistered .departed else g.bus.place id :=
      Bus.place_close hd id'
    obtain ⟨s, hs⟩ := Bus.isRegistered_iff_place.mp hr
    rw [hplace] at hs ⊢
    split at hs
    · cases h : g.bus.place id <;> rw [h] at hs <;> cases hs
    · next hother =>
      rw [if_neg hother]
      exact ⟨Bus.isRegistered_iff_place.mpr ⟨s, hs⟩, [], (List.append_nil _).symm⟩

/-! ## Control -/

theorem brings_announceControl (g : Gateway) (a : Arbiter) :
    Brings id [.control a.current] g { g with arbiter := a }.announceControl :=
  Brings.of_told (brings_broadcast rfl) rfl rfl

theorem brings_takeControl (g : Gateway) (token : String) :
    Brings id ((Op.takeControl token).news g) g (g.takeControl token).1 := by
  cases ha : g.arbiter.take g.clock.elapsed token with
  | error e =>
    have hrefused : g.takeControl token = (g, .error (.control e)) := by rw [takeControl, ha]
    simp only [Op.news, hrefused]
    exact .refl g
  | ok a =>
    have htaken : g.takeControl token =
        ({ g with arbiter := a }.announceControl, .ok ⟨true, true, a.timeoutSec⟩) := by
      rw [takeControl, ha]
    simp only [Op.news, htaken]
    exact g.brings_announceControl a

theorem brings_expireControl (g : Gateway) :
    Brings id (Op.expireControl.news g) g g.expireControl.1 := by
  cases ha : g.arbiter.expire? g.clock.elapsed with
  | none =>
    have hbusy : g.expireControl = (g, false) := by rw [expireControl, ha]
    simp only [Op.news, hbusy]
    exact .refl g
  | some a =>
    have hidle : g.expireControl = ({ g with arbiter := a }.announceControl, true) := by
      rw [expireControl, ha]
    simp only [Op.news, hidle]
    exact g.brings_announceControl a

theorem brings_authorize (g : Gateway) (token : Option String) :
    Brings id [] g (g.authorize token).1 := by
  unfold authorize
  cases ha : g.arbiter.authorize g.clock.elapsed token with
  | error e => exact .refl g
  | ok a =>
    -- who may write has control, and keeps it
    refine .of_same (congrArg (Replica.mk · _) ?_) rfl
    rw [Arbiter.authorize_eq] at ha
    split at ha
    · cases ha
    · split at ha
      · next hnamed hholds =>
        obtain rfl := Except.ok.inj ha
        cases token with
        | none => exact absurd rfl hnamed
        | some t =>
          have hholder : g.arbiter.token?.isSome = true := by
            rw [hholds]
            rfl
          rw [Arbiter.token?, Option.isSome_map] at hholder
          exact hholder.symm
      · cases ha

theorem brings_setValue (g : Gateway) (token : Option String) (t : Topic) (p : Protocol)
    (k : SensorKey) (v : SensorValue) : Brings id [] g (g.setValue token t p k v).1 := by
  have hauthorize : Brings id [] g (g.authorize token).1 := brings_authorize g token
  unfold setValue
  split
  · next heq =>
    rw [heq] at hauthorize
    exact hauthorize
  · next heq =>
    rw [heq] at hauthorize
    exact hauthorize.trans (brings_request _ t p _)

/-! ## Recordings -/

theorem brings_announceRecording (g : Gateway) :
    Brings id [.recording g.recorder.status] g g.announceRecording.1 :=
  brings_broadcast rfl

/-- A recorder changes, and values may come in. Then everybody is told how the recording stands. -/
theorem brings_recording {r : Recorder} (h : Brings id [] { g with recorder := r } g') :
    Brings id [.recording g'.recorder.status] g g'.announceRecording.1 :=
  (h.trans g'.brings_announceRecording).of_told rfl rfl

theorem brings_startRecording (g : Gateway) :
    Brings id (Op.startRecording.news g) g g.startRecording.1 := by
  cases hr : g.recorder.start? g.clock.wall g.activeInterests with
  | none =>
    rw [Op.news, startRecording, hr, if_pos (Recorder.start?_eq_none hr)]
    exact .refl g
  | some r =>
    rw [Op.news, startRecording, hr, (Recorder.start?_eq_some hr).1, if_neg Bool.false_ne_true]
    exact brings_recording (brings_captureBaseline _ _)

theorem brings_stopRecording (g : Gateway) :
    Brings id (Op.stopRecording.news g) g g.stopRecording.1 := by
  cases hr : g.recorder.stop? g.clock.wall with
  | none =>
    rw [Op.news, stopRecording, hr, Recorder.stop?_eq_none hr, if_neg Bool.false_ne_true]
    exact .refl g
  | some stopped =>
    rw [Op.news, stopRecording, hr, if_pos (Recorder.isRecording_of_stop? hr)]
    exact brings_recording (r := stopped.1) (brings_releaseTopics _ _)

end Gateway

/-! ## Operations -/

namespace Op

/-- What a session that comes, and a browser that reads or goes away, do to the bus. -/
def move? : Op → Option BusOp
  | .openSession id => some (.register id)
  | .receive id max => some (.receive id max)
  | .hangUp id => some (.hangUp id)
  | _ => none

/-- An operation happens on the bus alone, and nobody is told. -/
structure Moves (op : Op) (move : BusOp) (w : World) : Prop where
  possible : move.IsPossible w.gateway.bus
  takes : ∀ id, op.takes w.gateway id = move.takes w.gateway.bus id
  bus : (op.act w.gateway).bus = move.act w.gateway.bus
  silent : move.handed = []
  news : op.news w.gateway = []
  shown : (op.act w.gateway).shown = w.gateway.shown
  ids : w.gateway.bus.ids ⊆ (op.act w.gateway).bus.ids

theorem moves {w : World} {op : Op} {move : BusOp} (h : op.move? = some move)
    (hop : w.Admits op) : op.Moves move w := by
  cases op with
  | openSession id =>
    cases h
    refine ⟨hop, fun _ => rfl, rfl, rfl, rfl, rfl, ?_⟩
    exact fun _ hid => (Bus.ids_register hop).mem_iff.mpr (List.mem_cons_of_mem id hid)
  | receive id max =>
    cases h
    exact ⟨trivial, fun _ => rfl, rfl, rfl, rfl, rfl,
      (Bus.ids_perm_of_thins (Bus.thins_receive _ id max)).subset⟩
  | hangUp id =>
    cases h
    exact ⟨trivial, fun _ => rfl, rfl, rfl, rfl, rfl,
      (Bus.ids_perm_of_thins (Bus.thins_hangUp _ id)).subset⟩
  | _ => cases h

/-- All other operations bring values and news. -/
theorem brings {op : Op} (hown : op.IsOwn) (h : op.move? = none) (g : Gateway) (id : SessionId) :
    Gateway.Brings id (op.news g) g (op.act g) := by
  cases op with
  | openSession id => cases h
  | receive id max => cases h
  | hangUp id => cases h
  | broadcast e => exact hown.elim
  | sendTo id e => exact hown.elim
  | closeSession id => exact g.brings_closeSession id
  | cleanUp t p => exact g.brings_releaseTopics [(t, p)]
  | subscribe id t p keys => exact g.brings_subscribe id t p keys
  | unsubscribe id t p => exact g.brings_unsubscribe id t p
  | releaseTopics topics => exact g.brings_releaseTopics topics
  | startRecording => exact g.brings_startRecording
  | stopRecording => exact g.brings_stopRecording
  | clearRecording => exact Gateway.brings_recording (.refl _)
  | setValue token t p k v => exact g.brings_setValue token t p k v
  | takeControl token => exact g.brings_takeControl token
  | releaseControl => exact g.brings_announceControl g.arbiter.release
  | expireControl => exact g.brings_expireControl
  | authorize token => exact g.brings_authorize token
  | publish b => exact g.brings_publish b
  | elapse ms wall => exact .of_same rfl rfl

theorem takes_of_no_move {op : Op} (h : op.move? = none) (g : Gateway) (id : SessionId) :
    op.takes g id = [] := by
  cases op with
  | openSession id => cases h
  | receive id max => cases h
  | hangUp id => cases h
  | _ => rfl

/-- The news of an operation tell everything that it changed. -/
theorem shown_act {w : World} {op : Op} (hown : op.IsOwn) (hop : w.Admits op) :
    (op.act w.gateway).shown = (op.news w.gateway).foldl Replica.see w.gateway.shown := by
  cases hm : op.move? with
  | some move =>
    have hmoves := Op.moves hm hop
    rw [hmoves.shown, hmoves.news]
    rfl
  | none => exact (Op.brings hown hm w.gateway ⟨0⟩).shown

/-- Identifiers of sessions stay in use. -/
theorem ids_act {w : World} (hd : w.gateway.bus.Distinct) {op : Op} (hown : op.IsOwn)
    (hop : w.Admits op) : w.gateway.bus.ids ⊆ (op.act w.gateway).bus.ids := by
  cases hm : op.move? with
  | some move => exact (Op.moves hm hop).ids
  | none => exact ((Op.brings hown hm w.gateway ⟨0⟩).ids hd).subset

/-- No operation registers a session whose identifier is in use. -/
theorem isRegistered_of_act {w : World} (hd : w.gateway.bus.Distinct) {op : Op} (hown : op.IsOwn)
    (hop : w.Admits op) {id : SessionId} (hid : id ∈ w.gateway.bus.ids)
    (hr : (op.act w.gateway).bus.isRegistered id = true) :
    w.gateway.bus.isRegistered id = true := by
  cases hm : op.move? with
  | some move =>
    have hmoves := Op.moves hm hop
    rw [hmoves.bus] at hr
    -- a new session has an identifier that is not in use
    refine (Bus.isRegistered_of_act hd hr).resolve_right fun hnew => ?_
    obtain rfl := eq_register_of_toward hnew
    exact hmoves.possible hid
  | none => exact ((Op.brings hown hm w.gateway id).mail hd hr).1

end Op

namespace Usage

variable {u : Usage} {op : Op} {id : SessionId}

/-- Sessions that stay registered get batches and news. -/
theorem mail_step (hd : u.world.gateway.bus.Distinct) (hown : op.IsOwn) (hop : u.world.Admits op)
    (hr : (op.act u.world.gateway).bus.isRegistered id = true) :
    ∃ bs : List Batch, (u.step op).mail id =
      u.mail id ++ (bs.map Event.batch ++ op.news u.world.gateway) := by
  cases hm : op.move? with
  | some move =>
    have hmoves := Op.moves hm hop
    refine ⟨[], ?_⟩
    rw [hmoves.news]
    show (u.step op).traffic.mail id = u.traffic.mail id ++ []
    rw [traffic_step hmoves.takes hmoves.bus,
      Traffic.mail_step_of_silent hd hmoves.possible hmoves.silent, List.append_nil]
  | none =>
    -- nothing leaves a channel, so all that is new waits in it
    obtain ⟨-, bs, hbs⟩ := (Op.brings hown hm u.world.gateway id).mail hd hr
    refine ⟨bs, ?_⟩
    show (u.step op).taken id ++ ((op.act u.world.gateway).bus.place id).waiting = _
    rw [taken_step (Op.takes_of_no_move hm u.world.gateway), hbs, ← List.append_assoc]
    rfl

/-- A dashboard that showed `first` when it came shows how things stand, as long as its session is
registered. -/
structure Mirrors (id : SessionId) (first : Replica) (u : Usage) : Prop where
  sound : Gateway.Sound u.world.closed u.world.gateway
  known : id ∈ u.world.gateway.bus.ids
  shown : u.world.gateway.bus.isRegistered id = true →
    (u.mail id).foldl Replica.see first = u.world.gateway.shown

theorem Mirrors.step {first : Replica} (h : Mirrors id first u) (hown : op.IsOwn)
    (hop : u.world.Admits op) : Mirrors id first (u.step op) where
  sound := h.sound.step hop
  known := Op.ids_act h.sound.distinct hown hop h.known
  shown hr := by
    obtain ⟨bs, hmail⟩ := mail_step h.sound.distinct hown hop hr
    have hbefore := Op.isRegistered_of_act h.sound.distinct hown hop h.known hr
    calc ((u.step op).mail id).foldl Replica.see first
        = (op.news u.world.gateway).foldl Replica.see
            ((bs.map Event.batch).foldl Replica.see ((u.mail id).foldl Replica.see first)) := by
          rw [hmail, List.foldl_append, List.foldl_append]
      _ = (op.news u.world.gateway).foldl Replica.see u.world.gateway.shown := by
          rw [h.shown hbefore, Replica.foldl_see_batches]
      _ = (op.act u.world.gateway).shown := (Op.shown_act hown hop).symm

theorem Mirrors.after {first : Replica} (h : Mirrors id first u) {ops : List Op}
    (hown : ∀ op ∈ ops, op.IsOwn) (hops : u.world.Admissible ops) :
    Mirrors id first (u.after ops) := by
  induction ops generalizing u with
  | nil => exact h
  | cons op ops ih =>
    obtain ⟨hop, hrest⟩ := List.forall_mem_cons.mp hown
    exact ih (h.step hop hops.1) hrest hops.2

/-- A dashboard that comes shows what the handshake says. -/
theorem mirrors_openSession {w : World} (h : Gateway.Sound w.closed w.gateway)
    (hop : w.Admits (.openSession id)) :
    Mirrors id (.ofHandshake (w.gateway.openSession id).2) ((start w).step (.openSession id)) where
  sound := h.step hop
  known := (Bus.ids_register hop).mem_iff.mpr List.mem_cons_self
  shown hr := by
    have hempty : (w.gateway.bus.register id).place id = .registered (.new id) := by
      rw [Bus.place_register, if_pos rfl]
    have hmail : ((start w).step (.openSession id)).mail id = [] :=
      congrArg Place.waiting hempty
    rw [hmail]
    rfl

end Usage

/-! ## Dashboards -/

/-- **What dashboards show is so.** After any run a session may come, and any operations of the
gateway may follow. If the session is still registered then, its dashboard, which began with the
handshake and saw every event of its channel, shows how the gateway stands: whether somebody has
control, and whether a recording runs.

In particular, every operation gives each session that it leaves registered some batches, and
after them its news and nothing else. -/
theorem replicas_match (r : Run) :
    (∀ (id : SessionId) (later : List Op), (∀ op ∈ later, op.IsOwn) →
      r.world.Admissible (.openSession id :: later) →
        let now := (Usage.start r.world).after (.openSession id :: later)
        now.world.gateway.bus.isRegistered id = true →
          (now.mail id).foldl Replica.see (.ofHandshake (r.gateway.openSession id).2) =
            ⟨now.world.gateway.arbiter.holder.isSome, now.world.gateway.recorder.isRecording⟩) ∧
    ∀ (op : Op) (id : SessionId), op.IsOwn → r.world.Admits op →
      (op.act r.gateway).bus.isRegistered id = true →
        ∃ batches : List Batch, ((Usage.start r.world).step op).mail id =
          (Usage.start r.world).mail id ++ (batches.map Event.batch ++ op.news r.gateway) := by
  have hsound := Gateway.sound_run r
  constructor
  case left =>
    intro id later hown hpossible now hr
    exact ((Usage.mirrors_openSession hsound hpossible.1).after hown hpossible.2).shown hr
  case right =>
    intro op id hown hop hr
    exact Usage.mail_step (u := .start r.world) hsound.distinct hown hop hr

/-- One session watches a sensor, and somebody has control. -/
def dayShift : Run where
  config := {
    servers := [{
      id := some "plant"
      url := "http://plant"
      loopback := [⟨"kettle", .modbus, [⟨some 7, "heat", .int 60⟩]⟩] }]
    control := { idleTimeoutSeconds := 60 } }
  clock := ⟨⟨0, 0⟩, 0⟩
  more := []
  ops := [.openSession ⟨1⟩, .subscribe ⟨1⟩ ⟨"plant", "kettle"⟩ .modbus (.ofList [.id 7]),
    .takeControl "day"]
  admissible := by decide

/-- After the second session has come, a recording starts once, another operator asks for control
in vain, and the first one is idle for too long. -/
def nightShift : List Op :=
  [.startRecording, .takeControl "night", .startRecording, .elapse 61000 ⟨61, 0⟩, .expireControl]

/-- The second dashboard was told of the recording and of control, once each. To the first one the
start of the recording brought the value of its sensor before the status. -/
theorem nightShift_shown :
    let now := (Usage.start dayShift.world).after (.openSession ⟨2⟩ :: nightShift)
    let started := (Usage.start dayShift.world).step .startRecording
    Replica.ofHandshake (dayShift.gateway.openSession ⟨2⟩).2 = ⟨true, false⟩ ∧
      now.world.gateway.arbiter.holder.isSome = false ∧
      now.world.gateway.recorder.isRecording = true ∧
      (now.mail ⟨2⟩).length = 2 ∧
      (now.mail ⟨2⟩).foldl Replica.see (.ofHandshake (dayShift.gateway.openSession ⟨2⟩).2) =
        ⟨now.world.gateway.arbiter.holder.isSome, now.world.gateway.recorder.isRecording⟩ ∧
      started.mail ⟨1⟩ = (Usage.start dayShift.world).mail ⟨1⟩ ++
        [.batch ⟨.modbus, "plant", "kettle", [⟨"plant", "kettle", 7, "heat", .int 60, ⟨0, 0⟩⟩]⟩,
          .recording dayShift.gateway.startRecording.2] ∧
      ∃ batches : List Batch, started.mail ⟨1⟩ = (Usage.start dayShift.world).mail ⟨1⟩ ++
        (batches.map Event.batch ++ Op.startRecording.news dayShift.gateway) := by
  refine ⟨by decide, by decide, by decide, by decide, ?_, by decide, ?_⟩
  · exact (replicas_match dayShift).1 ⟨2⟩ nightShift (by simp [nightShift, Op.IsOwn]) (by decide)
      (by decide)
  · exact (replicas_match dayShift).2 .startRecording ⟨1⟩ trivial trivial (by decide)

end SensorGateway
