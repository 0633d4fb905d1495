/-
# SensorGateway.Proofs.Bus.FanOut -- what a session is told is its own affair

Everything that is ever put into a session's channel follows from the session's own moves: what
it asks for, how it reads, and what is handed out while it is there. `Walk.of` computes it
from these moves alone, in terms of keys and of numbers of unread events, and
`BusRun.mail_follows_own_moves` says that the channel got just that. So nothing that other sessions
do, and nothing that befalls them, can drop, repeat, reorder or widen what a session gets.

`Bus.place_act` takes the other sessions out of the way; what remains is to follow one
session, and `Sits` ties it to its walk.
-/
import SensorGateway.Proofs.Bus.Place

namespace SensorGateway

/-! ## The walk -/

/-- A registered session as its own moves make it. -/
structure Seat where
  /-- What it asks for. -/
  asks : Topic → Option Interest
  /-- How many events wait for its browser. -/
  unread : Nat
  /-- Whether its browser is still there. -/
  isPresent : Bool

/-- How a session stands. -/
inductive Standing where
  /-- It is not registered yet. -/
  | absent
  | seated (seat : Seat)
  /-- It was closed or evicted. -/
  | gone

namespace Seat

/-- A session as it begins. -/
def new : Seat := ⟨fun _ => none, 0, true⟩

/-- The updates of a batch that some key of the session addresses, in their order. -/
def matching (seat : Seat) (b : Batch) : List Update :=
  match seat.asks b.topic with
  | some i => b.updates.filter fun u => i.sensors.toList.any fun k => k.addresses u.number u.name
  | none => []

/-- What a batch has for the session: one event with the updates that it asks for, if there are
any. -/
def portion (seat : Seat) (b : Batch) : Option Event :=
  if seat.matching b = [] then none
  else some (.batch (.ofTopic b.protocol b.topic (seat.matching b)))

/-- An event is put into the channel, unless the browser is gone, or the channel is full and the
browser reads nothing while it is waited for. Then the session is removed. -/
def tell (capacity count : Nat) (e : Option Event) (seat : Seat) : List Event × Standing :=
  match e with
  | none => ([], .seated seat)
  | some e =>
    if !seat.isPresent then ([], .gone)
    else if seat.unread < capacity then ([e], .seated { seat with unread := seat.unread + 1 })
    else if count = 0 then ([], .gone)
    else ([e], .seated { seat with unread := seat.unread - count + 1 })

/-- What a move puts into the channel, and how the session stands then. -/
def step (capacity : Nat) (seat : Seat) : Move → List Event × Standing
  | .register => ([], .seated seat)
  | .ask t i => ([], .seated { seat with asks := fun t' => if t' = t then i else seat.asks t' })
  | .close => ([], .gone)
  | .publish b count => seat.tell capacity count (seat.portion b)
  | .broadcast e count => seat.tell capacity count (some e)
  | .read max => ([], .seated { seat with unread := seat.unread - max })
  | .hangUp => ([], .seated { seat with unread := 0, isPresent := false })

end Seat

/-- Before a session is registered, and when it is gone, nothing is put into its channel. -/
def Standing.step (capacity : Nat) : Standing → Move → List Event × Standing
  | .absent, .register => ([], .seated .new)
  | .absent, _ => ([], .absent)
  | .seated seat, m => seat.step capacity m
  | .gone, _ => ([], .gone)

/-- How far the moves of a session have come. -/
structure Walk where
  /-- What was put into its channel. -/
  events : List Event
  standing : Standing

namespace Walk

/-- One move. -/
def step (capacity : Nat) (w : Walk) (m : Move) : Walk :=
  ⟨w.events ++ (w.standing.step capacity m).1, (w.standing.step capacity m).2⟩

/-- The moves of a session one after the other. -/
def of (capacity : Nat) (moves : List Move) : Walk := moves.foldl (step capacity) ⟨[], .absent⟩

end Walk

/-! ## One session and its walk -/

/-- A registered session is as its own moves made it. -/
structure Seat.Fits (capacity : Nat) (s : Session) (seat : Seat) : Prop where
  asks : ∀ t, s.subscriptions.get? t = seat.asks t
  unread : s.channel.waiting.length = seat.unread
  isPresent : s.channel.isOpen = seat.isPresent
  room : seat.unread ≤ capacity
  /-- Nothing waits for a browser that is gone. -/
  lost : seat.isPresent = false → seat.unread = 0

/-- A session is where its own moves have brought it. -/
def Sits (capacity : Nat) : Place → Standing → Prop
  | .nowhere, .absent => True
  | .registered s, .seated seat => Seat.Fits capacity s seat
  | .departed _, .gone => True
  | _, _ => False

variable {capacity : Nat} {s : Session} {seat : Seat}

theorem Seat.Fits.matching (h : Seat.Fits capacity s seat) (b : Batch) :
    b.updates.filter (·.matchedBy (s.sensorsOn b.topic)) = seat.matching b := by
  unfold Session.sensorsOn Seat.matching
  rw [h.asks]
  cases seat.asks b.topic with
  | some i => rfl
  | none => exact List.filter_eq_nil_iff.mpr fun u _ => by simp [Update.matchedBy, KeySet.addresses]

theorem Seat.Fits.share (h : Seat.Fits capacity s seat) (b : Batch) : s.share b = seat.portion b := by
  unfold Session.share Seat.portion
  simp only [Batch.scopedTo, Batch.isEmpty, h.matching, List.isEmpty_iff]
  rfl

/-! ### Telling one session -/

theorem told_none (capacity count : Nat) (s : Session) :
    s.pulled capacity count none = [] ∧ s.told capacity count none = .registered s :=
  ⟨rfl, rfl⟩

theorem told_of_closed (ho : s.channel.isOpen = false) (capacity count : Nat) (e : Event) :
    s.pulled capacity count (some e) = [] ∧ s.told capacity count (some e) = .departed s := by
  simp [Session.pulled, Session.told, Session.relieved, Session.isAwaited, Channel.isFull,
    Session.tell, Channel.offer, Session.Outcome.place, ho]

theorem told_of_room (ho : s.channel.isOpen = true) (hroom : s.channel.waiting.length < capacity)
    (count : Nat) (e : Event) :
    s.pulled capacity count (some e) = [] ∧
      s.told capacity count (some e) =
        .registered { s with channel := ⟨s.channel.waiting ++ [e], true⟩ } := by
  have hawaited : s.isAwaited capacity (some e) = false := by
    simp [Session.isAwaited, Channel.isFull, Nat.not_le.mpr hroom]
  simp [Session.pulled, Session.told, Session.relieved, hawaited, Session.tell, Channel.offer,
    Session.Outcome.place, ho, hroom]

/-- A full channel is read first; then there is room, or there is not. -/
theorem told_of_full (ho : s.channel.isOpen = true) (hfull : capacity ≤ s.channel.waiting.length)
    (count : Nat) (e : Event) :
    s.pulled capacity count (some e) = s.channel.waiting.take count ∧
      s.told capacity count (some e) =
        if s.channel.waiting.length - count < capacity then
          .registered { s with channel := ⟨s.channel.waiting.drop count ++ [e], true⟩ }
        else .departed { s with channel := ⟨s.channel.waiting.drop count, true⟩ } := by
  have hawaited : s.isAwaited capacity (some e) = true := by
    simp [Session.isAwaited, Channel.isFull, ho, hfull]
  refine ⟨by simp [Session.pulled, hawaited, Channel.read], ?_⟩
  have hrelieved : s.relieved capacity count (some e) =
      { s with channel := ⟨s.channel.waiting.drop count, true⟩ } := by
    simp [Session.relieved, hawaited, Channel.read, ho]
  unfold Session.told
  rw [hrelieved]
  by_cases hroom : s.channel.waiting.length - count < capacity <;>
    simp [Session.tell, Channel.offer, Session.Outcome.place, hroom]

/-- The event that is put into the channel of a session, if one is, and what becomes of the
session. -/
theorem Seat.Fits.tell (h : Seat.Fits capacity s seat) (hcapacity : 0 < capacity) (count : Nat)
    (e : Option Event) :
    Sits capacity (s.told capacity count e) (seat.tell capacity count e).2 ∧
      s.pulled capacity count e ++ (s.told capacity count e).waiting =
        s.channel.waiting ++ (seat.tell capacity count e).1 := by
  have hunread := h.unread
  have hroom := h.room
  cases e with
  | none =>
    obtain ⟨hpulled, htold⟩ := told_none capacity count s
    rw [hpulled, htold]
    exact ⟨h, (List.append_nil s.channel.waiting).symm⟩
  | some e =>
    unfold Seat.tell
    cases ho : s.channel.isOpen with
    | false =>
      obtain ⟨hpulled, htold⟩ := told_of_closed ho capacity count e
      have hgone : seat.isPresent = false := h.isPresent.symm.trans ho
      rw [hpulled, htold]
      simp [hgone, Sits, Place.waiting]
    | true =>
      have hpresent : seat.isPresent = true := h.isPresent.symm.trans ho
      by_cases hless : seat.unread < capacity
      · obtain ⟨hpulled, htold⟩ := told_of_room ho (hunread ▸ hless) count e
        rw [hpulled, htold]
        simp only [hpresent, hless]
        exact ⟨⟨h.asks, by simp [hunread], rfl, hless, nofun⟩, rfl⟩
      · obtain ⟨hpulled, htold⟩ := told_of_full ho (hunread ▸ Nat.le_of_not_lt hless) count e
        rw [hpulled, htold, hunread]
        simp only [hpresent, hless]
        by_cases hcount : count = 0
        · -- nobody reads in time
          subst hcount
          simp [Sits, Place.waiting, hless]
        · have hrelieved : seat.unread - count < capacity := by omega
          rw [if_pos hrelieved]
          simp only [hcount]
          refine ⟨⟨h.asks, ?_, rfl, hrelieved, nofun⟩, ?_⟩
          · simp [hunread]
          · simp [Place.waiting, ← List.append_assoc]

/-- Reading moves events out of a channel. -/
theorem readBy_append_waiting (max : Nat) (s : Session) :
    s.readBy max ++ (s.reading max).channel.waiting = s.channel.waiting := by
  unfold Session.readBy Session.reading
  cases s.channel.isOpen <;> simp [Channel.read]

theorem Seat.Fits.ask (h : Seat.Fits capacity s seat) (t : Topic) (i : Option Interest) :
    Seat.Fits capacity (s.setSubscription t i)
      { seat with asks := fun t' => if t' = t then i else seat.asks t' } := by
  have hchannel : (s.setSubscription t i).channel = s.channel := by cases i <;> rfl
  refine ⟨?_, hchannel ▸ h.unread, hchannel ▸ h.isPresent, h.room, h.lost⟩
  intro t'
  rw [Bus.get?_setSubscription, h.asks]

theorem Seat.Fits.read (h : Seat.Fits capacity s seat) (max : Nat) :
    Seat.Fits capacity (s.reading max) { seat with unread := seat.unread - max } := by
  have hroom : seat.unread - max ≤ capacity := Nat.le_trans (Nat.sub_le _ _) h.room
  unfold Session.reading
  cases ho : s.channel.isOpen with
  | true =>
    refine ⟨h.asks, ?_, h.isPresent, hroom, fun hgone => ?_⟩
    · simp [Channel.read, h.unread]
    · simp [h.lost hgone]
  | false =>
    have hnone : seat.unread = 0 := h.lost (h.isPresent.symm.trans ho)
    refine ⟨h.asks, ?_, h.isPresent, hroom, fun _ => ?_⟩ <;> simp [h.unread, hnone]

/-- A session makes of a move what its walk says, and its channel gets what the walk says: what
leaves it and what waits in it then is what waited before and what is new. -/
theorem Sits.act {x : Place} {k : Standing} (h : Sits capacity x k) (hcapacity : 0 < capacity)
    (id : SessionId) {m : Move} (hnew : m = .register → x = .nowhere) :
    Sits capacity (x.act capacity id m) (k.step capacity m).2 ∧
      x.takes capacity m ++ (x.act capacity id m).waiting =
        x.waiting ++ (k.step capacity m).1 := by
  match x, k, h with
  | .nowhere, .absent, _ =>
    cases m with
    | register => exact ⟨⟨fun _ => rfl, rfl, rfl, Nat.zero_le _, nofun⟩, rfl⟩
    | _ => exact ⟨trivial, rfl⟩
  | .registered s, .seated seat, h =>
    cases m with
    | register => cases hnew rfl
    | ask t i =>
      refine ⟨h.ask t i, ?_⟩
      cases i <;> simp [Place.takes, Place.act, Place.onRegistered, Place.waiting, Standing.step,
        Seat.step, Session.setSubscription]
    | close => exact ⟨trivial, (List.append_nil _).symm⟩
    | publish b count =>
      have hshare := h.share b
      simp only [Place.act, Place.takes, Place.onRegistered, Standing.step, Seat.step, hshare]
      exact h.tell hcapacity count (seat.portion b)
    | broadcast e count => exact h.tell hcapacity count (some e)
    | read max =>
      exact ⟨h.read max, (readBy_append_waiting max s).trans (List.append_nil _).symm⟩
    | hangUp => exact ⟨⟨h.asks, rfl, rfl, Nat.zero_le _, fun _ => rfl⟩, rfl⟩
  | .departed s, .gone, _ =>
    cases m with
    | register => cases hnew rfl
    | read max =>
      exact ⟨trivial, (readBy_append_waiting max s).trans (List.append_nil _).symm⟩
    | hangUp => exact ⟨trivial, rfl⟩
    | _ => exact ⟨trivial, (List.append_nil _).symm⟩

/-! ## Runs -/

/-- A bus in use has done to a session what its walk says. -/
structure Agrees (capacity : Nat) (id : SessionId) (w : Traffic) (k : Walk) : Prop where
  distinct : w.bus.Distinct
  room : w.bus.capacity = capacity
  sits : Sits capacity (w.bus.place id) k.standing
  mail : w.mail id = k.events

theorem Agrees.isRegistered_iff {id : SessionId} {w : Traffic} {k : Walk}
    (h : Agrees capacity id w k) :
    w.bus.isRegistered id = true ↔ ∃ seat, k.standing = .seated seat := by
  have hsits := h.sits
  rw [Bus.isRegistered_iff_place]
  constructor
  · rintro ⟨s, hs⟩
    rw [hs] at hsits
    cases hk : k.standing with
    | seated seat => exact ⟨seat, rfl⟩
    | _ => rw [hk] at hsits; cases hsits
  · rintro ⟨seat, hseat⟩
    rw [hseat] at hsits
    cases hs : w.bus.place id with
    | registered s => exact ⟨s, rfl⟩
    | _ => rw [hs] at hsits; cases hsits

/-- A session is registered by its own operation only. -/
theorem eq_register_of_toward {op : BusOp} {id : SessionId}
    (h : op.toward id = some .register) : op = .register id := by
  cases op with
  | register id' =>
    by_cases hid : id' = id
    · rw [hid]
    · simp [BusOp.toward, hid] at h
  | publish b pulls => cases h
  | broadcast e pulls => cases h
  | _ => simp [BusOp.toward] at h

/-- A new session gets a new identifier, so nobody had it before. -/
theorem nowhere_of_register {b : Bus} {op : BusOp} {id : SessionId} {m : Move}
    (hop : op.IsPossible b) (hm : op.toward id = some m) (h : m = .register) :
    b.place id = .nowhere := by
  subst h
  obtain rfl := eq_register_of_toward hm
  exact Bus.place_of_not_mem_ids hop

/-- One operation takes the walk one move further, if it has to do with the session. -/
theorem Agrees.step {id : SessionId} {w : Traffic} {k : Walk} (h : Agrees capacity id w k)
    (hcapacity : 0 < capacity) {op : BusOp} (hop : op.IsPossible w.bus) :
    Agrees capacity id (w.step op) (((op.toward id).map (k.step capacity)).getD k) := by
  have hplace := Bus.place_act h.distinct op id
  have hafter := Traffic.mail_step h.distinct op id
  have hroom : (w.step op).bus.capacity = capacity := (Bus.capacity_act w.bus op).trans h.room
  have hdistinct : (w.step op).bus.Distinct := Bus.distinct_act h.distinct hop
  have hbefore : w.taken id ++ (w.bus.place id).waiting = k.events := h.mail
  cases hm : op.toward id with
  | none =>
    rw [hm] at hplace hafter
    refine ⟨hdistinct, hroom, ?_, hafter.trans hbefore⟩
    show Sits capacity ((op.act w.bus).place id) k.standing
    rw [hplace]
    exact h.sits
  | some m =>
    rw [hm, h.room] at hplace hafter
    have hnew : m = .register → w.bus.place id = .nowhere := nowhere_of_register hop hm
    obtain ⟨hsits, hmail⟩ := h.sits.act hcapacity id hnew
    refine ⟨hdistinct, hroom, ?_, ?_⟩
    · show Sits capacity ((op.act w.bus).place id) _
      rw [hplace]
      exact hsits
    · calc (w.step op).mail id
          = w.taken id ++ ((w.bus.place id).takes capacity m ++
              ((w.bus.place id).act capacity id m).waiting) := hafter
        _ = w.taken id ++ ((w.bus.place id).waiting ++ (k.standing.step capacity m).1) := by
            rw [hmail]
        _ = k.events ++ (k.standing.step capacity m).1 := by rw [← List.append_assoc, hbefore]

theorem agrees_after {id : SessionId} (hcapacity : 0 < capacity) (ops : List BusOp) {w : Traffic}
    {k : Walk} (h : Agrees capacity id w k) (hops : w.IsPossible ops) :
    Agrees capacity id (w.after ops)
      ((ops.filterMap (·.toward id)).foldl (Walk.step capacity) k) := by
  induction ops generalizing w k with
  | nil => exact h
  | cons op ops ih =>
    have hstep := h.step hcapacity hops.1
    cases hm : op.toward id with
    | none =>
      rw [hm] at hstep
      rw [List.filterMap_cons_none hm]
      exact ih hstep hops.2
    | some m =>
      rw [hm] at hstep
      rw [List.filterMap_cons_some hm]
      exact ih hstep hops.2

namespace BusRun

/-- What a run has to do with a session. -/
def moves (r : BusRun) (id : SessionId) : List Move := r.ops.filterMap (·.toward id)

theorem capacity_pos (r : BusRun) : 0 < r.capacity :=
  Nat.lt_of_lt_of_le Nat.zero_lt_one (Nat.le_max_left _ _)

theorem agrees (r : BusRun) (id : SessionId) :
    Agrees r.capacity id r.traffic (.of r.capacity (r.moves id)) := by
  have hstart : Agrees r.capacity id (.start (.new r.config)) ⟨[], .absent⟩ :=
    ⟨List.nodup_nil, rfl, trivial, rfl⟩
  exact agrees_after r.capacity_pos r.ops hstart r.possible

/-- A session is registered as long as its walk has not come to its end. -/
theorem isRegistered_iff (r : BusRun) (id : SessionId) :
    r.bus.isRegistered id = true ↔
      ∃ seat, (Walk.of r.capacity (r.moves id)).standing = .seated seat :=
  (r.agrees id).isRegistered_iff

/-- **What a session is told is its own affair.** Whatever else happens on a bus, everything that
is ever put into the channel of a session is what its walk says: the walk looks only at the
session's own moves, at what is handed out while it is registered, and at its own reading; and
the session is registered just until its walk ends. So it gets the same in any two runs that
hand out the same and in which it moves the same, whoever else comes, asks, reads and goes. -/
theorem mail_follows_own_moves (r : BusRun) (id : SessionId) :
    let own := Walk.of r.capacity (r.moves id)
    r.mail id = own.events ∧
      (r.bus.isRegistered id = true ↔ ∃ seat, own.standing = .seated seat) ∧
      ∀ r' : BusRun, r'.capacity = r.capacity → r'.moves id = r.moves id →
        r'.mail id = r.mail id ∧ r'.bus.isRegistered id = r.bus.isRegistered id := by
  refine ⟨(r.agrees id).mail, r.isRegistered_iff id, ?_⟩
  intro r' hcapacity hmoves
  have hsame : Walk.of r'.capacity (r'.moves id) = Walk.of r.capacity (r.moves id) := by
    rw [hcapacity, hmoves]
  constructor
  · calc r'.mail id = (Walk.of r'.capacity (r'.moves id)).events := (r'.agrees id).mail
      _ = (Walk.of r.capacity (r.moves id)).events := by rw [hsame]
      _ = r.mail id := (r.agrees id).mail.symm
  · have hiff := r'.isRegistered_iff id
    rw [hsame, ← r.isRegistered_iff id] at hiff
    exact Bool.eq_iff_iff.mpr hiff

/-! ### A neighbour that stalls -/

/-- Two readings of one object. -/
def readings : Batch :=
  ⟨.modbus, "plant", "boiler", [⟨"plant", "boiler", 7, "heat", .int 1, ⟨0, 0⟩⟩,
    ⟨"plant", "boiler", 8, "flow", .int 2, ⟨0, 0⟩⟩]⟩

/-- Two sessions with room for one event each are told two readings. The first one asks for one
sensor by its number and by its name, and reads in time; the second one never reads. -/
def crowded : BusRun where
  config := { channelCapacity := 1 }
  ops := [.register ⟨1⟩, .register ⟨2⟩,
    .subscribe ⟨1⟩ readings.topic .modbus (.ofList [.id 7, .name "heat"]),
    .subscribe ⟨2⟩ readings.topic .modbus (.ofList [.name "flow"]),
    .publish readings fun _ => 0, .publish readings fun id => if id = ⟨1⟩ then 1 else 0]
  possible := by decide

/-- The same without the second session. -/
def uncrowded : BusRun where
  config := { channelCapacity := 1 }
  ops := [.register ⟨1⟩, .subscribe ⟨1⟩ readings.topic .modbus (.ofList [.id 7, .name "heat"]),
    .publish readings fun _ => 0, .publish readings fun _ => 1]
  possible := by decide

/-- The second session is evicted, and the first one gets its sensor twice, each time once. -/
theorem stalled_neighbour_mail :
    crowded.bus.isRegistered ⟨2⟩ = false ∧
      crowded.mail ⟨1⟩ = List.replicate 2
        (.batch { readings with updates := readings.updates.take 1 }) ∧
      uncrowded.capacity = crowded.capacity ∧ uncrowded.moves ⟨1⟩ = crowded.moves ⟨1⟩ ∧
      uncrowded.mail ⟨1⟩ = crowded.mail ⟨1⟩ := by
  have hown := mail_follows_own_moves crowded ⟨1⟩
  refine ⟨by decide, hown.1.trans (by decide), rfl, rfl, ?_⟩
  exact (hown.2.2 uncrowded rfl rfl).1

end BusRun

end SensorGateway
