/-
# SensorGateway.Proofs.Bus.Delivery -- handing an event out accounts for every target

`Bus.Accounts` is the account of a delivery in terms of its targets: who is counted, who is
evicted, what everybody else keeps, how full the channels are and how long it took. Publishing a
batch gives such an account for the sessions that follow some sensor of it, and telling all
sessions gives one for all of them. `Bus.Schedules` adds that the turns that the sends take side
by side make no difference to it.

Both are about deliveries during which no browser reads, on a bus as runs leave it
(`BusRun.orderly`): identifiers are used once, and no channel has more in it than it has room for.
-/
import SensorGateway.Proofs.Bus.Sending

namespace SensorGateway

/-- Whether a batch concerns a session: a key of its subscription on the topic addresses the sensor
of some update. -/
def Session.follows (batch : Batch) (s : Session) : Bool :=
  (s.subscriptions.get? batch.topic).any fun i => batch.updates.any (·.matchedBy i.sensors)

/-- The part of a batch for a session. -/
def Session.portion (batch : Batch) (s : Session) : Event :=
  .batch (batch.scopedTo (s.sensorsOn batch.topic))

namespace Bus

/-! ## Orderly buses -/

/-- Identifiers are used once, and no channel has more in it than it has room for. -/
structure Orderly (b : Bus) : Prop where
  distinct : b.Distinct
  room : ∀ id, (b.place id).waiting.length ≤ b.capacity

end Bus

variable {capacity : Nat} {s : Session}

/-- Telling a session something puts no more into its channel than there is room for. -/
theorem Session.room_tell (h : s.channel.waiting.length ≤ capacity) (e : Option Event) :
    (s.tell capacity e).place.waiting.length ≤ capacity := by
  cases e with
  | none => exact h
  | some e =>
    rcases Bus.tell_some capacity s e with ⟨-, htell⟩ | ⟨husable, htell⟩
    · rw [htell]
      exact h
    · rw [htell]
      exact Channel.length_adding_le husable e

/-- What a browser reads only makes room. -/
theorem Session.room_relieved (h : s.channel.waiting.length ≤ capacity) (count : Nat)
    (e : Option Event) : (s.relieved capacity count e).channel.waiting.length ≤ capacity := by
  unfold Session.relieved
  split
  · show (s.channel.waiting.drop count).length ≤ capacity
    rw [List.length_drop]
    omega
  · exact h

theorem Session.room_reading (h : s.channel.waiting.length ≤ capacity) (max : Nat) :
    (s.reading max).channel.waiting.length ≤ capacity := by
  unfold Session.reading
  split
  · show (s.channel.waiting.drop max).length ≤ capacity
    rw [List.length_drop]
    omega
  · exact h

/-- No move of a session fills its channel beyond its room. -/
theorem Place.room_act {x : Place} (h : x.waiting.length ≤ capacity) (id : SessionId) (m : Move) :
    (x.act capacity id m).waiting.length ≤ capacity := by
  have htold {count : Nat} {e : Option Event} {s : Session}
      (hs : s.channel.waiting.length ≤ capacity) :
      (s.told capacity count e).waiting.length ≤ capacity :=
    Session.room_tell (Session.room_relieved hs count e) e
  cases m with
  | register => exact Nat.zero_le _
  | ask t i =>
    cases x with
    | registered s => cases i <;> exact h
    | _ => exact h
  | close => cases x <;> exact h
  | publish b count =>
    cases x with
    | registered s => exact htold h
    | _ => exact h
  | broadcast e count =>
    cases x with
    | registered s => exact htold h
    | _ => exact h
  | read max =>
    cases x with
    | nowhere => exact h
    | registered s => exact Session.room_reading h max
    | departed s => exact Session.room_reading h max
  | hangUp => cases x <;> exact Nat.zero_le _

namespace Bus

variable {b : Bus}

/-- One operation. -/
theorem Orderly.act (h : b.Orderly) {op : BusOp} (hop : op.IsPossible b) : (op.act b).Orderly := by
  refine ⟨distinct_act h.distinct hop, fun id => ?_⟩
  rw [place_act h.distinct, capacity_act]
  cases op.toward id with
  | none => exact h.room id
  | some m => exact Place.room_act (h.room id) id m

/-- A new bus is orderly. -/
theorem orderly_new (c : Config.Sessions) : (Bus.new c).Orderly :=
  ⟨List.nodup_nil, fun _ => Nat.zero_le _⟩

theorem orderly_after (ops : List BusOp) {w : Traffic} (h : w.bus.Orderly)
    (hops : w.IsPossible ops) : (w.after ops).bus.Orderly := by
  induction ops generalizing w with
  | nil => exact h
  | cons op ops ih => exact ih (h.act hops.1) hops.2

end Bus

/-- Every run leaves its bus orderly. -/
theorem BusRun.orderly (r : BusRun) : r.bus.Orderly :=
  Bus.orderly_after r.ops (Bus.orderly_new r.config) r.possible

namespace Bus

/-! ## The account -/

/-- What handing something out to some sessions comes to while no browser reads. -/
structure Accounts (b : Bus) (targets : List Session) (part : Session → Event)
    (after : Bus × Report) : Prop where
  /-- No session is a target twice. -/
  once : (targets.map (·.id)).Nodup
  /-- Every target is told or evicted. -/
  counted : after.2.delivered + after.2.evicted.length = targets.length
  delivered : after.2.delivered = targets.countP fun s => !s.channel.isUnusable b.capacity
  evictedOnce : after.2.evicted.Nodup
  /-- The evicted sessions are the targets whose channel was closed or full. -/
  mem_evicted : ∀ id, id ∈ after.2.evicted ↔
    ∃ s ∈ targets, s.id = id ∧ (s.channel.isOpen = false ∨ s.channel.isFull b.capacity = true)
  /-- They alone disappear. -/
  registered : ∀ id, after.1.isRegistered id = true ↔
    b.isRegistered id = true ∧ id ∉ after.2.evicted
  subscriptions : ∀ id t, id ∉ after.2.evicted →
    after.1.subscription? id t = b.subscription? id t
  /-- A target that stays finds its part behind what waited already; everybody else is as
  before. -/
  kept : ∀ s ∈ b.sessions, s.id ∉ after.2.evicted →
    after.1.find? s.id =
      some (if s ∈ targets then { s with channel := s.channel.adding (part s) } else s)
  /-- No channel, of a session registered or gone, gets more than it has room for. -/
  room : ∀ id, (after.1.place id).waiting.length ≤ b.capacity
  /-- The call waits for one time span if some target's channel is full, and else not at all. -/
  waited : after.2.waited =
    if ∃ s ∈ targets, s.channel.isFull b.capacity = true then b.patience else 0

/-- What holds however the sends of a delivery take their turns. -/
structure Schedules (b : Bus) (targets : List Session) (news : Session → Option Event)
    (after : Bus × Report) : Prop where
  /-- There is one send for each target. -/
  targets : (b.round news).sends.map (·.session) = targets
  /-- At no time is there more in a channel than it has room for. -/
  room : ∀ r, Round.Reaches b.capacity b.patience (b.round news) r →
    ∀ x ∈ r.sends, x.channel.waiting.length ≤ b.capacity
  /-- The sends go on until they are over. -/
  goes_on : ∀ r, Round.Reaches b.capacity b.patience (b.round news) r → ¬ r.IsOver →
    ∃ next, Round.Step b.capacity b.patience r next
  /-- They cannot go on for ever. -/
  stops : ∀ schedule : Nat → Round, schedule 0 = b.round news →
    ∃ n, ¬ Round.Step b.capacity b.patience (schedule n) (schedule (n + 1))
  /-- When they are over the outcome is the same for every schedule, the time included. -/
  outcome : ∀ r, Round.Reaches b.capacity b.patience (b.round news) r → r.IsOver →
    b.settle r = after

/-! ### Who is told, and who is evicted -/

variable {b : Bus} {news : Session → Option Event} {p : Session → Bool} {part : Session → Event}

/-- What becomes of a session, by whether it is a target and by its channel. -/
theorem tell_cases (hnews : ∀ s, news s = if p s then some (part s) else none) (capacity : Nat)
    (s : Session) :
    (p s = false ∧ s.tell capacity (news s) = .untold s) ∨
    (p s = true ∧ s.channel.isUnusable capacity = true ∧
      s.tell capacity (news s) = .evicted s (s.channel.isFull capacity)) ∨
    (p s = true ∧ s.channel.isUnusable capacity = false ∧
      s.tell capacity (news s) = .delivered { s with channel := s.channel.adding (part s) }) := by
  rw [hnews]
  cases hp : p s with
  | false => exact .inl ⟨rfl, rfl⟩
  | true =>
    rcases tell_some capacity s (part s) with ⟨hunusable, htell⟩ | ⟨husable, htell⟩
    · exact .inr (.inl ⟨rfl, hunusable, htell⟩)
    · exact .inr (.inr ⟨rfl, husable, htell⟩)

/-- The report of a delivery in terms of its targets. -/
theorem report_deliver (hnews : ∀ s, news s = if p s then some (part s) else none) (b : Bus) :
    (b.deliver news).2.delivered =
        (b.sessions.filter p).countP (fun s => !s.channel.isUnusable b.capacity) ∧
      (b.deliver news).2.evicted =
        ((b.sessions.filter p).filter fun s => s.channel.isUnusable b.capacity).map (·.id) ∧
      ((b.deliver news).2.waited =
        if (b.sessions.filter p).any (·.channel.isFull b.capacity) then b.patience else 0) := by
  have hdelivered (s : Session) : (s.tell b.capacity (news s)).isDelivered =
      (!s.channel.isUnusable b.capacity && p s) := by
    rcases tell_cases hnews b.capacity s with ⟨hp, ht⟩ | ⟨hp, hu, ht⟩ | ⟨hp, hu, ht⟩
    · rw [ht, hp, Bool.and_false]; rfl
    · rw [ht, hp, hu]; rfl
    · rw [ht, hp, hu]; rfl
  have hevicted (s : Session) : (s.tell b.capacity (news s)).evicted? =
      Option.guard (fun s => s.channel.isUnusable b.capacity && p s) s := by
    rcases tell_cases hnews b.capacity s with ⟨hp, ht⟩ | ⟨hp, hu, ht⟩ | ⟨hp, hu, ht⟩
    · rw [ht, Option.guard, hp, Bool.and_false]; rfl
    · rw [ht, Option.guard, hp, hu]; rfl
    · rw [ht, Option.guard, hp, hu]; rfl
  have hlate (s : Session) : (s.tell b.capacity (news s)).isLate =
      (p s && s.channel.isFull b.capacity) := by
    rcases tell_cases hnews b.capacity s with ⟨hp, ht⟩ | ⟨hp, hu, ht⟩ | ⟨hp, hu, ht⟩
    · rw [ht, hp]; rfl
    · rw [ht, hp]; rfl
    · rw [ht, hp, Channel.not_full_of_usable hu]; rfl
  refine ⟨?_, ?_, ?_⟩
  · show (b.sessions.map fun s => s.tell b.capacity (news s)).countP _ = _
    rw [List.countP_map, List.countP_filter]
    exact List.countP_congr fun s _ => by simp [Function.comp_apply, hdelivered]
  · show ((b.sessions.map fun s => s.tell b.capacity (news s)).filterMap _).map _ = _
    rw [List.filterMap_map, List.filter_filter, ← List.filterMap_eq_filter]
    exact congrArg (fun f => (b.sessions.filterMap f).map (·.id)) (funext hevicted)
  · show (if (b.sessions.map fun s => s.tell b.capacity (news s)).any _ then _ else _) = _
    rw [List.any_map, List.any_filter]
    exact congrArg (fun f => if b.sessions.any f then b.patience else 0) (funext hlate)

theorem find?_of_target (hd : b.Distinct) (hs : s ∈ b.sessions.filter p) :
    b.find? s.id = some s :=
  hd.find?_eq (List.mem_filter.mp hs).1

theorem mem_evicted_deliver (hnews : ∀ s, news s = if p s then some (part s) else none)
    (id : SessionId) : id ∈ (b.deliver news).2.evicted ↔
      ∃ s ∈ b.sessions.filter p, s.id = id ∧ s.channel.isUnusable b.capacity = true := by
  rw [(report_deliver hnews b).2.1]
  simp only [List.mem_map, List.mem_filter]
  constructor
  · rintro ⟨s, ⟨hs, hunusable⟩, hid⟩
    exact ⟨s, hs, hid, hunusable⟩
  · rintro ⟨s, hs, hid, hunusable⟩
    exact ⟨s, ⟨hs, hunusable⟩, hid⟩

/-- A registered session is evicted and not found any more, or it stays, with its part if it is a
target. -/
theorem evicted_or_stays (hd : b.Distinct)
    (hnews : ∀ s, news s = if p s then some (part s) else none) (hs : s ∈ b.sessions) :
    (s.id ∈ (b.deliver news).2.evicted ∧ (b.deliver news).1.find? s.id = none) ∨
    (s.id ∉ (b.deliver news).2.evicted ∧ (b.deliver news).1.find? s.id =
      some (if s ∈ b.sessions.filter p then { s with channel := s.channel.adding (part s) }
        else s)) := by
  have hfind := find?_deliver hd news s.id
  rw [hd.find?_eq hs, Option.bind_some] at hfind
  -- what is said of the identifier is said of this session
  have hsame {s' : Session} (hs' : s' ∈ b.sessions.filter p) (hid : s'.id = s.id) : s' = s := by
    have hfind' := find?_of_target hd hs'
    rw [hid, hd.find?_eq hs] at hfind'
    exact (Option.some.inj hfind').symm
  rw [hfind, mem_evicted_deliver hnews]
  rcases tell_cases hnews b.capacity s with ⟨hp, htell⟩ | ⟨hp, hu, htell⟩ | ⟨hp, hu, htell⟩
  · right
    rw [htell, if_neg fun hin => by simp [hp] at hin]
    refine ⟨?_, rfl⟩
    rintro ⟨s', hs', hid, -⟩
    obtain rfl := hsame hs' hid
    simp [hp] at hs'
  · left
    rw [htell]
    exact ⟨⟨s, List.mem_filter.mpr ⟨hs, hp⟩, rfl, hu⟩, rfl⟩
  · right
    rw [htell, if_pos (List.mem_filter.mpr ⟨hs, hp⟩)]
    refine ⟨?_, rfl⟩
    rintro ⟨s', hs', hid, hunusable⟩
    obtain rfl := hsame hs' hid
    rw [hu] at hunusable
    cases hunusable

/-- Who was not registered is not afterwards. -/
theorem find?_deliver_of_none (hd : b.Distinct) (news : Session → Option Event) {id : SessionId}
    (hnone : b.find? id = none) : (b.deliver news).1.find? id = none := by
  rw [find?_deliver hd, hnone]
  rfl

/-- **A delivery accounts for its targets.** -/
theorem accounts_deliver (h : b.Orderly)
    (hnews : ∀ s, news s = if p s then some (part s) else none) :
    Accounts b (b.sessions.filter p) part (b.deliver news) := by
  obtain ⟨hdelivered, hevicted, hwaited⟩ := report_deliver hnews b
  have honce : ((b.sessions.filter p).map (·.id)).Nodup :=
    h.distinct.nodup_sessions.sublist (List.filter_sublist.map _)
  have hone {s : Session} (hs : s ∈ b.sessions) := evicted_or_stays h.distinct hnews hs
  constructor
  case once => exact honce
  case counted =>
    have hsplit := List.length_eq_countP_add_countP
      (fun s : Session => s.channel.isUnusable b.capacity) (l := b.sessions.filter p)
    have hneg : (b.sessions.filter p).countP (fun s => !s.channel.isUnusable b.capacity) =
        (b.sessions.filter p).countP fun s => decide ¬ s.channel.isUnusable b.capacity = true :=
      List.countP_congr fun s _ => by simp
    rw [hdelivered, hevicted, List.length_map, ← List.countP_eq_length_filter, hneg]
    omega
  case delivered => exact hdelivered
  case evictedOnce =>
    rw [hevicted]
    exact honce.sublist (List.filter_sublist.map _)
  case mem_evicted =>
    intro id
    rw [mem_evicted_deliver hnews]
    refine exists_congr fun s => and_congr_right fun _ => and_congr_right fun _ => ?_
    simp [Channel.isUnusable]
  case registered =>
    intro id
    unfold isRegistered
    cases hfound : b.find? id with
    | none => simp [find?_deliver_of_none h.distinct news hfound]
    | some s =>
      obtain ⟨hs, rfl⟩ := mem_of_find? hfound
      rcases hone hs with ⟨hout, hgone⟩ | ⟨hin, hstays⟩
      · simp [hgone, hout]
      · simp [hstays, hin]
  case subscriptions =>
    intro id t hin
    unfold subscription?
    cases hfound : b.find? id with
    | none => rw [find?_deliver_of_none h.distinct news hfound]
    | some s =>
      obtain ⟨hs, rfl⟩ := mem_of_find? hfound
      rcases hone hs with ⟨hout, -⟩ | ⟨-, hstays⟩
      · exact absurd hout hin
      · rw [hstays]
        split <;> rfl
  case kept =>
    intro s hs hin
    rcases hone hs with ⟨hout, -⟩ | ⟨-, hstays⟩
    · exact absurd hout hin
    · exact hstays
  case room =>
    intro id
    have hroom := h.room id
    rw [place_deliver h.distinct]
    cases hplace : b.place id with
    | registered s =>
      rw [hplace] at hroom
      exact Session.room_tell hroom _
    | _ => rw [hplace] at hroom; exact hroom
  case waited =>
    rw [hwaited]
    simp only [List.any_eq_true]

/-- **The turns of the sends make no difference.** -/
theorem schedules_deliver (h : b.Orderly)
    (hnews : ∀ s, news s = if p s then some (part s) else none) :
    Schedules b (b.sessions.filter p) news (b.deliver news) := by
  have htargets : (b.round news).sends.map (·.session) = b.sessions.filter p := by
    show (b.sessions.filterMap _).map _ = _
    rw [List.map_filterMap, ← List.filterMap_eq_filter]
    refine congrArg (fun f => b.sessions.filterMap f) (funext fun s => ?_)
    rw [hnews]
    cases hp : p s <;> simp [Option.guard, hp, Sending.new]
  have hsound {r : Round} (hreach : Round.Reaches b.capacity b.patience (b.round news) r) :=
    (sound_round b news).reaches hreach
  constructor
  case targets => exact htargets
  case room =>
    intro r hreach x hx
    obtain ⟨hr, hsame⟩ := hsound hreach
    refine (hr.each x hx).room ?_
    -- the send is for a session that was registered at the begin
    have hmem : (x.session, x.event) ∈ (b.round news).sends.map fun x => (x.session, x.event) :=
      hsame ▸ List.mem_map_of_mem hx
    obtain ⟨x₀, hx₀, heq⟩ := List.mem_map.mp hmem
    have htarget : x.session ∈ b.sessions.filter p := by
      rw [← htargets, ← (Prod.mk.inj heq).1]
      exact List.mem_map_of_mem hx₀
    have hroom := h.room x.session.id
    rwa [place_of_find? (find?_of_target h.distinct htarget)] at hroom
  case goes_on =>
    intro r hreach hopen
    exact (hsound hreach).1.goes_on hopen
  case stops =>
    intro schedule hstart
    exact (sound_round b news).stops hstart
  case outcome =>
    intro r hreach hover
    exact settle_eq_deliver h.distinct.nodup_sessions hreach hover

/-! ### Batches -/

theorem share_eq (batch : Batch) (s : Session) :
    s.share batch = if s.follows batch then some (s.portion batch) else none := by
  have hempty : (batch.scopedTo (s.sensorsOn batch.topic)).isEmpty = !s.follows batch := by
    unfold Session.sensorsOn Session.follows
    cases s.subscriptions.get? batch.topic with
    | none => simp [Batch.scopedTo, Batch.isEmpty, Update.matchedBy, KeySet.addresses]
    | some i =>
      show (batch.updates.filter fun u => u.matchedBy i.sensors).isEmpty =
        !batch.updates.any fun u => u.matchedBy i.sensors
      rw [Bool.eq_iff_iff, List.isEmpty_iff, List.filter_eq_nil_iff]
      simp
  unfold Session.share
  simp only [hempty]
  cases s.follows batch <;> rfl

/-- **Handing out accounts for every target and touches nothing else.** On every orderly bus: when
a batch is published the targets are the sessions that follow some sensor of it, and when all
sessions are told the targets are all of them. Each target is counted once, as told or as evicted;
the evicted ones are those whose channel was closed or full, and they alone disappear; everybody
else keeps all subscriptions; no channel gets more than it has room for; and the call waits not at
all where no target's channel is full, and one time span where any is. The order in which the
sends are tried, held back and given up makes no difference to any of this. -/
theorem delivery_accounts_for_targets (h : b.Orderly) :
    (∀ batch, Accounts b (b.sessions.filter (·.follows batch)) (·.portion batch)
        (b.publish batch) ∧
      Schedules b (b.sessions.filter (·.follows batch)) (·.share batch) (b.publish batch)) ∧
    ∀ e, Accounts b b.sessions (fun _ => e) (b.broadcast e) ∧
      Schedules b b.sessions (fun _ => some e) (b.broadcast e) := by
  constructor
  · intro batch
    exact ⟨accounts_deliver h (share_eq batch), schedules_deliver h (share_eq batch)⟩
  · intro e
    have hnews : ∀ s : Session, some e = if (fun _ => true) s then some e else none := fun _ => rfl
    have hall : b.sessions.filter (fun _ => true) = b.sessions :=
      List.filter_eq_self.mpr fun _ _ => rfl
    have haccounts := accounts_deliver h hnews
    have hschedules := schedules_deliver h hnews
    rw [hall] at haccounts hschedules
    exact ⟨haccounts, hschedules⟩

/-! ### A delivery to all kinds of channels -/

/-- Of five sessions with room for one event each the first one is full, the browser of the second
one is gone, the third one has room, the fourth one is full, too, and the fifth one asks for
another sensor. -/
def mixedTargets : BusRun where
  config := { channelCapacity := 1, sendTimeoutMs := 40 }
  ops := [.register ⟨1⟩, .register ⟨2⟩, .register ⟨3⟩, .register ⟨4⟩, .register ⟨5⟩,
    .subscribe ⟨1⟩ ⟨"plant", "boiler"⟩ .modbus (.ofList [.id 7]),
    .subscribe ⟨2⟩ ⟨"plant", "boiler"⟩ .modbus (.ofList [.name "heat"]),
    .subscribe ⟨3⟩ ⟨"plant", "boiler"⟩ .modbus (.ofList [.id 7, .name "flow"]),
    .subscribe ⟨4⟩ ⟨"plant", "boiler"⟩ .modbus (.ofList [.id 7]),
    .subscribe ⟨5⟩ ⟨"plant", "boiler"⟩ .modbus (.ofList [.name "flow"]),
    .broadcast (.control ⟨false, 0, 0⟩) fun _ => 0, .receive ⟨3⟩ 1, .hangUp ⟨2⟩]
  possible := by decide

/-- One reading of a sensor that all of them but the last one ask for. -/
def oneReading : Batch :=
  ⟨.modbus, "plant", "boiler", [⟨"plant", "boiler", 7, "heat", .int 1, ⟨0, 0⟩⟩]⟩

/-- One session is told, three are evicted after one time span in all, and the fifth one stays. -/
theorem mixed_targets_are_accounted_for :
    mixedTargets.bus.Orderly ∧
      (mixedTargets.bus.publish oneReading).2 = ⟨1, [⟨1⟩, ⟨2⟩, ⟨4⟩], 40⟩ ∧
      ((mixedTargets.bus.publish oneReading).1.isRegistered ⟨5⟩ = true ↔
        mixedTargets.bus.isRegistered ⟨5⟩ = true ∧
          ⟨5⟩ ∉ (mixedTargets.bus.publish oneReading).2.evicted) ∧
      Schedules mixedTargets.bus (mixedTargets.bus.sessions.filter (·.follows oneReading))
        (·.share oneReading) (mixedTargets.bus.publish oneReading) := by
  have h := (delivery_accounts_for_targets mixedTargets.orderly).1 oneReading
  exact ⟨mixedTargets.orderly, by decide, h.1.registered ⟨5⟩, h.2⟩

end Bus

end SensorGateway
