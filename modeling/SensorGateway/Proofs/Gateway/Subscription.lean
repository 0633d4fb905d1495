/-
# SensorGateway.Proofs.Gateway.Subscription -- asking for sensors is all or nothing

A request for sensors changes the table of sessions first and asks the adapter then. When
the adapter refuses, the table is changed back and the adapter is pointed at what was wanted
before. `subscribe_all_or_nothing` says that nothing is left of a request that fails, and
that one that succeeds changes what one session asks for on one topic, and nothing else,
apart from sessions that are evicted because of what the adapter tells meanwhile.

That the table comes back as it was rests on `Bus.restore_undo`: identifiers are used once,
and a map is determined by what it gives.
-/
import SensorGateway.Proofs.Gateway.Books

namespace SensorGateway

/-! ## What one session asks for on one topic -/

namespace Session

/-- A session that gets back what it had asked for is as it was. -/
theorem setSubscription_undo (s : Session) (t : Topic) (o : Option Interest) :
    (s.setSubscription t o).setSubscription t (s.subscriptions.get? t) = s := by
  have hsame : ((s.setSubscription t o).setSubscription t (s.subscriptions.get? t)).subscriptions =
      s.subscriptions := by
    apply SortedMap.ext
    intro t'
    rw [Bus.get?_setSubscription, Bus.get?_setSubscription]
    by_cases ht : t' = t <;> simp [ht]
  have hrest (s : Session) (o : Option Interest) :
      s.setSubscription t o = ⟨s.id, (s.setSubscription t o).subscriptions, s.channel⟩ := by
    cases o <;> rfl
  rw [hrest, hsame]
  cases o <;> rfl

end Session

namespace Bus

variable {b b' : Bus} {id id' : SessionId} {t t' : Topic} {o : Option Interest}

/-- What a session asks for is what the table says. -/
theorem subscription?_eq_some_iff (hd : b.Distinct) {i : Interest} :
    b.subscription? id t = some i ↔ b.Asks id t i := by
  refine ⟨asks_of_subscription?, fun ha => ?_⟩
  obtain ⟨s, hs, rfl, hi⟩ := asks_iff.mp ha
  rw [subscription?, hd.find?_eq hs]
  exact hi

/-- Setting what one session asks for on one topic, as the bus tells it. -/
theorem subscription?_restore (hd : b.Distinct) (hb : b.restore id t o = .ok b') :
    b'.subscription? id' t' = if id' = id ∧ t' = t then o else b.subscription? id' t' := by
  have hd' : b'.Distinct := by
    unfold Distinct
    rw [(ids_restore hb).1]
    exact hd
  apply Option.ext
  intro i
  rw [subscription?_eq_some_iff hd', asks_restore hb]
  split
  · rfl
  · exact (subscription?_eq_some_iff hd).symm

/-- Asking registers nobody, and closes nobody. -/
theorem isRegistered_restore (hb : b.restore id t o = .ok b') :
    b'.isRegistered id' = b.isRegistered id' := by
  obtain ⟨-, rfl⟩ := restore_eq_ok hb
  rw [Bool.eq_iff_iff, isRegistered_iff, isRegistered_iff]
  simp only [modify, List.mem_map]
  constructor
  · rintro ⟨-, ⟨s, hs, rfl⟩, hid⟩
    refine ⟨s, hs, ?_⟩
    split at hid <;> simpa using hid
  · rintro ⟨s, hs, hid⟩
    refine ⟨_, ⟨s, hs, rfl⟩, ?_⟩
    split <;> simpa using hid

/-- Giving a session back what it asked for takes the change back, and nothing is left of it. -/
theorem restore_undo (hd : b.Distinct) (hb : b.restore id t o = .ok b') :
    b'.restore id t (b.subscription? id t) = .ok b := by
  obtain ⟨hr, rfl⟩ := restore_eq_ok hb
  obtain ⟨s, hs, hid⟩ := isRegistered_iff.mp hr
  have hregistered : (b.modify id (·.setSubscription t o)).isRegistered id = true := by
    refine isRegistered_iff.mpr ⟨_, List.mem_map_of_mem hs, ?_⟩
    simp [hid]
  have hback : (b.sessions.map fun s => if s.id = id then s.setSubscription t o else s).map
      (fun s => if s.id = id then s.setSubscription t (b.subscription? id t) else s) =
        b.sessions := by
    rw [List.map_map]
    refine (List.map_congr_left fun s hs => ?_).trans (List.map_id b.sessions)
    by_cases hid : s.id = id
    · -- this is the session that is found, so it gets back its own interest
      have hold : b.subscription? id t = s.subscriptions.get? t := by
        rw [subscription?, ← hid, hd.find?_eq hs]
        rfl
      simp [hid, hold, Session.setSubscription_undo]
    · simp [hid]
  rw [restore, if_pos hregistered]
  exact congrArg (fun l => Except.ok { b with sessions := l }) hback

/-- Sessions that stay ask for what they asked for. -/
theorem subscription?_of_thins (hd : b.Distinct) (h : Thins b b') (hr : b'.isRegistered id = true)
    (t : Topic) : b.isRegistered id = true ∧ b'.subscription? id t = b.subscription? id t := by
  have hd' : b'.Distinct := distinct_of_thins h hd
  obtain ⟨s', hs', rfl⟩ := isRegistered_iff.mp hr
  obtain ⟨gone, -, hperm⟩ := h
  have hbefore : s'.entry ∈ b.table :=
    hperm.mem_iff.mpr (List.mem_append_left gone (List.mem_map_of_mem hs'))
  obtain ⟨s, hs, hentry⟩ := List.mem_map.mp hbefore
  obtain ⟨hid, hsubscriptions⟩ := Prod.mk.inj hentry
  refine ⟨isRegistered_iff.mpr ⟨s, hs, hid⟩, ?_⟩
  rw [subscription?, subscription?, hd'.find?_eq hs', ← hid, hd.find?_eq hs]
  simp [hsubscriptions]

/-- Sessions that do not stay are gone. -/
theorem isRegistered_or_gone_of_thins (h : Thins b b') (hr : b.isRegistered id = true) :
    b'.isRegistered id = true ∨ ∃ s ∈ b'.departed, s.id = id := by
  obtain ⟨s, hs, rfl⟩ := isRegistered_iff.mp hr
  obtain ⟨gone, hgone, hperm⟩ := h
  have hentry : s.entry ∈ b.table := List.mem_map_of_mem hs
  rcases List.mem_append.mp (hperm.mem_iff.mp hentry) with hstays | hleaves
  · obtain ⟨s', hs', he⟩ := List.mem_map.mp hstays
    exact .inl (isRegistered_iff.mpr ⟨s', hs', congrArg Prod.fst he⟩)
  · have hlisted : s.entry ∈ b'.goneTable := hgone ▸ List.mem_append_right _ hleaves
    obtain ⟨s', hs', he⟩ := List.mem_map.mp hlisted
    exact .inr ⟨s', hs', congrArg Prod.fst he⟩

end Bus

/-! ## Adapters that tell nothing -/

namespace Adapter

/-- The call that points an adapter at some keys of an object. -/
def pointing (o : String) (keys : KeySet) : Call :=
  if keys.isEmpty then .unsubscribe o else .subscribe o keys

/-- What an adapter answers has no values in it. -/
def Answer.IsSilent (a : Answer) : Prop := ∀ b ∈ a.batches, b.isEmpty

/-- Should the adapter refuse the first call, then it tells nothing by that, nor during the call
after it. -/
def RefusesInSilence (a : Adapter) (now : Instant) (first back : Call) : Prop :=
  (a.ask now first).result.isOk = false →
    (a.ask now first).IsSilent ∧ ((a.ask now first).adapter.ask now back).IsSilent

theorem object_pointing (o : String) (keys : KeySet) : (pointing o keys).object = o := by
  unfold pointing
  split <;> rfl

/-- The values that an object in memory has to tell when it is pointed at some keys: those of the
sensors that are newly watched. -/
def MemoryObject.fresh (keys : KeySet) (ob : MemoryObject) : List MemorySensor :=
  ob.sensors.filter fun s => s.isWatched keys && !s.isWatched ob.watched

/-- Objects in memory can be pointed at any keys. -/
theorem ask_pointing_of_some {l : Loopback} {o : String} {ob : MemoryObject}
    (h : l.objects.get? o = some ob) (now : Instant) (keys : KeySet) :
    (loopback l).ask now (pointing o keys) =
      ⟨loopback (l.setObject o { ob with watched := keys }), .ok (),
        [l.batch now o (ob.fresh keys)], 0⟩ := by
  unfold pointing
  split
  · next hempty =>
    -- no sensor is watched, so none is new
    obtain rfl : keys = .empty := SortedSet.eq_empty_of_isEmpty hempty
    have hnone : ob.fresh .empty = [] := List.filter_eq_nil_iff.mpr fun s _ => by
      simp [MemorySensor.isWatched, KeySet.addresses]
    simp only [ask, Loopback.perform, Call.object, h, hnone]
  · simp only [ask, Loopback.perform, Call.object, h]
    rfl

/-- There is no such object. -/
theorem ask_pointing_of_none {l : Loopback} {o : String} (h : l.objects.get? o = none)
    (now : Instant) (keys : KeySet) :
    (loopback l).ask now (pointing o keys) = ⟨loopback l, .error (.unknownObject o), [], 0⟩ := by
  simp only [ask, Loopback.perform, object_pointing, h]

/-- Objects in memory refuse in silence: there is no such object, and that stays so. -/
theorem loopback_refusesInSilence (l : Loopback) (now : Instant) (o : String)
    (keys keys' : KeySet) :
    (loopback l).RefusesInSilence now (pointing o keys) (pointing o keys') := by
  intro hrefused
  cases hob : l.objects.get? o with
  | some ob =>
    rw [ask_pointing_of_some hob] at hrefused
    cases hrefused
  | none =>
    rw [ask_pointing_of_none hob]
    refine ⟨fun b hb => absurd hb List.not_mem_nil, ?_⟩
    show ((loopback l).ask now (pointing o keys')).IsSilent
    rw [ask_pointing_of_none hob]
    exact fun b hb => absurd hb List.not_mem_nil

/-- A script does not change by being followed. -/
theorem script_perform (s : Scripted) (c : Call) : (s.perform c).1.script = s.script := by
  unfold Scripted.perform
  simp only
  split
  · rfl
  · cases c <;> rfl

/-- A script that tells nothing is silent. -/
theorem isSilent_scripted {s : Scripted} (h : ∀ k n, s.script.tells k n = []) (now : Instant)
    (c : Call) : ((scripted s).ask now c).IsSilent := by
  intro b hb
  have hnone : s.toldNext c.kind = [] := h c.kind _
  have hb : b ∈ s.toldNext c.kind := hb
  rw [hnone] at hb
  cases hb

/-- It is silent throughout. -/
theorem scripted_refusesInSilence {s : Scripted} (h : ∀ k n, s.script.tells k n = [])
    (now : Instant) (first back : Call) :
    (scripted s).RefusesInSilence now first back := by
  intro _
  refine ⟨isSilent_scripted h now first, isSilent_scripted (s := (s.perform first).1) ?_ now back⟩
  rw [script_perform]
  exact h

end Adapter

namespace Gateway

variable {g : Gateway} {t : Topic} {p : Protocol} {n : Nat} {a : Adapter} {c : Adapter.Call}

theorem foldl_publishFrom_of_silent {bs : List Batch} (h : ∀ b ∈ bs, b.isEmpty) (g : Gateway) :
    bs.foldl (fun g b => (g.publishFrom b).1) g = g := by
  induction bs with
  | nil => rfl
  | cons b rest ih =>
    have hb : (g.publishFrom b).1 = g := by rw [publishFrom, if_pos (h b (by simp))]
    rw [List.foldl_cons, hb]
    exact ih fun b' hb' => h b' (List.mem_cons_of_mem b hb')

theorem call_of_silent (ha : g.adapters[n]? = some a) (hs : (a.ask g.clock.wall c).IsSilent) :
    g.call n c = (g.noting n c (a.ask g.clock.wall c), (a.ask g.clock.wall c).result) := by
  rw [call_eq ha, foldl_publishFrom_of_silent hs]

/-- Where there is no adapter nothing is pointed at the topic. -/
theorem reconcile_of_unserved (hn : g.routes.get? ⟨t.server, p⟩ = none) :
    (g.reconcile t p).1 = g ∧ (g.reconcile t p).2.isOk = false := by
  unfold reconcile adapterFor
  rw [hn]
  exact ⟨rfl, rfl⟩

/-- Pointing the adapter of a topic is a call. -/
theorem reconcile_eq_call (hn : g.routes.get? ⟨t.server, p⟩ = some n)
    (hc : g.pointingCall t = some c) :
    g.reconcile t p = ((g.call n c).1, (g.call n c).2.mapError .adapter) := by
  unfold reconcile request adapterFor
  rw [hn, hc]
  simp only
  obtain ⟨g', e | u⟩ := g.call n c <;> rfl

/-- Where no topic is tracked without sensors, the adapter is pointed at what is wanted. -/
theorem pointingCall_eq
    (h : ∀ i, g.recorder.tracked.get? t = some i → i.sensors.isEmpty = false) :
    g.pointingCall t = some (Adapter.pointing t.object (g.wanted t)) := by
  have hsome := isSome_pointingCall_of_tracking h
  unfold pointingCall at hsome ⊢
  unfold Adapter.pointing
  cases hw : (g.wanted t).isEmpty with
  | false => simp
  | true =>
    cases hk : g.recorder.isTracking t with
    | true => simp [hw, hk] at hsome
    | false => simp

/-! ## Refused requests -/

variable {closed : List SessionId} {id : SessionId} {o : Option Interest} {b : Bus}

/-- An adapter that refuses to be pointed at what a session asks for anew, and tells nothing by that
nor by the call after it, leaves two calls behind, and nothing else. -/
theorem takeBack_of_refused (h : Ready closed t g) (hn : g.routes.get? ⟨t.server, p⟩ = some n)
    (ha : g.adapters[n]? = some a) (hb : g.bus.restore id t o = .ok b) {e : GatewayError}
    (he : ({ g with bus := b }.reconcile t p).2 = .error e)
    (hquiet : a.RefusesInSilence g.clock.wall
      (Adapter.pointing t.object (Gateway.wanted { g with bus := b } t))
      (Adapter.pointing t.object (g.wanted t))) :
    ∃ refusal last g', e = .adapter refusal ∧
      ({ g with bus := b }.reconcile t p).1.takeBack id t p (g.bus.subscription? id t) e =
        (g', e) ∧
      g'.bus = g.bus ∧ g'.recorder = g.recorder ∧ g'.arbiter = g.arbiter ∧
      g'.calls = g.calls ++
        [⟨n, Adapter.pointing t.object (Gateway.wanted { g with bus := b } t), .error refusal⟩,
          ⟨n, Adapter.pointing t.object (g.wanted t), last⟩] := by
  have hfirst : Gateway.pointingCall { g with bus := b } t =
      some (Adapter.pointing t.object (Gateway.wanted { g with bus := b } t)) :=
    pointingCall_eq h.tracking
  generalize Adapter.pointing t.object (Gateway.wanted { g with bus := b } t) = first at *
  have hrec := reconcile_eq_call (g := { g with bus := b }) hn hfirst
  -- the adapter refuses the first call
  have hresult : (Gateway.call { g with bus := b } n first).2 = (a.ask g.clock.wall first).result :=
    (call_of_present (g := { g with bus := b }) ha first).1
  rw [hrec, hresult] at he
  obtain ⟨refusal, hrefused, rfl⟩ : ∃ refusal,
      (a.ask g.clock.wall first).result = .error refusal ∧ e = .adapter refusal := by
    cases hr : (a.ask g.clock.wall first).result with
    | ok u => rw [hr] at he; cases he
    | error refusal =>
      rw [hr] at he
      exact ⟨refusal, rfl, (Except.error.inj he).symm⟩
  obtain ⟨hsilent, hsilent'⟩ := hquiet (by rw [hrefused]; rfl)
  have hcall := call_of_silent (g := { g with bus := b }) ha hsilent
  -- with the old table it is pointed at what was wanted before
  let noted := g.noting n first (a.ask g.clock.wall first)
  have hback : noted.pointingCall t = some (Adapter.pointing t.object (g.wanted t)) :=
    pointingCall_eq (g := noted) h.tracking
  have hlt : n < g.adapters.length := (List.getElem?_eq_some_iff.mp ha).1
  have ha' : noted.adapters[n]? = some (a.ask g.clock.wall first).adapter :=
    List.getElem?_set_self hlt
  have hrec' : noted.reconcile t p =
      ((noted.call n (Adapter.pointing t.object (g.wanted t))).1,
        (noted.call n (Adapter.pointing t.object (g.wanted t))).2.mapError .adapter) :=
    reconcile_eq_call (g := noted) hn hback
  have hcall' := call_of_silent (g := noted) ha' hsilent'
  let last := (a.ask g.clock.wall first).adapter.ask g.clock.wall
    (Adapter.pointing t.object (g.wanted t))
  refine ⟨refusal, last.result, (noted.reconcile t p).1, rfl, ?_, ?_⟩
  · rw [hrec, hcall]
    unfold takeBack
    rw [show (noting { g with bus := b } n first (a.ask g.clock.wall first)).bus = b from rfl,
      Bus.restore_undo h.sound.distinct hb]
    rfl
  · rw [hrec', hcall']
    refine ⟨rfl, rfl, rfl, ?_⟩
    show (g.calls ++ [Exchange.mk n first _]) ++ [_] = _
    rw [hrefused, List.append_assoc]
    rfl

/-! ## Accepted requests -/

/-- An adapter that accepts what a session asks for anew, and tells nothing meanwhile, leaves the
table as it was changed. -/
theorem bus_reconcile_of_silent (h : Ready closed t g)
    (hn : g.routes.get? ⟨t.server, p⟩ = some n) (ha : g.adapters[n]? = some a)
    (hs : (a.ask g.clock.wall (Adapter.pointing t.object (g.wanted t))).IsSilent) :
    (g.reconcile t p).1.bus = g.bus := by
  rw [reconcile_eq_call hn (pointingCall_eq h.tracking), call_of_silent ha hs]
  rfl

/-- **Asking is all or nothing.** After any run a session asks for some keys on a topic. Should the
adapter refuse them, let it tell nothing by that, nor by the call after it.

If the request fails, then the table of sessions, their channels, the recording and control are as
before. Where there is no adapter or no session the whole gateway is as before; where the
adapter refused, it was called just once more, and pointed at what was wanted before. If the
request succeeds, the answer is the number of keys, the session asks for just these keys on
the topic, and for nothing there if there are none; all other sessions and topics are as
before, unless a session was evicted. None is if the adapter tells nothing. -/
theorem subscribe_all_or_nothing (r : Run) (id : SessionId) (t : Topic) (p : Protocol)
    (keys : KeySet)
    (quiet : ∀ a b, r.gateway.adapterOn? t p = some a →
      r.gateway.bus.restore id t (asked p keys) = .ok b →
      a.RefusesInSilence r.gateway.clock.wall
        (Adapter.pointing t.object (wanted { r.gateway with bus := b } t))
        (Adapter.pointing t.object (r.gateway.wanted t))) :
    let g := r.gateway
    let s := g.subscribe id t p keys
    (∀ e, s.2 = .error e →
      s.1.bus = g.bus ∧ s.1.recorder = g.recorder ∧ s.1.arbiter = g.arbiter ∧
      ((e = .noAdapter t.server p ∧ s.1 = g) ∨ (e = .bus (.unknownSession id) ∧ s.1 = g) ∨
        ∃ n first refusal last, g.routes.get? ⟨t.server, p⟩ = some n ∧ e = .adapter refusal ∧
          s.1.calls = g.calls ++ [⟨n, first, .error refusal⟩,
            ⟨n, Adapter.pointing t.object (g.wanted t), last⟩])) ∧
    (∀ count, s.2 = .ok count →
      count = keys.size ∧ g.bus.isRegistered id = true ∧
      (∀ id', s.1.bus.isRegistered id' = true → ∀ t', s.1.bus.subscription? id' t' =
        if id' = id ∧ t' = t then asked p keys else g.bus.subscription? id' t') ∧
      (∀ id', s.1.bus.isRegistered id' = true → g.bus.isRegistered id' = true) ∧
      (∀ id', g.bus.isRegistered id' = true →
        s.1.bus.isRegistered id' = true ∨ ∃ gone ∈ s.1.bus.departed, gone.id = id') ∧
      ∀ a b, g.adapterOn? t p = some a → g.bus.restore id t (asked p keys) = .ok b →
        (a.ask g.clock.wall (Adapter.pointing t.object (wanted { g with bus := b } t))).IsSilent →
          s.1.bus = b) := by
  intro g s
  have hready : Ready r.world.closed t g := ready_run r t
  have hd : g.bus.Distinct := hready.sound.distinct
  rcases subscribe_cases g id t p keys with ⟨hsame, hwhy⟩ | ⟨n, b, hn, hb, hcases⟩
  · have hsame : s.1 = g := hsame
    constructor
    · intro e he
      refine ⟨by rw [hsame], by rw [hsame], by rw [hsame], ?_⟩
      rcases hwhy with ⟨-, hno⟩ | ⟨-, hunknown⟩
      · exact .inl ⟨Except.error.inj (he.symm.trans hno), hsame⟩
      · exact .inr (.inl ⟨Except.error.inj (he.symm.trans hunknown), hsame⟩)
    · intro count hcount
      rcases hwhy with ⟨-, hno⟩ | ⟨-, hunknown⟩
      · cases hcount.symm.trans hno
      · cases hcount.symm.trans hunknown
  have hlt : n < g.adapters.length := hready.routed.present hn
  have ha : g.adapters[n]? = some g.adapters[n] := List.getElem?_eq_getElem hlt
  have hon : g.adapterOn? t p = some g.adapters[n] := by
    unfold adapterOn?
    rw [hn]
    exact ha
  rcases hcases with ⟨e, he, hback, herror⟩ | ⟨-, hnew, hok⟩
  · obtain ⟨refusal, last, g', rfl, htaken, hbus, hrecorder, harbiter, hcalls⟩ :=
      takeBack_of_refused hready hn ha hb he (quiet _ b hon hb)
    rw [htaken] at hback herror
    have hback : s.1 = g' := hback
    constructor
    · intro e he
      rw [hback]
      refine ⟨hbus, hrecorder, harbiter, .inr (.inr ⟨n, _, refusal, last, hn, ?_, hcalls⟩)⟩
      exact Except.error.inj (he.symm.trans herror)
    · intro count hcount
      cases hcount.symm.trans herror
  · constructor
    · intro e he
      cases he.symm.trans hok
    intro count hcount
    have hbus : s.1.bus = ({ g with bus := b }.reconcile t p).1.bus := by
      rw [show s.1 = _ from hnew]
    have hthins : Bus.Thins b s.1.bus := hbus ▸ (steady_reconcile { g with bus := b } t p).bus
    have hd' : b.Distinct := (hready.restore hb).sound.distinct
    -- asking changes one subscription, and pointing the adapter only evicts
    have hregistered (id' : SessionId) : b.isRegistered id' = g.bus.isRegistered id' :=
      Bus.isRegistered_restore hb
    refine ⟨Except.ok.inj (hcount.symm.trans hok), (Bus.restore_eq_ok hb).1, ?_, ?_, ?_, ?_⟩
    · intro id' hr t'
      rw [(Bus.subscription?_of_thins hd' hthins hr t').2, Bus.subscription?_restore hd hb]
    · intro id' hr
      rw [← hregistered]
      exact (Bus.subscription?_of_thins hd' hthins hr t).1
    · intro id' hr
      exact Bus.isRegistered_or_gone_of_thins hthins ((hregistered id').trans hr)
    · intro a' b' ha' hb' hsilent
      obtain rfl : b = b' := Except.ok.inj (hb.symm.trans hb')
      obtain rfl : g.adapters[n] = a' := Option.some.inj (hon.symm.trans ha')
      rw [hbus]
      exact bus_reconcile_of_silent (g := { g with bus := b }) (hready.restore hb) hn ha hsilent

/-- A session asks for a sensor. The adapter refuses everything after that. -/
def stubborn : Run where
  config := {}
  clock := ⟨⟨0, 0⟩, 0⟩
  more := [⟨"plant", .scripted (.new .modbus
      { delay := fun _ _ => 0
        refusal := fun _ n => if n < 2 then none else some .rejected }),
    fun _ => rfl⟩]
  ops := [.openSession ⟨1⟩, .subscribe ⟨1⟩ tank .modbus (.ofList [.name "level"])]
  admissible := by decide

/-- When the session asks for another sensor instead, it keeps its first one, and the adapter is
pointed back at that. -/
theorem stubborn_unchanged :
    let s := stubborn.gateway.subscribe ⟨1⟩ tank .modbus (.ofList [.name "valve"])
    s.2 = .error (.adapter (.rejected "too many registers")) ∧
      s.1.bus = stubborn.gateway.bus ∧
      s.1.bus.subscription? ⟨1⟩ tank = some ⟨.modbus, .ofList [.name "level"]⟩ ∧
      s.1.calls.getLast?.map (·.call) = some (.subscribe "tank" (.ofList [.name "level"])) := by
  intro s
  have hadapters : ∃ a, stubborn.gateway.adapters = [.scripted a] ∧
      a.script.tells = fun _ _ => [] := ⟨_, rfl, rfl⟩
  obtain ⟨a, ha, htells⟩ := hadapters
  have hnothing := subscribe_all_or_nothing stubborn ⟨1⟩ tank .modbus (.ofList [.name "valve"]) (by
    intro a' b hon _
    obtain ⟨n, -, hn⟩ := Option.bind_eq_some_iff.mp hon
    rw [ha] at hn
    obtain rfl := List.mem_singleton.mp (List.mem_of_getElem? hn)
    exact Adapter.scripted_refusesInSilence (by simp [htells]) _ _ _)
  obtain ⟨hbus, -, -, -⟩ := hnothing.1 _ (show s.2 = _ from rfl)
  refine ⟨rfl, hbus, ?_, by decide⟩
  rw [hbus]
  decide

end Gateway

end SensorGateway
