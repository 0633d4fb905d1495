/-
# SensorGateway.Proofs.Gateway.FirstSight -- what a session is told when it asks

An adapter that is pointed at more keys tells the values of the sensors that it did not watch
before, and what it watches is the union over all sessions and the recorder. So a session that asks
for a sensor is told its value at once if the adapter begins to watch the sensor by that; and it is
told nothing if the adapter watches the sensor already, be it for this session, for another
one, for the recorder, or for nobody any more. `first_sight_is_told` says just what waits in the
session's channel afterwards, and `second_browser_sees_nothing` shows the other case.

The adapters hold objects in memory. Whether the session is evicted meanwhile can be read off the bus
afterwards.
-/
import SensorGateway.Proofs.Gateway.Baseline
import SensorGateway.Proofs.Gateway.Exactness
import SensorGateway.Proofs.Gateway.Replica

namespace SensorGateway

/-! ## One session and one batch -/

/-- What a session gets of the values of some sensors. -/
theorem Session.share_ofTopic {s : Session} {t : Topic} {keys : KeySet}
    (hkeys : s.sensorsOn t = keys) (p : Protocol) (us : List Update) :
    s.share (.ofTopic p t us) =
      if us.filter (·.matchedBy keys) = [] then none
      else some (.batch (.ofTopic p t (us.filter (·.matchedBy keys)))) := by
  have htopic : (Batch.ofTopic p t us).topic = t := rfl
  unfold Session.share
  rw [htopic, hkeys]
  simp only [Batch.scopedTo, Batch.isEmpty, Batch.ofTopic, List.isEmpty_iff]

namespace Gateway

variable {g : Gateway} {closed : List SessionId} {t : Topic} {p : Protocol} {keys : KeySet}

/-- A session that has asked for some keys has these keys, also if there are none. -/
theorem sensorsOn_asked (s : Session) (t : Topic) (p : Protocol) (keys : KeySet) :
    (s.setSubscription t (asked p keys)).sensorsOn t = keys := by
  unfold Session.sensorsOn
  rw [Bus.get?_setSubscription, if_pos rfl]
  unfold asked
  cases hempty : keys.isEmpty with
  | true => exact (SortedSet.eq_empty_of_isEmpty hempty).symm
  | false => rfl

/-- Handing a batch on, as one session sees it. An empty batch is for nobody. -/
theorem place_publishFrom (hd : g.bus.Distinct) (b : Batch) (id : SessionId) :
    (g.publishFrom b).1.bus.place id =
      (g.bus.place id).onRegistered fun s => (s.tell g.bus.capacity (s.share b)).place := by
  unfold publishFrom
  split
  · next hempty =>
    have hnothing (s : Session) : s.share b = none := by
      have hnone : (b.scopedTo (s.sensorsOn b.topic)).isEmpty = true := by
        simp only [Batch.isEmpty, List.isEmpty_iff] at hempty
        simp [Batch.scopedTo, Batch.isEmpty, hempty]
      exact if_pos hnone
    cases g.bus.place id with
    | registered s =>
      show Place.registered s = (s.tell g.bus.capacity (s.share b)).place
      rw [hnothing]
      rfl
    | _ => rfl
  · exact Bus.place_deliver hd _ id

/-- A session that stays registered finds what concerns it behind what waited. -/
theorem waiting_publishFrom (hd : g.bus.Distinct) {s : Session} {id : SessionId}
    (hs : g.bus.place id = .registered s) (b : Batch)
    (hstays : (g.publishFrom b).1.bus.isRegistered id = true) :
    ((g.publishFrom b).1.bus.place id).waiting = s.channel.waiting ++ (s.share b).toList := by
  have hplace := place_publishFrom hd b id
  obtain ⟨s', hs'⟩ := Bus.isRegistered_iff_place.mp hstays
  rw [hs, hs'] at hplace
  rw [hs']
  exact Session.waiting_of_told hplace.symm

/-! ## What is new to the adapter -/

/-- The keys that the adapter of a topic's family watches on its object. -/
def watchedKeys (g : Gateway) (t : Topic) (p : Protocol) : KeySet :=
  ((g.objectOn? t p).map (·.watched)).getD .empty

/-- The sensors of a topic's object that some keys address and that the adapter does not watch, in
the order of the settings. -/
def unseen (g : Gateway) (t : Topic) (p : Protocol) (keys : KeySet) : List Adapter.MemorySensor :=
  (g.sensorsInMemory t p).filter fun x => x.isWatched keys && !x.isWatched (g.watchedKeys t p)

/-- What a session that asks for some keys is told about them: the values of the unseen sensors in
one batch, if there are any. -/
def firstSight (g : Gateway) (t : Topic) (p : Protocol) (keys : KeySet) : List Event :=
  if g.unseen t p keys = [] then []
  else [.batch (.ofTopic p t ((g.unseen t p keys).map fun x => g.written t x x.value))]

/-- An object in memory tells of all fresh sensors; a session with fewer keys gets those that are
fresh for it. -/
theorem filter_fresh {ob : Adapter.MemoryObject} {wanted : KeySet} (hk : ∀ k ∈ keys, k ∈ wanted)
    (g : Gateway) (t : Topic) :
    (((ob.fresh wanted).map fun x => g.written t x x.value).filter (·.matchedBy keys)) =
      (ob.fresh keys).map fun x => g.written t x x.value := by
  unfold Adapter.MemoryObject.fresh
  rw [List.filter_map, List.filter_filter]
  congr 1
  apply List.filter_congr
  intro x _
  show (x.isWatched keys && (x.isWatched wanted && !x.isWatched ob.watched)) = _
  cases hkeys : x.isWatched keys with
  | false => rfl
  | true =>
    have hwanted : x.isWatched wanted = true := KeySet.addresses_mono hk hkeys
    simp [hwanted]

theorem unseen_of_objectOn? {ob : Adapter.MemoryObject} (hob : g.objectOn? t p = some ob) :
    g.unseen t p keys = ob.fresh keys := by
  unfold unseen sensorsInMemory watchedKeys
  rw [hob]
  rfl

/-- Of what an adapter tells that is pointed at all wanted keys, a session gets what is new to the
adapter of its own ones. -/
theorem share_fresh {s : Session} (hkeys : s.sensorsOn t = keys) (hk : ∀ k ∈ keys, k ∈ g.wanted t)
    {ob : Adapter.MemoryObject} (hob : g.objectOn? t p = some ob) :
    (s.share (.ofTopic p t
        ((ob.fresh (g.wanted t)).map fun x => g.written t x x.value))).toList =
      g.firstSight t p keys := by
  rw [Session.share_ofTopic hkeys, filter_fresh hk]
  unfold firstSight
  rw [unseen_of_objectOn? hob]
  by_cases hnone : ob.fresh keys = []
  · simp [hnone]
  · simp [hnone]

/-- Pointing an adapter that accepts, as a session sees it that is still registered afterwards. -/
theorem waiting_reconcile (hg : g.Stocked) (h : Ready closed t g) {s : Session} {id : SessionId}
    (hs : g.bus.place id = .registered s) (hkeys : s.sensorsOn t = keys)
    (hk : ∀ k ∈ keys, k ∈ g.wanted t) (hok : (g.reconcile t p).2.isOk = true)
    (hstays : (g.reconcile t p).1.bus.isRegistered id = true) :
    ((g.reconcile t p).1.bus.place id).waiting = s.channel.waiting ++ g.firstSight t p keys := by
  have hcall := pointingCall_eq h.tracking
  cases hn : g.routes.get? ⟨t.server, p⟩ with
  | none =>
    rw [(reconcile_of_unserved hn).2] at hok
    cases hok
  | some n =>
    obtain ⟨l, hl, hserver, hprotocol⟩ := hg t.server p n hn
    rw [reconcile_eq_call hn hcall, call_eq hl] at hok hstays ⊢
    cases hob : l.objects.get? t.object with
    | none =>
      rw [Adapter.ask_pointing_of_none hob] at hok
      cases hok
    | some ob =>
      have hbatch : l.batch g.clock.wall t.object (ob.fresh (g.wanted t)) =
          .ofTopic p t ((ob.fresh (g.wanted t)).map fun x => g.written t x x.value) := by
        unfold Adapter.Loopback.batch Batch.ofTopic written
        rw [hserver, hprotocol]
      rw [Adapter.ask_pointing_of_some hob, hbatch] at hstays ⊢
      -- nothing has happened on the bus yet when the adapter has answered
      have htold := waiting_publishFrom (g := g.noting n (Adapter.pointing t.object (g.wanted t))
        ⟨.loopback (l.setObject t.object { ob with watched := g.wanted t }), .ok (), _, 0⟩)
        h.sound.distinct hs _ hstays
      rw [share_fresh hkeys hk ((objectOn?_of_loopback hn hl).trans hob)] at htold
      exact htold

/-- A sensor that is told at first sight is told with its value. -/
theorem mem_firstSight {x : Adapter.MemorySensor} (hx : x ∈ g.sensorsInMemory t p)
    (hkeys : keys.addresses x.number x.name = true)
    (hunseen : (g.watchedKeys t p).addresses x.number x.name = false) :
    ∃ b, g.firstSight t p keys = [.batch b] ∧ g.written t x x.value ∈ b.updates := by
  have hmem : x ∈ g.unseen t p keys := by
    refine List.mem_filter.mpr ⟨hx, ?_⟩
    show (keys.addresses x.number x.name && !(g.watchedKeys t p).addresses x.number x.name) = true
    rw [hkeys, hunseen]
    rfl
  exact ⟨_, if_neg (List.ne_nil_of_mem hmem), List.mem_map_of_mem hmem⟩

/-- The keys that an adapter for objects in memory watches on an object that it has. -/
theorem adapterOn?_of_objectOn? {ob : Adapter.MemoryObject} (hob : g.objectOn? t p = some ob) :
    ∃ a, g.adapterOn? t p = some a ∧ a.watched t.object = g.watchedKeys t p := by
  have hkeys : g.watchedKeys t p = ob.watched := by
    unfold watchedKeys
    rw [hob]
    rfl
  rw [hkeys]
  unfold objectOn? at hob
  split at hob
  · next l hon =>
    refine ⟨.loopback l, hon, ?_⟩
    show l.watched t.object = ob.watched
    unfold Adapter.Loopback.watched
    rw [hob]
  · cases hob

/-- **Who asks is told what is new to the adapter.** After any run of a gateway whose adapters all
hold objects in memory let a session ask for some keys, with success, and stay registered. Then
just one thing was put into its channel meanwhile: a batch with the values of those sensors of the
topic's object that the keys address and that the adapter of the family did not watch when the call
began, or nothing if there are none. What any session asks for under the family was watched then, so
nobody is told it again; and where nothing went wrong on a topic that is asked for under one
family, the watched keys were just those that sessions ask for and the recorder tracks. -/
theorem first_sight_is_told (r : Run) (hmore : ∀ i ∈ r.more, i.InMemory) (id : SessionId)
    (t : Topic) (p : Protocol) (keys : KeySet)
    (hok : (r.gateway.subscribe id t p keys).2.isOk = true)
    (hstays : (r.gateway.subscribe id t p keys).1.bus.isRegistered id = true) :
    let g := r.gateway
    let g' := (g.subscribe id t p keys).1
    (g'.bus.place id).waiting = (g.bus.place id).waiting ++ g.firstSight t p keys ∧
      (∀ x ∈ g.sensorsInMemory t p, keys.addresses x.number x.name = true →
        (g.watchedKeys t p).addresses x.number x.name = false →
          ∃ b, g.firstSight t p keys = [.batch b] ∧ g.written t x x.value ∈ b.updates) ∧
      (∀ id' i, g.bus.Asks id' t i → i.protocol = p → ∀ x ∈ g.sensorsInMemory t p,
        i.sensors.addresses x.number x.name = true →
          (g.watchedKeys t p).addresses x.number x.name = true) ∧
      ((∀ op ∈ r.ops, op.KeepsTo t p) → Undisturbed r.world.closed t p g →
        (t, p) ∉ r.world.pending → (g.objectOn? t p).isSome = true →
          g.watchedKeys t p = g.wanted t) := by
  intro g g'
  have hready : Ready r.world.closed t g := ready_run r t
  have hstocked : g.Stocked := r.stocked hmore
  refine ⟨?_, fun x hx hkeys hunseen => mem_firstSight hx hkeys hunseen, ?_, ?_⟩
  · rcases subscribe_cases g id t p keys with
      ⟨-, ⟨-, hno⟩ | ⟨-, hno⟩⟩ | ⟨n, b, hn, hb, ⟨e, -, -, hno⟩ | ⟨hpointed, hnew, -⟩⟩
    · rw [hno] at hok; cases hok
    · rw [hno] at hok; cases hok
    · rw [hno] at hok; cases hok
    · -- the session has its new keys when the adapter is pointed
      obtain ⟨hregistered, rfl⟩ := Bus.restore_eq_ok hb
      obtain ⟨s, hs⟩ := Option.isSome_iff_exists.mp hregistered
      have hplace : g.bus.place id = .registered s := Bus.place_of_find? hs
      let asking : Gateway := { g with bus := g.bus.modify id (·.setSubscription t (asked p keys)) }
      have hs' : asking.bus.place id = .registered (s.setSubscription t (asked p keys)) := by
        show (g.bus.modify id _).place id = _
        rw [Bus.place_modify (fun _ => Bus.id_setSubscription), if_pos rfl, hplace]
        rfl
      have hwanted : ∀ k ∈ keys, k ∈ asking.wanted t := by
        intro k hk
        have hne : keys.isEmpty = false := SortedSet.isEmpty_eq_false_iff.mpr ⟨k, hk⟩
        exact mem_wanted_of_asks (g := asking) (asks_of_asked hb hne) k hk
      have hbus : g'.bus = (asking.reconcile t p).1.bus := by rw [show g' = _ from hnew]
      have hstays : (asking.reconcile t p).1.bus.isRegistered id = true := hbus ▸ hstays
      have haccepted : (asking.reconcile t p).2.isOk = true := by
        rw [show (asking.reconcile t p).2 = _ from hpointed]
        rfl
      have hwaiting := waiting_reconcile (g := asking) hstocked (hready.restore hb) hs'
        (sensorsOn_asked s t p keys) hwanted haccepted hstays
      have hchannel : (s.setSubscription t (asked p keys)).channel = s.channel := by
        cases asked p keys <;> rfl
      rw [hbus, hwaiting, hchannel, hplace]
      rfl
  · rintro id' i hasks rfl x hx haddresses
    have hwatched := mem_watchedSensors_of_asks r hasks hx haddresses
    unfold watchedSensors at hwatched
    unfold watchedKeys
    cases hob : r.gateway.objectOn? t i.protocol with
    | none => rw [hob] at hwatched; cases hwatched
    | some ob =>
      rw [hob] at hwatched
      exact (List.mem_filter.mp hwatched).2
  · intro hkeep hundisturbed hreleased hob
    obtain ⟨ob, hob⟩ := Option.isSome_iff_exists.mp hob
    obtain ⟨a, ha, hwatched⟩ := adapterOn?_of_objectOn? hob
    have hexact : g.heldOn t p = g.demand t :=
      (kept_run r hkeep).settled.exact hreleased hundisturbed
    have hdemand : (g.demand t).getD .empty = g.wanted t := by
      unfold demand
      split
      · next hempty => exact (SortedSet.eq_empty_of_isEmpty hempty).symm
      · rfl
    rw [← hwatched, r.faithful_gateway.watched ha, ← hdemand]
    exact congrArg (·.getD .empty) hexact

/-- A session watches one sensor of a boiler; a second one has come and asks for nothing yet. -/
def lateComer : Run where
  config := {
    servers := [{
      id := some "plant"
      url := "http://plant"
      loopback := [⟨"boiler", .modbus, [⟨some 7, "heat", .int 60⟩, ⟨some 8, "flow", .int 2⟩]⟩] }] }
  clock := ⟨⟨0, 0⟩, 0⟩
  more := []
  ops := [.openSession ⟨1⟩, .subscribe ⟨1⟩ ⟨"plant", "boiler"⟩ .modbus (.ofList [.name "heat"]),
    .openSession ⟨2⟩]
  admissible := by decide

/-- When the second session asks for both sensors it is told one. -/
theorem lateComer_told_what_is_new :
    let s := lateComer.gateway.subscribe ⟨2⟩ ⟨"plant", "boiler"⟩ .modbus
      (.ofList [.name "heat", .name "flow"])
    s.2 = .ok 2 ∧ (s.1.bus.place ⟨2⟩).waiting =
      [.batch ⟨.modbus, "plant", "boiler", [⟨"plant", "boiler", 8, "flow", .int 2, ⟨0, 0⟩⟩]⟩] := by
  intro s
  have htold := first_sight_is_told lateComer (by simp [lateComer]) ⟨2⟩ ⟨"plant", "boiler"⟩ .modbus
    (.ofList [.name "heat", .name "flow"]) (by decide) (by decide)
  exact ⟨rfl, htold.1.trans (by decide)⟩

/-- When it asks for the sensor that the first one watches it is told nothing, although it succeeds,
stays, and did not ask for the sensor before. -/
theorem second_browser_sees_nothing :
    let g := lateComer.gateway
    let s := g.subscribe ⟨2⟩ ⟨"plant", "boiler"⟩ .modbus (.ofList [.name "heat"])
    s.2 = .ok 1 ∧ s.1.bus.isRegistered ⟨2⟩ = true ∧
      g.bus.subscription? ⟨2⟩ ⟨"plant", "boiler"⟩ = none ∧
      (∃ x ∈ g.sensorsInMemory ⟨"plant", "boiler"⟩ .modbus,
        (KeySet.addresses (.ofList [.name "heat"]) x.number x.name) = true) ∧
      (s.1.bus.place ⟨2⟩).waiting = [] := by
  decide

end Gateway

end SensorGateway
