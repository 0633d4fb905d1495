/-
# SensorGateway.Proofs.Gateway.Exactness -- adapters watch what is needed and no more

Where nothing went wrong on a topic, the adapter of its family holds exactly what
sessions ask for and what the recorder tracks, and nothing when that is nothing. Wrong
means that the adapter refused to be pointed at the topic, or that a session with an
interest in it was evicted; both leave traces (`Gateway.Undisturbed`).

The invariant is `Gateway.Settled`. Every operation either leaves what is wanted on the
topic alone, or ends with pointing the adapter at it; only a closed session leaves that
for later, and until then the topic is due. Trouble does not heal: what is undisturbed in
the end was undisturbed all along (`Gateway.Undisturbed.of_steady`), so exactness carries
over from one step to the next.
-/
import SensorGateway.Proofs.Gateway.Books

namespace SensorGateway.Gateway

/-! ## Exactness -/

/-- The adapter of a topic holds what is wanted there, and is unsubscribed if that is nothing. -/
def Exact (g : Gateway) (t : Topic) (p : Protocol) : Prop := g.heldOn t p = g.demand t

theorem wanted_congr {g g' : Gateway} {t : Topic}
    (hasks : ∀ id i, g'.bus.Asks id t i ↔ g.bus.Asks id t i)
    (htracked : g'.recorder.tracked.get? t = g.recorder.tracked.get? t) :
    g'.wanted t = g.wanted t := by
  unfold wanted Recorder.sensorsOn?
  rw [Bus.sensorsOn_congr hasks, htracked]

theorem Exact.congr {g g' : Gateway} {t : Topic} {p : Protocol} (h : g.Exact t p)
    (hheld : g'.heldOn t p = g.heldOn t p) (hwanted : g'.wanted t = g.wanted t) :
    g'.Exact t p := by
  unfold Exact demand
  rw [hheld, hwanted]
  exact h

/-! ## Undisturbed topics -/

/-- Nothing went wrong on a topic: the adapter did not refuse to be pointed at it, and the
sessions that are gone and had an interest in it were closed. -/
structure Undisturbed (closed : List SessionId) (t : Topic) (p : Protocol) (g : Gateway) :
    Prop where
  accepted : ¬ g.Refused t p
  kept : g.bus.OnlyGone closed t

variable {closed : List SessionId} {t : Topic} {p : Protocol} {g g' : Gateway}

/-- What went wrong stays wrong. -/
theorem Undisturbed.of_steady (h : Undisturbed closed t p g') (hs : Steady g g') :
    Undisturbed closed t p g where
  accepted hr := h.accepted (hr.of_steady hs)
  kept := h.kept.of_thins hs.bus

/-- On an undisturbed topic everybody goes on asking for the same through steady changes. -/
theorem asks_iff_of_steady (hs : Steady g g') (h : Sound closed g)
    (hu : Undisturbed closed t p g') (id : SessionId) (i : Interest) :
    g'.bus.Asks id t i ↔ g.bus.Asks id t i :=
  Bus.asks_iff_of_thins h.distinct h.gone hs.bus hu.kept id i

theorem wanted_of_steady (hs : Steady g g') (h : Sound closed g)
    (hu : Undisturbed closed t p g') : g'.wanted t = g.wanted t :=
  wanted_congr (asks_iff_of_steady hs h hu) (by rw [hs.tracked])

/-! ## Pointing adapters -/

/-- An adapter that was pointed at an undisturbed topic holds what is wanted there. -/
theorem exact_reconcile (hg : g.WellRouted) (h : Sound closed g)
    (hroute : g.routes.get? ⟨t.server, p⟩ = none → (g.wanted t).isEmpty)
    (hcall : (g.pointingCall t).isSome) (hu : Undisturbed closed t p (g.reconcile t p).1) :
    (g.reconcile t p).1.Exact t p := by
  have hwanted : (g.reconcile t p).1.wanted t = g.wanted t :=
    wanted_of_steady (steady_reconcile g t p) h hu
  have hdemand : (g.reconcile t p).1.demand t = g.demand t := by unfold demand; rw [hwanted]
  cases hok : (g.reconcile t p).2.isOk with
  | true => exact (heldOn_reconcile_of_ok hg hok hcall).trans hdemand.symm
  | false =>
    rcases refused_of_reconcile hg hok with hnone | hr
    · rw [Exact, hdemand, heldOn_reconcile hg, if_neg (by simp [hok]), heldOn, hnone, demand,
        if_pos (hroute hnone)]
      rfl
    · exact absurd hr hu.accepted

/-- Pointing an adapter elsewhere does not matter. -/
theorem Exact.reconcile (he : g.Exact t p) (hg : g.WellRouted) (h : Sound closed g) {t' : Topic}
    {p' : Protocol} (hne : ¬ (t' = t ∧ p' = p))
    (hu : Undisturbed closed t p (g.reconcile t' p').1) : (g.reconcile t' p').1.Exact t p := by
  refine he.congr ?_ (wanted_of_steady (steady_reconcile g t' p') h hu)
  rw [heldOn_reconcile hg, if_neg]
  rintro ⟨rfl, rfl, -⟩
  exact hne ⟨rfl, rfl⟩

/-- Without an adapter nothing is wanted, for nobody gets a subscription. -/
theorem Served.isEmpty_wanted (h : Served (Only t p) g)
    (hnone : g.routes.get? ⟨t.server, p⟩ = none) : (g.wanted t).isEmpty := by
  have unwatched {keys : KeySet} : ¬ g.Watches t p keys := by
    rintro ⟨ks, hks, -⟩
    rw [heldOn, hnone] at hks
    cases hks
  apply SortedSet.isEmpty_iff.mpr
  intro k hk
  rcases mem_wanted.mp hk with hk | ⟨i, hi, -⟩
  · obtain ⟨id, i, ha, -⟩ := Bus.mem_sensorsOn.mp hk
    obtain rfl : i.protocol = p := h.family ⟨rfl, rfl⟩ ha
    exact unwatched (h.covered ha)
  · exact unwatched (h.trackedCovered ⟨rfl, rfl⟩ hi)

/-! ## The invariant -/

/-- The adapter of a topic holds what is wanted there, unless the topic is due to be released or
was disturbed. -/
structure Settled (closed : List SessionId) (due : Prop) (t : Topic) (p : Protocol)
    (g : Gateway) : Prop where
  sound : Sound closed g
  served : Served (Only t p) g
  exact : ¬ due → Undisturbed closed t p g → g.Exact t p

variable {due : Prop}

theorem Settled.weaken {due' : Prop} (h : Settled closed due t p g) (hd : due → due') :
    Settled closed due' t p g :=
  ⟨h.sound, h.served, fun hnot => h.exact (mt hd hnot)⟩

theorem Settled.calm (h : Settled closed due t p g) (hc : Calm g g') :
    Settled closed due t p g' where
  sound := h.sound.steady hc.toSteady
  served := h.served.calm hc
  exact hd hu := (h.exact hd (hu.of_steady hc.toSteady)).congr (hc.heldOn t p)
    (wanted_of_steady hc.toSteady h.sound hu)

/-- Releasing a topic settles it. -/
theorem settled_reconcile (h : Sound closed g) (hserved : Served (Only t p) g) :
    Settled closed due t p (g.reconcile t p).1 where
  sound := h.steady (steady_reconcile g t p)
  served := hserved.reconcile t p
  exact _ hu := exact_reconcile hserved.routed h hserved.isEmpty_wanted
    (isSome_pointingCall_of_tracking fun _ => hserved.tracking) hu

theorem Settled.reconcile (h : Settled closed due t p g) (t' : Topic) (p' : Protocol) :
    Settled closed due t p (g.reconcile t' p').1 := by
  by_cases heq : t' = t ∧ p' = p
  · obtain ⟨rfl, rfl⟩ := heq
    exact settled_reconcile h.sound h.served
  · have hs := steady_reconcile g t' p'
    refine ⟨h.sound.steady hs, h.served.reconcile t' p', ?_⟩
    intro hd hu
    exact (h.exact hd (hu.of_steady hs)).reconcile h.served.routed h.sound heq hu

theorem Settled.releaseTopics (h : Settled closed due t p g) (topics : List (Topic × Protocol)) :
    Settled closed due t p (g.releaseTopics topics) :=
  releaseTopics_induction (fun _ t p hg => hg.reconcile t p) h topics

/-- Releasing several topics settles each of them. -/
theorem settled_releaseTopics (h : Sound closed g) (hserved : Served (Only t p) g)
    {topics : List (Topic × Protocol)} (hmem : (t, p) ∈ topics) :
    Settled closed due t p (g.releaseTopics topics) := by
  obtain ⟨before, after, rfl⟩ := List.append_of_mem hmem
  have hbefore : Sound closed (g.releaseTopics before) := h.releaseTopics before
  rw [releaseTopics_append_cons]
  exact (settled_reconcile hbefore (hserved.releaseTopics before)).releaseTopics after

/-! ## Sessions come and go -/

/-- A new session asks for nothing. -/
theorem wanted_openSession {id : SessionId} (hnew : id ∉ g.bus.ids) :
    (g.openSession id).1.wanted t = g.wanted t :=
  wanted_congr (fun _ _ => Bus.asks_register_of_new hnew) rfl

theorem wanted_closeSession {id : SessionId} (hnone : ∀ i, ¬ g.bus.Asks id t i) :
    (g.closeSession id).1.wanted t = g.wanted t :=
  wanted_congr (fun _ _ => Bus.asks_close_of_none hnone) rfl

theorem Settled.openSession (h : Settled closed due t p g) {id : SessionId}
    (hnew : id ∉ g.bus.ids) : Settled closed due t p (g.openSession id).1 := by
  refine ⟨h.sound.openSession hnew, h.served.openSession id, ?_⟩
  intro hd hu
  exact (h.exact hd ⟨hu.accepted, hu.kept⟩).congr rfl (wanted_openSession hnew)

/-- Closing a session disturbs nothing. -/
theorem Undisturbed.of_closeSession {id : SessionId}
    (hu : Undisturbed (g.closing closed id) t p (g.closeSession id).1) (h : Sound closed g) :
    Undisturbed closed t p g := by
  have hs := steady_closeSession h id
  refine ⟨fun hr => hu.accepted (hr.of_steady hs), ?_⟩
  intro e he hi
  exact h.mem_of_mem_closing he (hu.kept.of_thins hs.bus e he hi)

/-- A topic that a closed session has left is due; nothing else changes. -/
theorem Settled.closeSession (h : Settled closed due t p g) (id : SessionId) :
    Settled (g.closing closed id) (due ∨ (t, p) ∈ (g.closeSession id).2) t p
      (g.closeSession id).1 where
  sound := h.sound.closeSession id
  served := h.served.closeSession id
  exact hd hu := by
    have hbefore := h.exact (fun hdue => hd (.inl hdue)) (hu.of_closeSession h.sound)
    refine hbefore.congr rfl (wanted_closeSession ?_)
    -- had the session asked for something here, the topic would be due
    intro i ha
    have hleft := Bus.mem_topics_of_asks h.sound.distinct ha
    rw [h.served.family ⟨rfl, rfl⟩ ha] at hleft
    exact hd (.inr hleft)

/-! ## Asking and giving up -/

theorem Undisturbed.of_restore {id : SessionId} {t' : Topic} {o : Option Interest} {b : Bus}
    (hu : Undisturbed closed t p { g with bus := b }) (hb : g.bus.restore id t' o = .ok b) :
    Undisturbed closed t p g := by
  refine ⟨hu.accepted, ?_⟩
  have hkept := hu.kept
  unfold Bus.OnlyGone at hkept ⊢
  rwa [(Bus.ids_restore hb).2] at hkept

/-- Asking for something on another topic does not matter. -/
theorem Exact.restore (he : g.Exact t p) {id : SessionId} {t' : Topic} {o : Option Interest}
    {b : Bus} (hb : g.bus.restore id t' o = .ok b) (hne : t ≠ t') :
    Exact { g with bus := b } t p := by
  refine he.congr rfl (wanted_congr ?_ rfl)
  intro id' i
  rw [Bus.asks_restore hb, if_neg fun hc => hne hc.2]

theorem Undisturbed.of_takeBack {id : SessionId} {t' : Topic} {p' : Protocol}
    {previous : Option Interest} {e : GatewayError}
    (hu : Undisturbed closed t p (g.takeBack id t' p' previous e).1) :
    Undisturbed closed t p g := by
  rcases takeBack_cases g id t' p' previous e with ⟨-, hsame⟩ | ⟨b, hb, hrec⟩
  · rwa [hsame] at hu
  · rw [hrec] at hu
    exact (hu.of_steady (steady_reconcile { g with bus := b } t' p')).of_restore hb

/-- Taking back what was asked for on another topic does not matter. -/
theorem Exact.takeBack (he : g.Exact t p) (hg : g.WellRouted) (h : Sound closed g)
    {id : SessionId} {t' : Topic} {p' : Protocol} {previous : Option Interest} {e : GatewayError}
    (hne : t ≠ t') (hu : Undisturbed closed t p (g.takeBack id t' p' previous e).1) :
    (g.takeBack id t' p' previous e).1.Exact t p := by
  rcases takeBack_cases g id t' p' previous e with ⟨-, hsame⟩ | ⟨b, hb, hrec⟩
  · rw [hsame]; exact he
  · rw [hrec] at hu ⊢
    exact (he.restore hb hne).reconcile (hg.of_same rfl rfl) (h.restore hb)
      (fun hc => hne hc.1.symm) hu

/-- Tracking what is wanted anyway changes nothing, and neither does tracking elsewhere. -/
theorem wanted_track {t' : Topic} {p' : Protocol} {keys : KeySet}
    (hkeys : t = t' → ∀ k ∈ keys, k ∈ g.wanted t) :
    Gateway.wanted { g with recorder := (g.recorder.track t' p' keys).1 } t = g.wanted t := by
  by_cases hidle : g.recorder.isRecording = false ∨ keys.isEmpty = true
  · rw [Recorder.track_of_not hidle]
  obtain ⟨hrec, hne⟩ : g.recorder.isRecording = true ∧ keys.isEmpty = false := by
    simpa using hidle
  by_cases ht : t = t'
  · subst ht
    apply SortedSet.ext
    intro k
    rw [mem_wanted]
    simp only [Recorder.get?_track hrec hne, if_true, Option.some.injEq, exists_eq_left',
      SortedSet.mem_union]
    constructor
    · rintro (hk | hk | hk)
      · exact mem_wanted.mpr (.inl hk)
      · cases hold : g.recorder.tracked.get? t with
        | none => simp [hold] at hk
        | some i => exact mem_wanted_of_tracked hold k (by simpa [hold] using hk)
      · exact hkeys rfl k hk
    · intro hk
      rcases mem_wanted.mp hk with hk | ⟨i, hi, hk⟩
      · exact .inl hk
      · exact .inr (.inl (by simpa [hi] using hk))
  · refine wanted_congr (fun _ _ => Iff.rfl) ?_
    simp only [Recorder.get?_track hrec hne, if_neg ht]

/-- Keys that the adapter of the topic accepted are wanted, and the adapter holds them. -/
theorem exact_accept (hg : g.WellRouted) (h : Sound closed g) {id : SessionId} {keys : KeySet}
    {b : Bus} {n : Nat} (hn : g.routes.get? ⟨t.server, p⟩ = some n)
    (hb : g.bus.restore id t (asked p keys) = .ok b)
    (htracking : ∀ i, g.recorder.tracked.get? t = some i → i.sensors.isEmpty = false)
    (hu : Undisturbed closed t p ({ g with bus := b }.reconcile t p).1) :
    ({ g with bus := b }.reconcile t p).1.Exact t p ∧
      ∀ k ∈ keys, k ∈ ({ g with bus := b }.reconcile t p).1.wanted t := by
  have hrouted : { g with bus := b }.WellRouted := hg.of_same rfl rfl
  have hsound := h.restore hb
  constructor
  · refine exact_reconcile hrouted hsound ?_ (isSome_pointingCall_of_tracking htracking) hu
    intro hnone
    have hroute : g.routes.get? ⟨t.server, p⟩ = none := hnone
    rw [hn] at hroute
    cases hroute
  · intro k hk
    have hne : keys.isEmpty = false := SortedSet.isEmpty_eq_false_iff.mpr ⟨k, hk⟩
    -- the session is not evicted while the adapter is asked, or the topic would be disturbed
    have hstays := (asks_iff_of_steady (steady_reconcile { g with bus := b } t p) hsound hu
      id ⟨p, keys⟩).mpr (asks_of_asked hb hne)
    exact mem_wanted_of_asks hstays k hk

theorem Settled.subscribe (h : Settled closed due t p g) (id : SessionId) (t' : Topic)
    (p' : Protocol) (keys : KeySet) (hkeep : t' = t → p' = p) :
    Settled closed due t p (g.subscribe id t' p' keys).1 := by
  have hserved : Served (Only t p) (g.subscribe id t' p' keys).1 := by
    apply h.served.subscribe id t' p' keys
    intro p'' ho
    exact (hkeep ho.1).trans ho.2.symm
  refine ⟨h.sound.subscribe id t' p' keys, hserved, ?_⟩
  intro hd hu
  rcases subscribe_cases g id t' p' keys with ⟨hsame, -⟩ | ⟨n, b, hn, hb, hcases⟩
  · rw [hsame] at hu ⊢
    exact h.exact hd hu
  have hrouted : { g with bus := b }.WellRouted := h.served.routed.of_same rfl rfl
  have hs := steady_reconcile { g with bus := b } t' p'
  have hsound := h.sound.restore hb
  -- while the adapter of another topic is pointed, nothing happens on this one
  have elsewhere (hne : t ≠ t')
      (hu : Undisturbed closed t p ({ g with bus := b }.reconcile t' p').1) :
      ({ g with bus := b }.reconcile t' p').1.Exact t p := by
    have hbefore := h.exact hd ((hu.of_steady hs).of_restore hb)
    exact (hbefore.restore hb hne).reconcile hrouted hsound (fun hc => hne hc.1.symm) hu
  rcases hcases with ⟨e, he, hback, -⟩ | ⟨hok, hnew, -⟩
  · -- the adapter refused; if it serves this topic, that disturbed it
    rw [hback] at hu ⊢
    have hpointed := hu.of_takeBack
    by_cases ht : t = t'
    · obtain rfl := ht
      obtain rfl := hkeep rfl
      rcases refused_of_reconcile hrouted (by rw [he]; rfl) with hnone | hr
      · exact absurd (hn.symm.trans hnone) (by simp)
      · exact absurd hr hpointed.accepted
    · exact (elsewhere ht hpointed).takeBack (hs.wellRouted hrouted) (hsound.steady hs) ht hu
  · -- the adapter accepted, and tracking the keys adds nothing to what is wanted
    rw [hnew] at hu ⊢
    have hpointed : Undisturbed closed t p ({ g with bus := b }.reconcile t' p').1 :=
      ⟨hu.accepted, hu.kept⟩
    by_cases ht : t = t'
    · obtain rfl := ht
      obtain rfl := hkeep rfl
      obtain ⟨hexact, hkeys⟩ := exact_accept h.served.routed h.sound hn hb
        (fun _ => h.served.tracking) hpointed
      exact hexact.congr rfl (wanted_track fun _ => hkeys)
    · exact (elsewhere ht hpointed).congr rfl (wanted_track fun heq => absurd heq ht)

theorem Settled.unsubscribe (h : Settled closed due t p g) (id : SessionId) (t' : Topic)
    (p' : Protocol) (hkeep : t' = t → p' = p) :
    Settled closed due t p (g.unsubscribe id t' p').1 := by
  rcases unsubscribe_cases g id t' p' with hsame | ⟨b, hb, hrec⟩
  · rw [hsame]; exact h
  rw [hrec]
  have hsound := h.sound.restore hb
  have hserved : Served (Only t p) { g with bus := b } := h.served.giveUp hb
  by_cases ht : t = t'
  · obtain rfl := ht
    obtain rfl := hkeep rfl
    exact settled_reconcile hsound hserved
  · have hgiven : Settled closed due t p { g with bus := b } :=
      ⟨hsound, hserved, fun hd hu => (h.exact hd (hu.of_restore hb)).restore hb ht⟩
    exact hgiven.reconcile t' p'

/-! ## Recordings -/

/-- A recording that starts tracks what sessions ask for, which was wanted before. -/
theorem Settled.startRecording (h : Settled closed due t p g) :
    Settled closed due t p g.startRecording.1 := by
  rcases startRecording_cases g with hsame | ⟨r, hr, hcalm⟩
  · rw [hsame]; exact h
  obtain ⟨hidle, -, htracked⟩ := Recorder.start?_eq_some hr
  have hwanted : Gateway.wanted { g with recorder := r } t = g.wanted t := by
    have hbefore : g.recorder.tracked.get? t = none := by rw [h.sound.idle hidle]; rfl
    apply SortedSet.ext
    intro k
    simp only [mem_wanted, htracked, hbefore]
    constructor
    · rintro (hk | ⟨i, hi, hk⟩)
      · exact .inl hk
      · exact .inl ((get?_activeInterests hi).1 ▸ hk)
    · rintro (hk | ⟨i, hi, -⟩)
      · exact .inl hk
      · cases hi
  have hstarted : Settled closed due t p { g with recorder := r } :=
    ⟨h.sound.start hr, h.served.start hr,
      fun hd hu => (h.exact hd ⟨hu.accepted, hu.kept⟩).congr rfl hwanted⟩
  exact hstarted.calm hcalm

/-- A recording that stops releases all topics that it tracked. -/
theorem Settled.stopRecording (h : Settled closed due t p g) :
    Settled closed due t p g.stopRecording.1 := by
  rcases stopRecording_cases g with hsame | ⟨r, tracked, hr, hcalm⟩
  · rw [hsame]; exact h
  obtain ⟨-, hempty, rfl⟩ := Recorder.stop?_eq_some hr
  have hsound : Sound closed { g with recorder := r } := h.sound.stop hr
  have hserved : Served (Only t p) { g with recorder := r } := h.served.stop hr
  refine Settled.calm ?_ hcalm
  -- a topic that was tracked is among those that are released, others are wanted as before
  cases htracked : g.recorder.tracked.get? t with
  | some i =>
    refine settled_releaseTopics hsound hserved (List.mem_map.mpr ⟨(t, i), ?_, ?_⟩)
    · exact SortedMap.mem_toList_iff.mpr htracked
    · rw [h.served.trackedFamily ⟨rfl, rfl⟩ htracked]
  | none =>
    have hstopped : Settled closed due t p { g with recorder := r } := by
      refine ⟨hsound, hserved, ?_⟩
      intro hd hu
      refine (h.exact hd ⟨hu.accepted, hu.kept⟩).congr rfl (wanted_congr (fun _ _ => Iff.rfl) ?_)
      rw [htracked, hempty]
      rfl
    exact hstopped.releaseTopics _

/-! ## Runs -/

/-- The books of a whole run, as far as they are about one topic. -/
structure Kept (t : Topic) (p : Protocol) (w : World) : Prop where
  settled : Settled w.closed ((t, p) ∈ w.pending) t p w.gateway
  family : ∀ {p'}, (t, p') ∈ w.pending → p' = p

theorem kept_start (h : Fresh g) : Kept t p (World.start g) := by
  have hexact : g.Exact t p := by
    show g.heldOn t p = g.demand t
    rw [demand, if_pos h.isEmpty_wanted, h.heldOn]
  exact ⟨⟨sound_fresh h, served_fresh h, fun _ _ => hexact⟩, fun hp => absurd hp List.not_mem_nil⟩

theorem Kept.step {w : World} (h : Kept t p w) {op : Op} (hop : w.Admits op)
    (hkeep : op.KeepsTo t p) : Kept t p (w.step op) := by
  by_cases hc : op.isCalm = true
  · have hpending := w.pendingAfter_of_calm hc
    have hclosed := w.closedAfter_of_calm hc
    refine ⟨?_, fun hp => h.family (hpending ▸ hp)⟩
    show Settled (w.closedAfter op) ((t, p) ∈ w.pendingAfter op) t p (op.act w.gateway)
    rw [hpending, hclosed]
    exact h.settled.calm (Op.calm_act hc w.gateway)
  cases op with
  | openSession id => exact ⟨h.settled.openSession hop, h.family⟩
  | closeSession id =>
    refine ⟨(h.settled.closeSession id).weaken ?_, ?_⟩
    · exact List.mem_append.mpr
    · intro p' hp
      rcases List.mem_append.mp hp with hp | hp
      · exact h.family hp
      · obtain ⟨i, ha, rfl⟩ := Bus.mem_topics_of_close hp
        exact h.settled.served.family ⟨rfl, rfl⟩ ha
  | cleanUp t' p' =>
    have hfamily {p''} (hp : (t, p'') ∈ w.pending.erase (t', p')) : p'' = p :=
      h.family (List.mem_of_mem_erase hp)
    by_cases heq : (t, p) = (t', p')
    · obtain ⟨rfl, rfl⟩ := Prod.mk.inj heq
      exact ⟨settled_reconcile h.settled.sound h.settled.served, hfamily⟩
    · have hdue : (t, p) ∈ w.pending → (t, p) ∈ w.pending.erase (t', p') :=
        (List.mem_erase_of_ne heq).mpr
      exact ⟨(h.settled.reconcile t' p').weaken hdue, hfamily⟩
  | subscribe id t' p' keys => exact ⟨h.settled.subscribe id t' p' keys hkeep, h.family⟩
  | unsubscribe id t' p' => exact ⟨h.settled.unsubscribe id t' p' hkeep, h.family⟩
  | releaseTopics topics => exact ⟨h.settled.releaseTopics topics, h.family⟩
  | startRecording => exact ⟨h.settled.startRecording, h.family⟩
  | stopRecording => exact ⟨h.settled.stopRecording, h.family⟩
  | _ => exact absurd rfl hc

theorem kept_run (r : Run) (keeps : ∀ op ∈ r.ops, op.KeepsTo t p) : Kept t p r.world :=
  r.induction (P := Kept t p) (fun _ hg => kept_start hg)
    (fun _ _ h hop hkeep => h.step hop hkeep) keeps

/-- **Adapters watch exactly what is needed.** Let a run ask for a topic under one family only.
If the adapter of that family never refused to be pointed at the topic, every session that
is gone and had an interest in it was closed, and what closed sessions left is released,
then the adapter holds the union of what sessions ask for and what the recorder tracks, and
is unsubscribed from the object exactly when that union is empty. -/
theorem adapters_watch_what_is_needed (r : Run) (t : Topic) (p : Protocol)
    (keeps : ∀ op ∈ r.ops, op.KeepsTo t p) (accepted : ¬ r.gateway.Refused t p)
    (kept : ∀ s ∈ r.gateway.bus.departed,
      (s.subscriptions.get? t).isSome → s.id ∈ r.world.closed)
    (released : ∀ p', (t, p') ∉ r.world.pending) :
    let needed := (r.gateway.bus.sensorsOn t).union
      ((r.gateway.recorder.sensorsOn? t).getD .empty)
    (r.gateway.heldOn t p).getD .empty = needed ∧
      (r.gateway.heldOn t p = none ↔ needed.isEmpty) ∧
      ∀ a, r.gateway.adapterOn? t p = some a → a.watched t.object = needed := by
  have hgone : r.gateway.bus.OnlyGone r.world.closed t := by
    intro e he hi
    obtain ⟨s, hs, rfl⟩ := List.mem_map.mp he
    exact kept s hs hi
  have hexact : r.gateway.heldOn t p = r.gateway.demand t :=
    (kept_run r keeps).settled.exact (released p) ⟨accepted, hgone⟩
  intro needed
  have hdemand : r.gateway.demand t = if needed.isEmpty then none else some needed := rfl
  have hheld : (r.gateway.heldOn t p).getD .empty = needed := by
    rw [hexact, hdemand]
    split
    · next he =>
      apply SortedSet.ext
      intro k
      simp [SortedSet.isEmpty_iff.mp he k]
    · rfl
  refine ⟨hheld, ?_, fun a ha => (r.faithful_gateway.watched ha).trans hheld⟩
  rw [hexact, hdemand]
  split <;> simp [*]

/-- The object of `departure`. -/
def pump : Topic := ⟨"plant", "pump"⟩

/-- Two sessions ask for a sensor each while everything is recorded; the first one leaves. -/
def departure : Run where
  config := {}
  clock := ⟨⟨0, 0⟩, 0⟩
  more := [⟨"plant", .scripted (.new .ionc { delay := fun _ _ => 0, refusal := fun _ _ => none }),
    fun _ => rfl⟩]
  ops := [.openSession ⟨1⟩, .startRecording, .subscribe ⟨1⟩ pump .ionc (.ofList [.name "speed"]),
    .openSession ⟨2⟩, .subscribe ⟨2⟩ pump .ionc (.ofList [.name "heat"]), .closeSession ⟨1⟩,
    .cleanUp pump .ionc]
  admissible := by decide

theorem departure_watched :
    departure.gateway.bus.sensorsOn pump = .ofList [.name "heat"] ∧
      departure.gateway.heldOn pump .ionc = some (.ofList [.name "heat", .name "speed"]) ∧
      (departure.gateway.heldOn pump .ionc).getD .empty =
        (departure.gateway.bus.sensorsOn pump).union
          ((departure.gateway.recorder.sensorsOn? pump).getD .empty) :=
  ⟨by decide, by decide, (adapters_watch_what_is_needed departure pump .ionc (by decide) (by decide)
    (by decide) (fun p' => by cases p' <;> decide)).1⟩

end SensorGateway.Gateway
