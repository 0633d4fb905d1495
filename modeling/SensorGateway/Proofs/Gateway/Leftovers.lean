/-
# SensorGateway.Proofs.Gateway.Leftovers -- what departed sessions leave behind

A session that is closed leaves its topics to be released, and an adapter that nobody needs
any more is unsubscribed. A session that is evicted leaves nothing to be released, not even
when it is closed afterwards: it is not registered then. So its sensors may stay watched
although nobody asks for them (`evicted_session_stays_watched`), until somebody gives the
topic up once more.

`only_evicted_sessions_leave_keys` says that this is all: whatever an adapter holds
on a topic and nobody needs was asked for by an evicted session. The invariant is
`Gateway.Accounted`; it holds right after an adapter was pointed at a topic, and evictions
keep it, since an evicted session goes on being listed with what it asked for.
-/
import SensorGateway.Proofs.Gateway.Exactness

namespace SensorGateway.Gateway

/-! ## Keys and who they are for -/

/-- A session that was evicted had asked for a sensor. Those that were closed while they were
registered are listed. -/
def LeftBehind (g : Gateway) (closed : List SessionId) (t : Topic) (k : SensorKey) : Prop :=
  ∃ e ∈ g.bus.goneTable, e.1 ∉ closed ∧ ∃ i, e.2.get? t = some i ∧ k ∈ i.sensors

/-- Somebody needs the sensor, or an evicted session did. -/
def Explained (g : Gateway) (closed : List SessionId) (t : Topic) (k : SensorKey) : Prop :=
  k ∈ g.wanted t ∨ g.LeftBehind closed t k

/-- Everything that is held on a topic is explained. -/
def Accounted (g : Gateway) (closed : List SessionId) (t : Topic) (p : Protocol) : Prop :=
  ∀ ks, g.heldOn t p = some ks → ks.isEmpty = false ∧ ∀ k ∈ ks, g.Explained closed t k

/-- Everything that is held on a topic is explained, unless the adapter has refused to be pointed
at it. -/
def Owned (g : Gateway) (closed : List SessionId) (t : Topic) (p : Protocol) : Prop :=
  g.Refused t p ∨ g.Accounted closed t p

variable {closed closed' : List SessionId} {t : Topic} {p : Protocol} {g g' : Gateway}

theorem Accounted.mono (h : g.Accounted closed t p) (hheld : g'.heldOn t p = g.heldOn t p)
    (hexplained : ∀ k, g.Explained closed t k → g'.Explained closed' t k) :
    g'.Accounted closed' t p := by
  intro ks hks
  obtain ⟨hne, hmem⟩ := h ks (hheld ▸ hks)
  exact ⟨hne, fun k hk => hexplained k (hmem k hk)⟩

theorem Owned.mono (h : g.Owned closed t p) (hcalls : g'.calls = g.calls)
    (hroutes : g'.routes = g.routes)
    (hexplained : ∀ k, g.Explained closed t k → g'.Explained closed' t k) :
    g'.Owned closed' t p := by
  rcases h with hr | ha
  · left
    unfold Refused
    rw [hcalls, hroutes]
    exact hr
  · right
    refine ha.mono ?_ hexplained
    unfold heldOn held
    rw [hcalls, hroutes]

/-- An evicted session is still listed with what it asked for. -/
theorem Explained.steady {k : SensorKey} (h : g.Explained closed t k) (hs : Steady g g')
    (hsound : Sound closed g) : g'.Explained closed t k := by
  obtain ⟨gone, hgone, hperm⟩ := hs.bus
  rcases h with hwanted | ⟨e, he, hnot, hasked⟩
  · rcases mem_wanted.mp hwanted with hk | ⟨i, hi, hk⟩
    · obtain ⟨id, i, ⟨m, hm, hi⟩, hk⟩ := Bus.mem_sensorsOn.mp hk
      rcases List.mem_append.mp (hperm.mem_iff.mp hm) with hstays | hleaves
      · exact .inl (mem_wanted_of_asks ⟨m, hstays, hi⟩ k hk)
      · -- the session was registered, so it had not been closed
        have hopen : id ∉ closed := fun hid => hsound.distinct.not_gone hm (hsound.gone id hid)
        exact .inr ⟨(id, m), hgone ▸ List.mem_append_right _ hleaves, hopen, i, hi, hk⟩
    · exact .inl (mem_wanted_of_tracked (hs.tracked ▸ hi) k hk)
  · exact .inr ⟨e, hgone ▸ List.mem_append_left _ he, hnot, hasked⟩

theorem Owned.steady (h : g.Owned closed t p) (hs : Steady g g') (hsound : Sound closed g)
    (hheld : g'.heldOn t p = g.heldOn t p) : g'.Owned closed t p := by
  rcases h with hr | ha
  · exact .inl (hr.of_steady hs)
  · exact .inr (ha.mono hheld fun _ hk => hk.steady hs hsound)

/-! ## Pointing adapters -/

/-- Once an adapter was pointed at a topic, everything that it holds there is explained. -/
theorem owned_reconcile (h : Ready closed t g) (p : Protocol) :
    (g.reconcile t p).1.Owned closed t p := by
  have hs := steady_reconcile g t p
  cases hok : (g.reconcile t p).2.isOk with
  | true =>
    have hheld := heldOn_reconcile_of_ok h.routed hok (isSome_pointingCall_of_tracking h.tracking)
    right
    intro ks hks
    rw [hheld, demand] at hks
    split at hks
    · cases hks
    · next hne =>
      obtain rfl := Option.some.inj hks
      exact ⟨by simpa using hne, fun k hk => Explained.steady (.inl hk) hs h.sound⟩
  | false =>
    rcases refused_of_reconcile h.routed hok with hnone | hr
    · right
      intro ks hks
      rw [heldOn, hs.routes, hnone] at hks
      cases hks
    · exact .inl hr

theorem Owned.reconcile (h : g.Owned closed t p) (hready : Ready closed t g) (t' : Topic)
    (p' : Protocol) : (g.reconcile t' p').1.Owned closed t p := by
  by_cases heq : t' = t ∧ p' = p
  · obtain ⟨rfl, rfl⟩ := heq
    exact owned_reconcile hready p'
  · refine h.steady (steady_reconcile g t' p') hready.sound ?_
    rw [heldOn_reconcile hready.routed, if_neg]
    rintro ⟨rfl, rfl, -⟩
    exact heq ⟨rfl, rfl⟩

/-- Asking for something else, and pointing the adapter then. -/
theorem Owned.askAnew (h : g.Owned closed t p) (hready : Ready closed t g) {id : SessionId}
    {t' : Topic} {p' : Protocol} (hkeep : t' = t → p' = p) {o : Option Interest} {b : Bus}
    (hb : g.bus.restore id t' o = .ok b) :
    ({ g with bus := b }.reconcile t' p').1.Owned closed t p := by
  have hasked : Ready closed t { g with bus := b } := hready.restore hb
  by_cases ht : t' = t
  · obtain rfl := ht
    obtain rfl := hkeep rfl
    exact owned_reconcile hasked p'
  · -- on another topic nobody asks for anything else
    have hwanted : Gateway.wanted { g with bus := b } t = g.wanted t := by
      refine wanted_congr ?_ rfl
      intro id' i
      rw [Bus.asks_restore hb, if_neg fun hc => ht hc.2.symm]
    have hother : Owned { g with bus := b } closed t p := by
      refine h.mono rfl rfl ?_
      rintro k (hk | ⟨e, he, hleft⟩)
      · exact .inl (hwanted.symm ▸ hk)
      · have hgone : b.goneTable = g.bus.goneTable := (Bus.ids_restore hb).2
        exact .inr ⟨e, hgone.symm ▸ he, hleft⟩
    exact hother.reconcile hasked t' p'

theorem Owned.releaseTopics (h : g.Owned closed t p) (hready : Ready closed t g)
    (topics : List (Topic × Protocol)) : (g.releaseTopics topics).Owned closed t p := by
  have hboth : Ready closed t (g.releaseTopics topics) ∧
      (g.releaseTopics topics).Owned closed t p :=
    releaseTopics_induction (P := fun g => Ready closed t g ∧ g.Owned closed t p)
      (fun _ t' p' hg => ⟨hg.1.reconcile t' p', hg.2.reconcile hg.1 t' p'⟩) ⟨hready, h⟩ topics
  exact hboth.2

/-- Releasing several topics explains each of them. -/
theorem owned_releaseTopics (hready : Ready closed t g) {topics : List (Topic × Protocol)}
    (hmem : (t, p) ∈ topics) : (g.releaseTopics topics).Owned closed t p := by
  obtain ⟨before, after, rfl⟩ := List.append_of_mem hmem
  have hbefore : Ready closed t (g.releaseTopics before) :=
    releaseTopics_induction (fun _ t' p' hg => hg.reconcile t' p') hready before
  rw [releaseTopics_append_cons]
  exact (owned_reconcile hbefore p).releaseTopics (hbefore.reconcile t p) after

/-! ## Operations -/

/-- Tracking more sensors takes no explanation away. -/
theorem Explained.track {k : SensorKey} (h : g.Explained closed t k) (t' : Topic) (p' : Protocol)
    (keys : KeySet) :
    Explained { g with recorder := (g.recorder.track t' p' keys).1 } closed t k := by
  by_cases hidle : g.recorder.isRecording = false ∨ keys.isEmpty = true
  · rw [Recorder.track_of_not hidle]
    exact h
  obtain ⟨hrec, hne⟩ : g.recorder.isRecording = true ∧ keys.isEmpty = false := by
    simpa using hidle
  rcases h with hwanted | hleft
  · left
    apply mem_wanted.mpr
    rcases mem_wanted.mp hwanted with hasked | ⟨i, hi, hk⟩
    · exact .inl hasked
    · right
      simp only [Recorder.get?_track hrec hne]
      by_cases ht : t = t'
      · subst ht
        rw [if_pos rfl, hi]
        exact ⟨_, rfl, SortedSet.mem_union.mpr (.inl hk)⟩
      · rw [if_neg ht]
        exact ⟨i, hi, hk⟩
  · exact .inr hleft

theorem Owned.subscribe (h : g.Owned closed t p) (hready : Ready closed t g) (id : SessionId)
    (t' : Topic) (p' : Protocol) (keys : KeySet) (hkeep : t' = t → p' = p) :
    (g.subscribe id t' p' keys).1.Owned closed t p := by
  rcases subscribe_cases g id t' p' keys with ⟨hsame, -⟩ | ⟨n, b, -, hb, hcases⟩
  · rw [hsame]
    exact h
  have hpointed := h.askAnew hready hkeep hb
  rcases hcases with ⟨e, -, hback, -⟩ | ⟨-, hnew, -⟩
  · rw [hback]
    rcases takeBack_cases ({ g with bus := b }.reconcile t' p').1 id t' p'
        (g.bus.subscription? id t') e with ⟨-, hsame⟩ | ⟨b', hb', hrec⟩
    · rw [hsame]
      exact hpointed
    · rw [hrec]
      exact hpointed.askAnew ((hready.restore hb).reconcile t' p') hkeep hb'
  · rw [hnew]
    exact hpointed.mono rfl rfl fun _ hk => hk.track t' p' keys

theorem Owned.unsubscribe (h : g.Owned closed t p) (hready : Ready closed t g) (id : SessionId)
    (t' : Topic) (p' : Protocol) (hkeep : t' = t → p' = p) :
    (g.unsubscribe id t' p').1.Owned closed t p := by
  rcases unsubscribe_cases g id t' p' with hsame | ⟨b, hb, hrec⟩
  · rw [hsame]
    exact h
  · rw [hrec]
    exact h.askAnew hready hkeep hb

/-- A new session asks for nothing. -/
theorem Owned.openSession (h : g.Owned closed t p) {id : SessionId} (hnew : id ∉ g.bus.ids) :
    (g.openSession id).1.Owned closed t p := by
  have hwanted : (g.openSession id).1.wanted t = g.wanted t := wanted_openSession hnew
  refine h.mono rfl rfl ?_
  rintro k (hk | hleft)
  · exact .inl (hwanted.symm ▸ hk)
  · exact .inr hleft

/-- A closed session is not evicted: its topics are due. -/
theorem Owned.closeSession (h : g.Owned closed t p) (hready : Ready closed t g) {id : SessionId}
    (hdue : ∀ i, ¬ g.bus.Asks id t i) :
    (g.closeSession id).1.Owned (g.closing closed id) t p := by
  have hwanted : (g.closeSession id).1.wanted t = g.wanted t := wanted_closeSession hdue
  refine h.mono rfl rfl ?_
  rintro k (hk | ⟨e, he, hopen, hasked⟩)
  · exact .inl (hwanted.symm ▸ hk)
  · right
    obtain ⟨gone, hgone, -⟩ := (steady_closeSession hready.sound id).bus
    refine ⟨e, hgone ▸ List.mem_append_left _ he, ?_, hasked⟩
    exact fun hclosed => hopen (hready.sound.mem_of_mem_closing he hclosed)

/-- What nobody tracked is explained without the recorder. -/
theorem Explained.untracked {k : SensorKey} (h : g.Explained closed t k)
    (hnone : g.recorder.tracked.get? t = none) (r : Recorder) :
    Explained { g with recorder := r } closed t k := by
  rcases h with hwanted | hleft
  · left
    rcases mem_wanted.mp hwanted with hasked | ⟨i, hi, -⟩
    · exact mem_wanted.mpr (.inl hasked)
    · rw [hnone] at hi
      cases hi
  · exact .inr hleft

theorem Owned.startRecording (h : g.Owned closed t p) (hready : Ready closed t g) :
    g.startRecording.1.Owned closed t p := by
  rcases startRecording_cases g with hsame | ⟨r, hr, hcalm⟩
  · rw [hsame]
    exact h
  have hnone : g.recorder.tracked.get? t = none := by
    rw [hready.sound.idle (Recorder.start?_eq_some hr).1]
    rfl
  have hstarted : Owned { g with recorder := r } closed t p :=
    h.mono rfl rfl fun _ hk => hk.untracked hnone r
  exact hstarted.steady hcalm.toSteady (hready.sound.start hr) (hcalm.heldOn t p)

theorem Owned.stopRecording (h : g.Owned closed t p) (hready : Ready closed t g)
    (hfamily : ∀ i, g.recorder.tracked.get? t = some i → i.protocol = p) :
    g.stopRecording.1.Owned closed t p := by
  rcases stopRecording_cases g with hsame | ⟨r, tracked, hr, hcalm⟩
  · rw [hsame]
    exact h
  obtain ⟨-, hempty, rfl⟩ := Recorder.stop?_eq_some hr
  have hstopped : Ready closed t { g with recorder := r } := by
    refine ⟨hready.routed.of_same rfl rfl, hready.sound.stop hr, ?_⟩
    intro i hi
    have hnone : r.tracked.get? t = none := by rw [hempty]; rfl
    rw [hnone] at hi
    cases hi
  let topics := g.recorder.tracked.toList.map fun e : Topic × Interest => (e.1, e.2.protocol)
  have hreleased : (Gateway.releaseTopics { g with recorder := r } topics).Owned closed t p := by
    -- a topic that was tracked is among those that are released
    cases htracked : g.recorder.tracked.get? t with
    | some i =>
      refine owned_releaseTopics hstopped (List.mem_map.mpr ⟨(t, i), ?_, ?_⟩)
      · exact SortedMap.mem_toList_iff.mpr htracked
      · rw [hfamily i htracked]
    | none =>
      have hidle : Owned { g with recorder := r } closed t p :=
        h.mono rfl rfl fun _ hk => hk.untracked htracked r
      exact hidle.releaseTopics hstopped topics
  exact hreleased.steady hcalm.toSteady (hstopped.sound.releaseTopics topics) (hcalm.heldOn t p)

/-! ## Runs -/

/-- What is held on a topic that is not due is explained. -/
def Kempt (t : Topic) (p : Protocol) (w : World) : Prop :=
  (t, p) ∈ w.pending ∨ w.gateway.Owned w.closed t p

theorem kempt_start (h : Fresh g) : Kempt t p (World.start g) := by
  right
  right
  intro ks hks
  rw [show (World.start g).gateway = g from rfl, h.heldOn] at hks
  cases hks

theorem Kept.ready {w : World} (h : Kept t p w) : Ready w.closed t w.gateway :=
  ⟨h.settled.served.routed, h.settled.sound, fun _ => h.settled.served.tracking⟩

theorem Kempt.step {w : World} (h : Kempt t p w) (hkept : Kept t p w) {op : Op}
    (hop : w.Admits op) (hkeep : op.KeepsTo t p) : Kempt t p (w.step op) := by
  have hready := hkept.ready
  -- most operations leave what is due as it is, and explain what was explained before
  have undue (hpending : w.pendingAfter op = w.pending)
      (howned : w.gateway.Owned w.closed t p → (op.act w.gateway).Owned (w.closedAfter op) t p) :
      Kempt t p (w.step op) := by
    rcases h with hdue | ho
    · exact .inl (hpending.symm ▸ hdue : (t, p) ∈ w.pendingAfter op)
    · exact .inr (howned ho)
  by_cases hc : op.isCalm = true
  · have hcalm := Op.calm_act hc w.gateway
    refine undue (w.pendingAfter_of_calm hc) fun ho => ?_
    rw [w.closedAfter_of_calm hc]
    exact ho.steady hcalm.toSteady hready.sound (hcalm.heldOn t p)
  cases op with
  | openSession id => exact undue rfl fun ho => ho.openSession hop
  | closeSession id =>
    by_cases hasks : ∃ i, w.gateway.bus.Asks id t i
    · obtain ⟨i, ha⟩ := hasks
      have hleft := Bus.mem_topics_of_asks hready.sound.distinct ha
      rw [hkept.settled.served.family ⟨rfl, rfl⟩ ha] at hleft
      exact .inl (List.mem_append_right _ hleft)
    · rcases h with hdue | ho
      · exact .inl (List.mem_append_left _ hdue)
      · exact .inr (ho.closeSession hready fun i ha => hasks ⟨i, ha⟩)
  | cleanUp t' p' =>
    by_cases heq : (t, p) = (t', p')
    · obtain ⟨rfl, rfl⟩ := Prod.mk.inj heq
      exact .inr (owned_reconcile hready p)
    · rcases h with hdue | ho
      · exact .inl ((List.mem_erase_of_ne heq).mpr hdue)
      · exact .inr (ho.reconcile hready t' p')
  | subscribe id t' p' keys =>
    exact undue rfl fun ho => ho.subscribe hready id t' p' keys hkeep
  | unsubscribe id t' p' => exact undue rfl fun ho => ho.unsubscribe hready id t' p' hkeep
  | releaseTopics topics => exact undue rfl fun ho => ho.releaseTopics hready topics
  | startRecording => exact undue rfl fun ho => ho.startRecording hready
  | stopRecording =>
    exact undue rfl fun ho => ho.stopRecording hready fun _ hi =>
      hkept.settled.served.trackedFamily ⟨rfl, rfl⟩ hi
  | _ => exact absurd rfl hc

theorem kempt_run (r : Run) (keeps : ∀ op ∈ r.ops, op.KeepsTo t p) : Kempt t p r.world := by
  have hboth : Kept t p r.world ∧ Kempt t p r.world :=
    r.induction (P := fun w => Kept t p w ∧ Kempt t p w)
      (fun _ hg => ⟨kept_start hg, kempt_start hg⟩)
      (fun _ _ h hop hkeep => ⟨h.1.step hop hkeep, h.2.step h.1 hop hkeep⟩) keeps
  exact hboth.2

/-- Nothing is wanted where no session asks and nothing is tracked. -/
theorem isEmpty_wanted_of_unneeded (hasks : ∀ s ∈ g.bus.sessions, s.subscriptions.get? t = none)
    (htracked : g.recorder.isTracking t = false) : (g.wanted t).isEmpty := by
  apply SortedSet.isEmpty_iff.mpr
  intro k hk
  rcases mem_wanted.mp hk with hk | ⟨i, hi, -⟩
  · obtain ⟨id, i, ha, -⟩ := Bus.mem_sensorsOn.mp hk
    obtain ⟨s, hs, -, hi⟩ := Bus.asks_iff.mp ha
    rw [hasks s hs] at hi
    cases hi
  · rw [Recorder.isTracking, SortedMap.contains, hi] at htracked
    cases htracked

/-- A topic that nobody needs is given up when it is released, unless the adapter refuses. -/
theorem heldOn_reconcile_unneeded (hready : Ready closed t g) (hempty : (g.wanted t).isEmpty)
    (haccepted : ¬ (g.reconcile t p).1.Refused t p) : (g.reconcile t p).1.heldOn t p = none := by
  cases hok : (g.reconcile t p).2.isOk with
  | true =>
    have hcall := isSome_pointingCall_of_tracking hready.tracking
    rw [heldOn_reconcile_of_ok hready.routed hok hcall, demand, if_pos hempty]
  | false =>
    rcases refused_of_reconcile hready.routed hok with hnone | hr
    · rw [heldOn, (steady_reconcile g t p).routes, hnone]
      rfl
    · exact absurd hr haccepted

/-- Closing a session that is not registered does nothing, so the topics of an evicted session are
not released. -/
theorem closeSession_of_not_registered {id : SessionId} (h : g.bus.isRegistered id = false) :
    g.closeSession id = (g, []) := by
  have hnone : g.bus.find? id = none :=
    Option.isNone_iff_eq_none.mp (Option.isSome_eq_false_iff.mp h)
  unfold closeSession Bus.close
  rw [hnone]

/-- **Only evicted sessions leave keys behind.** Let a run ask for a topic under one family only,
let the adapter of that family never have refused to be pointed at it, and let everything
be released that closed sessions have left. If nobody needs the topic any more, then whatever
the adapter still holds there was asked for by sessions that were evicted; it holds nothing
if all sessions that asked for something there were closed. Closing an evicted session
changes nothing. One more release makes the adapter give up the topic. -/
theorem only_evicted_sessions_leave_keys (r : Run) (t : Topic) (p : Protocol)
    (keeps : ∀ op ∈ r.ops, op.KeepsTo t p) (accepted : ¬ r.gateway.Refused t p)
    (released : (t, p) ∉ r.world.pending)
    (unasked : ∀ s ∈ r.gateway.bus.sessions, s.subscriptions.get? t = none)
    (untracked : r.gateway.recorder.isTracking t = false) :
    let again := r.gateway.releaseTopics [(t, p)]
    (∀ keys, r.gateway.heldOn t p = some keys → keys.isEmpty = false ∧
      ∀ k ∈ keys, ∃ s ∈ r.gateway.bus.departed, s.id ∉ r.world.closed ∧ k ∈ s.sensorsOn t) ∧
    ((∀ s ∈ r.gateway.bus.departed, (s.subscriptions.get? t).isSome → s.id ∈ r.world.closed) →
      r.gateway.heldOn t p = none) ∧
    (∀ id, r.gateway.bus.isRegistered id = false →
      r.gateway.closeSession id = (r.gateway, [])) ∧
    (¬ again.Refused t p → again.heldOn t p = none ∧
      ∀ a, again.adapterOn? t p = some a → a.watched t.object = .empty) := by
  intro again
  have hready : Ready r.world.closed t r.gateway := (kept_run r keeps).ready
  have hempty := isEmpty_wanted_of_unneeded unasked untracked
  have hleft : ∀ keys, r.gateway.heldOn t p = some keys → keys.isEmpty = false ∧
      ∀ k ∈ keys, ∃ s ∈ r.gateway.bus.departed, s.id ∉ r.world.closed ∧ k ∈ s.sensorsOn t := by
    intro keys hkeys
    rcases kempt_run r keeps with hdue | hr | ha
    · exact absurd hdue released
    · exact absurd hr accepted
    obtain ⟨hne, hmem⟩ := ha keys hkeys
    refine ⟨hne, fun k hk => ?_⟩
    rcases hmem k hk with hwanted | ⟨e, he, hopen, hasked⟩
    · exact absurd hwanted (SortedSet.isEmpty_iff.mp hempty k)
    · obtain ⟨s, hs, rfl⟩ := List.mem_map.mp he
      exact ⟨s, hs, hopen, Bus.mem_session_sensorsOn.mpr hasked⟩
  refine ⟨hleft, ?_, fun id hid => closeSession_of_not_registered hid, ?_⟩
  · intro hclosed
    cases hheld : r.gateway.heldOn t p with
    | none => rfl
    | some keys =>
      -- some key is held, and whoever asked for it would have been closed
      obtain ⟨hne, hmem⟩ := hleft keys hheld
      obtain ⟨k, hk⟩ := SortedSet.isEmpty_eq_false_iff.mp hne
      obtain ⟨s, hs, hopen, hasked⟩ := hmem k hk
      obtain ⟨i, hi, -⟩ := Bus.mem_session_sensorsOn.mp hasked
      exact absurd (hclosed s hs (by rw [hi]; rfl)) hopen
  · intro haccepted
    have hnone : again.heldOn t p = none := heldOn_reconcile_unneeded hready hempty haccepted
    have hfaithful : again.Faithful := faithful_releaseTopics r.faithful_gateway [(t, p)]
    refine ⟨hnone, fun a ha => ?_⟩
    rw [hfaithful.watched ha, hnone]
    rfl

/-- The object of `stall`. -/
def valve : Topic := ⟨"plant", "valve"⟩

/-- A browser with room for one event stalls: the second event finds its channel full, and the
session is evicted. Then the stream ends, and the session is closed. -/
def stall : Run where
  config := { sessions := { channelCapacity := 1 } }
  clock := ⟨⟨0, 0⟩, 0⟩
  more := [⟨"plant", .scripted (.new .opcua { delay := fun _ _ => 0, refusal := fun _ _ => none }),
    fun _ => rfl⟩]
  ops := [.openSession ⟨1⟩, .subscribe ⟨1⟩ valve .opcua (.ofList [.name "angle"]),
    .releaseControl, .releaseControl, .closeSession ⟨1⟩]
  admissible := by decide

/-- The sensor that the adapter still watches was asked for by the evicted session. -/
theorem stall_leftovers :
    (∀ op ∈ stall.ops, op.KeepsTo valve .opcua) ∧ ¬ stall.gateway.Refused valve .opcua ∧
      ∃ s ∈ stall.gateway.bus.departed, s.id ∉ stall.world.closed ∧
        .name "angle" ∈ s.sensorsOn valve := by
  refine ⟨by decide, by decide, ?_⟩
  have hleft := only_evicted_sessions_leave_keys stall valve .opcua (by decide) (by decide)
    (by decide) (by decide) (by decide)
  exact (hleft.1 (.ofList [.name "angle"]) (by decide)).2 _ (by decide)

/-- Eviction and closing do not unsubscribe the adapter: no session is there, none is recorded, no
release is due, and nothing was refused, but the sensor is still watched. -/
theorem evicted_session_stays_watched :
    stall.gateway.bus.sessions = [] ∧ stall.gateway.bus.departed.map (·.id) = [⟨1⟩] ∧
      stall.ops.getLast? = some (.closeSession ⟨1⟩) ∧ stall.world.pending = [] ∧
      stall.gateway.recorder.isTracking valve = false ∧
      stall.gateway.calls.map (·.result.isOk) = [true] ∧
      stall.gateway.heldOn valve .opcua = some (.ofList [.name "angle"]) := by
  refine ⟨by decide, by decide, rfl, by decide, by decide, by decide, by decide⟩

end SensorGateway.Gateway
