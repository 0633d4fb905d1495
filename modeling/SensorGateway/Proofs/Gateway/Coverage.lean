/-
# SensorGateway.Proofs.Gateway.Coverage -- nobody starves

Whatever happens to a gateway, adapters that refuse included, the keys of every
subscription are among those that the adapter of its family accepted last. On a topic
that is asked for under one family only, so are the sensors that the recorder tracks.

The invariant is `Gateway.Served`. Its point is that an adapter is only ever pointed at
everything that is wanted on a topic, so it may lose keys only where nobody needs them,
and that a subscription stays only if the adapter accepted it.
-/
import SensorGateway.Proofs.Gateway.Interest
import SensorGateway.Proofs.Gateway.Run

namespace SensorGateway.Gateway

/-- The adapter of a topic's family is subscribed to its object, with these keys at least. -/
def Watches (g : Gateway) (t : Topic) (p : Protocol) (keys : KeySet) : Prop :=
  ∃ ks, g.heldOn t p = some ks ∧ ∀ k ∈ keys, k ∈ ks

theorem Watches.congr {g g' : Gateway} {t : Topic} {p : Protocol} {keys : KeySet}
    (h : g.Watches t p keys) (hheld : g'.heldOn t p = g.heldOn t p) : g'.Watches t p keys := by
  obtain ⟨ks, hks, hmem⟩ := h
  exact ⟨ks, hheld.trans hks, hmem⟩

/-! ## What is wanted -/

theorem mem_wanted {g : Gateway} {t : Topic} {k : SensorKey} :
    k ∈ g.wanted t ↔
      k ∈ g.bus.sensorsOn t ∨ ∃ i, g.recorder.tracked.get? t = some i ∧ k ∈ i.sensors := by
  unfold wanted Recorder.sensorsOn?
  rw [SortedSet.mem_union]
  cases g.recorder.tracked.get? t with
  | none => simp
  | some i => simp

theorem mem_wanted_of_asks {g : Gateway} {id : SessionId} {t : Topic} {i : Interest}
    (h : g.bus.Asks id t i) : ∀ k ∈ i.sensors, k ∈ g.wanted t :=
  fun _ hk => mem_wanted.mpr (Or.inl (Bus.mem_sensorsOn.mpr ⟨id, i, h, hk⟩))

theorem mem_wanted_of_tracked {g : Gateway} {t : Topic} {i : Interest}
    (h : g.recorder.tracked.get? t = some i) : ∀ k ∈ i.sensors, k ∈ g.wanted t :=
  fun _ hk => mem_wanted.mpr (Or.inr ⟨i, h, hk⟩)

theorem Fresh.isEmpty_wanted {g : Gateway} (h : Fresh g) {t : Topic} : (g.wanted t).isEmpty := by
  apply SortedSet.isEmpty_iff.mpr
  intro k hk
  rcases mem_wanted.mp hk with hk | ⟨i, hi, -⟩
  · obtain ⟨id, i, ha, -⟩ := Bus.mem_sensorsOn.mp hk
    exact h.not_asks ha
  · exact h.not_tracked hi

theorem isEmpty_wanted_of_mem {g : Gateway} {t : Topic} {keys : KeySet}
    (hne : keys.isEmpty = false) (hk : ∀ k ∈ keys, k ∈ g.wanted t) :
    (g.wanted t).isEmpty = false := by
  obtain ⟨k, hmem⟩ := SortedSet.isEmpty_eq_false_iff.mp hne
  exact SortedSet.isEmpty_eq_false_iff.mpr ⟨k, hk k hmem⟩

theorem isSome_pointingCall {g : Gateway} {t : Topic} (h : (g.wanted t).isEmpty = false) :
    (g.pointingCall t).isSome := by
  simp [pointingCall, h]

/-- Pointing an adapter at a topic does not take away keys that are wanted there; if the adapter
accepts, it gets those that it lacked. -/
theorem watches_reconcile {g : Gateway} (hg : g.WellRouted) (t : Topic) (p : Protocol)
    {t' : Topic} {p' : Protocol} {keys : KeySet} (hne : keys.isEmpty = false)
    (hk : ∀ k ∈ keys, k ∈ g.wanted t')
    (h : g.Watches t' p' keys ∨ (t' = t ∧ p' = p ∧ (g.reconcile t p).2.isOk)) :
    (g.reconcile t p).1.Watches t' p' keys := by
  have hwanted : (g.wanted t').isEmpty = false := isEmpty_wanted_of_mem hne hk
  have hdemand : g.demand t' = some (g.wanted t') := by simp [demand, hwanted]
  rcases heldOn_reconcile_or hg t t' p p' with hsame | ⟨rfl, rfl, hheld⟩
  · rcases h with h | ⟨rfl, rfl, hok⟩
    · exact h.congr hsame
    · exact ⟨_, (heldOn_reconcile_of_ok hg hok (isSome_pointingCall hwanted)).trans hdemand, hk⟩
  · exact ⟨_, hheld.trans hdemand, hk⟩

/-! ## The invariant -/

/-- Everybody who needs values gets them. Topics that are asked for `only` under one family are
told apart, since the recorder knows one family for each topic. -/
structure Served (only : Topic → Protocol → Prop) (g : Gateway) : Prop where
  routed : g.WellRouted
  /-- Nobody asks for nothing. -/
  asking : ∀ {id t i}, g.bus.Asks id t i → i.sensors.isEmpty = false
  covered : ∀ {id t i}, g.bus.Asks id t i → g.Watches t i.protocol i.sensors
  /-- No topic is tracked without sensors. -/
  tracking : ∀ {t i}, g.recorder.tracked.get? t = some i → i.sensors.isEmpty = false
  family : ∀ {t p id i}, only t p → g.bus.Asks id t i → i.protocol = p
  trackedFamily : ∀ {t p i}, only t p → g.recorder.tracked.get? t = some i → i.protocol = p
  trackedCovered : ∀ {t p i}, only t p → g.recorder.tracked.get? t = some i →
    g.Watches t p i.sensors

/-- Only one topic is told apart, with one family. -/
def Only (t : Topic) (p : Protocol) (t' : Topic) (p' : Protocol) : Prop := t' = t ∧ p' = p

variable {only : Topic → Protocol → Prop}

/-- Nobody starves when interests only go away and adapters hold what they held. -/
theorem Served.shrink {g g' : Gateway} (h : Served only g) (hg : g'.WellRouted)
    (hasks : ∀ {id t i}, g'.bus.Asks id t i → g.bus.Asks id t i)
    (htracked : ∀ {t i}, g'.recorder.tracked.get? t = some i → g.recorder.tracked.get? t = some i)
    (hheld : ∀ t p, g'.heldOn t p = g.heldOn t p) : Served only g' where
  routed := hg
  asking ha := h.asking (hasks ha)
  covered ha := (h.covered (hasks ha)).congr (hheld _ _)
  tracking ht := h.tracking (htracked ht)
  family ho ha := h.family ho (hasks ha)
  trackedFamily ho ht := h.trackedFamily ho (htracked ht)
  trackedCovered ho ht := (h.trackedCovered ho (htracked ht)).congr (hheld _ _)

theorem Served.calm {g g' : Gateway} (h : Served only g) (hc : Calm g g') : Served only g' :=
  h.shrink (hc.wellRouted h.routed) (Bus.asks_of_thins hc.bus)
    (fun ht => hc.tracked ▸ ht) hc.heldOn

theorem served_fresh {g : Gateway} (h : Fresh g) : Served only g :=
  ⟨h.routed, fun ha => absurd ha h.not_asks, fun ha => absurd ha h.not_asks,
    fun ht => absurd ht h.not_tracked, fun _ ha => absurd ha h.not_asks,
    fun _ ht => absurd ht h.not_tracked, fun _ ht => absurd ht h.not_tracked⟩

/-! ## Pointing adapters -/

theorem Served.reconcile {g : Gateway} (h : Served only g) (t : Topic) (p : Protocol) :
    Served only (g.reconcile t p).1 := by
  have hs := steady_reconcile g t p
  have hasks : ∀ {id t' i}, (g.reconcile t p).1.bus.Asks id t' i → g.bus.Asks id t' i :=
    Bus.asks_of_thins hs.bus
  have htracked : ∀ {t' i}, (g.reconcile t p).1.recorder.tracked.get? t' = some i →
      g.recorder.tracked.get? t' = some i := fun ht => hs.tracked ▸ ht
  constructor
  case routed => exact hs.wellRouted h.routed
  case asking =>
    intro id t' i ha
    exact h.asking (hasks ha)
  case covered =>
    intro id t' i ha
    exact watches_reconcile h.routed t p (h.asking (hasks ha)) (mem_wanted_of_asks (hasks ha))
      (Or.inl (h.covered (hasks ha)))
  case tracking =>
    intro t' i ht
    exact h.tracking (htracked ht)
  case family =>
    intro t' p' id i ho ha
    exact h.family ho (hasks ha)
  case trackedFamily =>
    intro t' p' i ho ht
    exact h.trackedFamily ho (htracked ht)
  case trackedCovered =>
    intro t' p' i ho ht
    exact watches_reconcile h.routed t p (h.tracking (htracked ht))
      (mem_wanted_of_tracked (htracked ht)) (Or.inl (h.trackedCovered ho (htracked ht)))

theorem Served.releaseTopics {g : Gateway} (h : Served only g)
    (topics : List (Topic × Protocol)) : Served only (g.releaseTopics topics) :=
  releaseTopics_induction (fun _ t p hg => hg.reconcile t p) h topics

/-! ## Asking and giving up -/

/-- Changes of the bus alone by which sessions give something up. -/
theorem Served.withBus {g : Gateway} (h : Served only g) {b : Bus}
    (hasks : ∀ {id t i}, b.Asks id t i → g.bus.Asks id t i) :
    Served only { g with bus := b } :=
  h.shrink (h.routed.of_same rfl rfl) hasks id fun _ _ => rfl

theorem Served.openSession {g : Gateway} (h : Served only g) (id : SessionId) :
    Served only (g.openSession id).1 :=
  h.withBus fun ha => (Bus.asks_register.mp ha).2

theorem Served.closeSession {g : Gateway} (h : Served only g) (id : SessionId) :
    Served only (g.closeSession id).1 :=
  h.withBus fun ha => (Bus.asks_close.mp ha).2

theorem Served.giveUp {g : Gateway} (h : Served only g) {id : SessionId} {t : Topic} {b : Bus}
    (hb : g.bus.restore id t none = .ok b) : Served only { g with bus := b } := by
  apply h.withBus
  intro id' t' i ha
  rw [Bus.asks_restore hb] at ha
  split at ha
  · cases ha
  · exact ha

theorem Served.unsubscribe {g : Gateway} (h : Served only g) (id : SessionId) (t : Topic)
    (p : Protocol) : Served only (g.unsubscribe id t p).1 := by
  rcases unsubscribe_cases g id t p with hsame | ⟨b, hb, hrec⟩
  · rw [hsame]; exact h
  · rw [hrec]; exact (h.giveUp hb).reconcile t p

/-- Keys that an adapter refused are taken back, and everything is as if they had never been
asked for. -/
theorem Served.takeBack {g : Gateway} (h : Served only g) {id : SessionId} {t : Topic}
    {p : Protocol} {o : Option Interest} {b : Bus} (hb : g.bus.restore id t o = .ok b)
    {e : GatewayError} (he : ({ g with bus := b }.reconcile t p).2 = .error e) :
    Served only
      (({ g with bus := b }.reconcile t p).1.takeBack id t p (g.bus.subscription? id t) e).1 := by
  have hs := steady_reconcile { g with bus := b } t p
  have hrouted : { g with bus := b }.WellRouted := h.routed.of_same rfl rfl
  have hheld (t' p') : ({ g with bus := b }.reconcile t p).1.heldOn t' p' = g.heldOn t' p' := by
    rw [heldOn_reconcile hrouted, he, if_neg (by simp [Except.isOk, Except.toBool])]
    rfl
  generalize ({ g with bus := b } : Gateway).reconcile t p = refused at hs hheld ⊢
  have hasks {id' t' i} (hne : ¬ (id' = id ∧ t' = t)) (ha : refused.1.bus.Asks id' t' i) :
      g.bus.Asks id' t' i := by
    have ha' : b.Asks id' t' i := Bus.asks_of_thins hs.bus ha
    rwa [Bus.asks_restore hb, if_neg hne] at ha'
  rcases takeBack_cases refused.1 id t p (g.bus.subscription? id t) e with
    ⟨hgone, hsame⟩ | ⟨b', hb', hrec⟩
  · rw [hsame]
    refine h.shrink (hs.wellRouted hrouted) (fun ha => hasks ?_ ha) (fun ht => hs.tracked ▸ ht)
      hheld
    rintro ⟨rfl, rfl⟩
    obtain ⟨s, hmem, hid, -⟩ := Bus.asks_iff.mp ha
    rw [Bus.isRegistered_iff.mpr ⟨s, hmem, hid⟩] at hgone
    cases hgone
  · rw [hrec]
    refine Served.reconcile ?_ t p
    refine h.shrink ((hs.wellRouted hrouted).of_same rfl rfl) ?_ (fun ht => hs.tracked ▸ ht) hheld
    intro id' t' i ha
    rw [Bus.asks_restore hb'] at ha
    -- on the topic itself the session has what it had before it asked
    split at ha
    · next hsame =>
      obtain ⟨rfl, rfl⟩ := hsame
      exact Bus.asks_of_subscription? ha
    · next hne => exact hasks hne ha

/-- Keys that an adapter accepted. -/
theorem Served.accept {g : Gateway} (h : Served only g) {id : SessionId} {t : Topic}
    {p : Protocol} {keys : KeySet} {b : Bus} (hb : g.bus.restore id t (asked p keys) = .ok b)
    (hok : ({ g with bus := b }.reconcile t p).2.isOk) (hkeep : ∀ p', only t p' → p = p') :
    Served only ({ g with bus := b }.reconcile t p).1 := by
  have hs := steady_reconcile { g with bus := b } t p
  have hrouted : { g with bus := b }.WellRouted := h.routed.of_same rfl rfl
  have hnew {id' t' i} (ha : ({ g with bus := b }.reconcile t p).1.bus.Asks id' t' i) :
      (t' = t ∧ keys.isEmpty = false ∧ i = ⟨p, keys⟩) ∨ g.bus.Asks id' t' i := by
    have ha' : b.Asks id' t' i := Bus.asks_of_thins hs.bus ha
    rw [Bus.asks_restore hb] at ha'
    split at ha'
    · next hsame => exact Or.inl ⟨hsame.2, asked_eq_some ha'⟩
    · exact Or.inr ha'
  have asking {id' t'} {i : Interest}
      (ha : ({ g with bus := b }.reconcile t p).1.bus.Asks id' t' i) :
      i.sensors.isEmpty = false := by
    rcases hnew ha with ⟨-, hne, rfl⟩ | ha'
    · exact hne
    · exact h.asking ha'
  have htracked {t' i} (ht : ({ g with bus := b }.reconcile t p).1.recorder.tracked.get? t' =
      some i) : g.recorder.tracked.get? t' = some i := hs.tracked ▸ ht
  constructor
  case routed => exact hs.wellRouted hrouted
  case asking => exact asking
  case covered =>
    intro id' t' i ha
    have hasked : b.Asks id' t' i := Bus.asks_of_thins hs.bus ha
    apply watches_reconcile hrouted t p (asking ha)
    · exact mem_wanted_of_asks (g := { g with bus := b }) hasked
    -- the new keys were accepted just now, all others were watched before
    rcases hnew ha with ⟨rfl, -, rfl⟩ | ha'
    · exact Or.inr ⟨rfl, rfl, hok⟩
    · exact Or.inl (h.covered ha')
  case tracking =>
    intro t' i ht
    exact h.tracking (htracked ht)
  case family =>
    intro t' p' id' i ho ha
    rcases hnew ha with ⟨rfl, -, rfl⟩ | ha'
    · exact hkeep p' ho
    · exact h.family ho ha'
  case trackedFamily =>
    intro t' p' i ho ht
    exact h.trackedFamily ho (htracked ht)
  case trackedCovered =>
    intro t' p' i ho ht
    apply watches_reconcile hrouted t p (h.tracking (htracked ht))
    · exact mem_wanted_of_tracked (g := { g with bus := b }) (htracked ht)
    · exact Or.inl (h.trackedCovered ho (htracked ht))

/-- A recording takes in keys that the adapter watches. -/
theorem Served.track {g : Gateway} (h : Served only g) {t : Topic} {p : Protocol} {keys : KeySet}
    (hw : keys.isEmpty = false → g.Watches t p keys) (hkeep : ∀ p', only t p' → p = p') :
    Served only { g with recorder := (g.recorder.track t p keys).1 } := by
  by_cases hidle : g.recorder.isRecording = false ∨ keys.isEmpty = true
  · rw [Recorder.track_of_not hidle]; exact h
  obtain ⟨hrec, hne⟩ : g.recorder.isRecording = true ∧ keys.isEmpty = false := by
    simpa using hidle
  obtain ⟨ks, hks, hmem⟩ := hw hne
  -- on the topic itself the old interest and the new keys are both among what is held, `ks`
  have hnew {i} (ht : some (Interest.mk
        ((g.recorder.tracked.get? t).getD ⟨p, .empty⟩).protocol
        (((g.recorder.tracked.get? t).getD ⟨p, .empty⟩).sensors.union keys)) = some i) :
      i.sensors.isEmpty = false ∧
        ∀ p', only t p' → i.protocol = p' ∧ g.Watches t p' i.sensors := by
    obtain rfl := Option.some.inj ht
    obtain ⟨k, hk⟩ := SortedSet.isEmpty_eq_false_iff.mp hne
    refine ⟨SortedSet.isEmpty_eq_false_iff.mpr ⟨k, SortedSet.mem_union.mpr (Or.inr hk)⟩, ?_⟩
    intro p' ho
    obtain rfl := hkeep p' ho
    cases hold : g.recorder.tracked.get? t with
    | none => exact ⟨rfl, ks, hks, fun k hk => by simpa using hmem k (by simpa using hk)⟩
    | some old =>
      obtain ⟨ks', hks', hmem'⟩ := h.trackedCovered ho hold
      obtain rfl : ks' = ks := Option.some.inj (hks'.symm.trans hks)
      refine ⟨(h.trackedFamily ho hold : old.protocol = p), ks', hks, ?_⟩
      intro k hk
      rcases SortedSet.mem_union.mp hk with hk | hk
      · exact hmem' k hk
      · exact hmem k hk
  refine ⟨h.routed.of_same rfl rfl, h.asking, h.covered, ?_, h.family, ?_, ?_⟩
  · intro t' i ht
    rw [Recorder.get?_track hrec hne] at ht
    split at ht
    · exact (hnew ht).1
    · exact h.tracking ht
  · intro t' p' i ho ht
    rw [Recorder.get?_track hrec hne] at ht
    split at ht
    · next heq => subst heq; exact ((hnew ht).2 _ ho).1
    · exact h.trackedFamily ho ht
  · intro t' p' i ho ht
    rw [Recorder.get?_track hrec hne] at ht
    split at ht
    · next heq => subst heq; exact ((hnew ht).2 _ ho).2
    · exact h.trackedCovered ho ht

theorem Served.subscribe {g : Gateway} (h : Served only g) (id : SessionId) (t : Topic)
    (p : Protocol) (keys : KeySet) (hkeep : ∀ p', only t p' → p = p') :
    Served only (g.subscribe id t p keys).1 := by
  rcases subscribe_cases g id t p keys with
    ⟨hsame, -⟩ | ⟨n, b, -, hb, ⟨e, he, hback, -⟩ | ⟨hok, hnew, -⟩⟩
  · rw [hsame]; exact h
  · rw [hback]; exact h.takeBack hb he
  · rw [hnew]
    have hok' : ({ g with bus := b }.reconcile t p).2.isOk := by rw [hok]; rfl
    refine (h.accept hb hok' hkeep).track ?_ hkeep
    intro hne
    exact watches_reconcile (g := { g with bus := b }) (h.routed.of_same rfl rfl) t p hne
      (mem_wanted_of_asks (g := { g with bus := b }) (asks_of_asked hb hne))
      (Or.inr ⟨rfl, rfl, hok'⟩)

/-! ## Recordings -/

theorem get?_activeInterests {g : Gateway} {t : Topic} {i : Interest}
    (h : g.activeInterests.get? t = some i) :
    i.sensors = g.bus.sensorsOn t ∧
      ∃ id i', g.bus.Asks id t i' ∧ i'.protocol = i.protocol := by
  unfold activeInterests at h
  rw [SortedMap.get?_mapValues] at h
  obtain ⟨p, hp, rfl⟩ := Option.map_eq_some_iff.mp h
  exact ⟨rfl, Bus.asks_of_activeTopics hp⟩

/-- A recording begins with sensors that adapters watch already. -/
theorem Served.start {g : Gateway} (h : Served only g) {r : Recorder}
    (hr : g.recorder.start? g.clock.wall g.activeInterests = some r) :
    Served only { g with recorder := r } := by
  obtain ⟨-, -, htracked⟩ := Recorder.start?_eq_some hr
  have hactive {t i} (ht : r.tracked.get? t = some i) : g.activeInterests.get? t = some i :=
    htracked ▸ ht
  refine ⟨h.routed.of_same rfl rfl, h.asking, h.covered, ?_, h.family, ?_, ?_⟩
  · intro t i ht
    obtain ⟨hsensors, id, i', ha, -⟩ := get?_activeInterests (hactive ht)
    obtain ⟨k, hk⟩ := SortedSet.isEmpty_eq_false_iff.mp (h.asking ha)
    exact SortedSet.isEmpty_eq_false_iff.mpr
      ⟨k, hsensors ▸ Bus.mem_sensorsOn.mpr ⟨id, i', ha, hk⟩⟩
  · intro t p i ho ht
    obtain ⟨-, id, i', ha, hp⟩ := get?_activeInterests (hactive ht)
    exact hp ▸ h.family ho ha
  · intro t p i ho ht
    obtain ⟨hsensors, id, i', ha, -⟩ := get?_activeInterests (hactive ht)
    obtain ⟨ks, hks, -⟩ := h.family ho ha ▸ h.covered ha
    refine ⟨ks, hks, ?_⟩
    -- whoever asks for a sensor on the topic is served by the same adapter, which holds `ks`
    intro k hk
    obtain ⟨id', i'', ha', hk'⟩ := Bus.mem_sensorsOn.mp (hsensors ▸ hk)
    obtain ⟨ks', hks', hmem⟩ := h.family ho ha' ▸ h.covered ha'
    obtain rfl : ks' = ks := Option.some.inj (hks'.symm.trans hks)
    exact hmem k hk'

theorem Served.startRecording {g : Gateway} (h : Served only g) :
    Served only g.startRecording.1 := by
  rcases startRecording_cases g with hsame | ⟨r, hr, hcalm⟩
  · rw [hsame]; exact h
  · exact (h.start hr).calm hcalm

/-- A recording that stops gives up its interest. -/
theorem Served.stop {g : Gateway} (h : Served only g) {r : Recorder}
    {tracked : SortedMap Topic Interest} (hr : g.recorder.stop? g.clock.wall = some (r, tracked)) :
    Served only { g with recorder := r } := by
  obtain ⟨-, hempty, -⟩ := Recorder.stop?_eq_some hr
  refine h.shrink (h.routed.of_same rfl rfl) id ?_ fun _ _ => rfl
  intro t i ht
  have hnone : r.tracked.get? t = none := by rw [hempty]; rfl
  rw [hnone] at ht
  cases ht

theorem Served.stopRecording {g : Gateway} (h : Served only g) :
    Served only g.stopRecording.1 := by
  rcases stopRecording_cases g with hsame | ⟨r, tracked, hr, hcalm⟩
  · rw [hsame]; exact h
  · exact ((h.stop hr).releaseTopics _).calm hcalm

/-! ## Runs -/

/-- No operation lets anybody starve, as long as it keeps to the topics' families. -/
theorem Served.act {g : Gateway} (h : Served only g) {op : Op}
    (hop : ∀ t p, only t p → op.KeepsTo t p) : Served only (op.act g) := by
  by_cases hc : op.isCalm = true
  · exact h.calm (Op.calm_act hc g)
  cases op with
  | openSession id => exact h.openSession id
  | closeSession id => exact h.closeSession id
  | cleanUp t p => exact h.releaseTopics [(t, p)]
  | subscribe id t p keys => exact h.subscribe id t p keys fun p' ho => hop t p' ho rfl
  | unsubscribe id t p => exact h.unsubscribe id t p
  | releaseTopics topics => exact h.releaseTopics topics
  | startRecording => exact h.startRecording
  | stopRecording => exact h.stopRecording
  | _ => exact absurd rfl hc

/-- Everybody is served after every run that keeps to the topics' families. -/
theorem served_run (r : Run) (only : Topic → Protocol → Prop)
    (hkeep : ∀ op ∈ r.ops, ∀ t p, only t p → op.KeepsTo t p) : Served only r.gateway :=
  r.induction (P := fun w => Served only w.gateway) (fun _ hg => served_fresh hg)
    (fun _ _ hw _ hop => hw.act hop) hkeep

/-- Subscriptions are served after every run, and so is tracking where topics need not be told
apart. -/
theorem served_run_always (r : Run) : Served (fun _ _ => False) r.gateway := by
  apply served_run r
  intro op _ t p ho
  exact ho.elim

theorem served_run_only (r : Run) {t : Topic} {p : Protocol} (hkeep : ∀ op ∈ r.ops, op.KeepsTo t p) :
    Served (Only t p) r.gateway := by
  apply served_run r
  rintro op hop _ _ ⟨rfl, rfl⟩
  exact hkeep op hop

/-- **Nobody starves.** After any run, whatever adapters refused and whoever was evicted, the
adapter of a subscription's family is subscribed to the object with all keys of the
subscription; and on a topic that the run asked for under one family only, with all
sensors that the recorder tracks. The keys are those that the adapter accepted last, which
are those that it watches. -/
theorem subscribers_are_watched_for (r : Run) :
    (∀ s ∈ r.gateway.bus.sessions, ∀ t i, s.subscriptions.get? t = some i →
      r.gateway.Watches t i.protocol i.sensors) ∧
    (∀ t p, (∀ op ∈ r.ops, op.KeepsTo t p) →
      ∀ keys, r.gateway.recorder.sensorsOn? t = some keys → r.gateway.Watches t p keys) ∧
    ∀ t p a, r.gateway.adapterOn? t p = some a →
      a.watched t.object = (r.gateway.heldOn t p).getD .empty := by
  refine ⟨?_, ?_, ?_⟩
  · intro s hs t i hi
    -- no topic need be told apart for the subscriptions
    have h : Served (fun _ _ => False) r.gateway := by
      apply served_run r
      intro op _ t p ho
      exact ho.elim
    exact h.covered (Bus.asks_of_mem hs hi)
  · intro t p hkeep keys hkeys
    have h : Served (Only t p) r.gateway := by
      apply served_run r
      rintro op hop _ _ ⟨rfl, rfl⟩
      exact hkeep op hop
    obtain ⟨i, hi, rfl⟩ := Option.map_eq_some_iff.mp hkeys
    exact h.trackedCovered ⟨rfl, rfl⟩ hi
  · intro t p a ha
    exact r.faithful_gateway.watched ha

/-- The object of `refusedChange`. -/
def tank : Topic := ⟨"plant", "tank"⟩

/-- A session wants another sensor instead of its first one, but the adapter refuses that. -/
def refusedChange : Run where
  config := {}
  clock := ⟨⟨0, 0⟩, 0⟩
  more := [⟨"plant", .scripted (.new .modbus
      { delay := fun _ _ => 0
        refusal := fun _ n => if n = 2 then some .rejected else none }),
    fun _ => rfl⟩]
  ops := [.openSession ⟨1⟩, .subscribe ⟨1⟩ tank .modbus (.ofList [.name "level"]),
    .subscribe ⟨1⟩ tank .modbus (.ofList [.name "valve"])]
  admissible := by decide

/-- The session keeps its first sensor, and the adapter watches it. -/
theorem refusedChange_watched :
    refusedChange.gateway.calls.map (·.result.isOk) = [true, false, true] ∧
      refusedChange.gateway.Watches tank .modbus (.ofList [.name "level"]) := by
  refine ⟨by decide, ?_⟩
  have hkept : ∃ s ∈ refusedChange.gateway.bus.sessions,
      s.subscriptions.get? tank = some ⟨.modbus, .ofList [.name "level"]⟩ := by decide
  obtain ⟨s, hs, hi⟩ := hkept
  exact (subscribers_are_watched_for refusedChange).1 s hs tank _ hi

end SensorGateway.Gateway
