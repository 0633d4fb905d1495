/-
# SensorGateway.Proofs.Gateway.Families -- one object under several families

Subscriptions and what the recorder tracks are kept by topic, adapters by server and
family. Pointing an adapter does not look at families: it asks for everything that is
wanted on the topic, and leaves the adapters of all other families as they are
(`heldOn_subscribe_of_ne`). So a session that asks for a topic under another family than
before leaves its old keys with the old adapter, even after it was closed and everything
was released (`moved_session_stays_watched`).

`families_stay_apart` says when this cannot happen: whoever asks for a topic or gives it
up does so under the family of all who have an interest in it then. A topic may pass from
one family to another, but only while nobody has an interest in it. The invariant is
`Alone`: the topic is kept under one family, and the adapters of the others hold nothing.
-/
import SensorGateway.Proofs.Gateway.Exactness

namespace SensorGateway

namespace Gateway

/-- Somebody asks for a sensor under a family, or the recorder tracks it under that family. -/
def AskedUnder (g : Gateway) (t : Topic) (p : Protocol) (k : SensorKey) : Prop :=
  (∃ s ∈ g.bus.sessions, ∃ i, s.subscriptions.get? t = some i ∧ i.protocol = p ∧ k ∈ i.sensors) ∨
    ∃ i, g.recorder.tracked.get? t = some i ∧ i.protocol = p ∧ k ∈ i.sensors

end Gateway

/-- The topics that an operation asks for, gives up or releases, with the families under which it
does. -/
def Op.uses : Op → List (Topic × Protocol)
  | .subscribe _ t p _ => [(t, p)]
  | .unsubscribe _ t p => [(t, p)]
  | .releaseTopics topics => topics
  | _ => []

namespace World

/-- Whoever has an interest in a topic has it under this family: sessions, the recorder, and
sessions that were closed and whose topics are still to be released. -/
structure UsesOnly (w : World) (t : Topic) (p : Protocol) : Prop where
  asked : ∀ s ∈ w.gateway.bus.sessions, ∀ i ∈ s.subscriptions.get? t, i.protocol = p
  tracked : ∀ i ∈ w.gateway.recorder.tracked.get? t, i.protocol = p
  due : ∀ e ∈ w.pending, e.1 = t → e.2 = p

theorem usesOnly_iff {w : World} {t : Topic} {p : Protocol} :
    w.UsesOnly t p ↔
      (∀ s ∈ w.gateway.bus.sessions, ∀ i ∈ s.subscriptions.get? t, i.protocol = p) ∧
      (∀ i ∈ w.gateway.recorder.tracked.get? t, i.protocol = p) ∧
      ∀ e ∈ w.pending, e.1 = t → e.2 = p :=
  ⟨fun h => ⟨h.asked, h.tracked, h.due⟩, fun h => ⟨h.1, h.2.1, h.2.2⟩⟩

instance (w : World) (t : Topic) (p : Protocol) : Decidable (w.UsesOnly t p) :=
  decidable_of_iff' _ usesOnly_iff

/-- An operation that asks for a topic, gives it up or releases it does so under the family of
all who have an interest in it. -/
def Separates (w : World) (t : Topic) (op : Op) : Prop :=
  ∀ e ∈ op.uses, e.1 = t → w.UsesOnly t e.2

instance (w : World) (t : Topic) (op : Op) : Decidable (w.Separates t op) :=
  inferInstanceAs (Decidable (∀ e ∈ op.uses, e.1 = t → w.UsesOnly t e.2))

/-- Every operation keeps the families of a topic apart where it happens. -/
def Unmixed (w : World) (t : Topic) : List Op → Prop
  | [] => True
  | op :: ops => w.Separates t op ∧ (w.step op).Unmixed t ops

instance decidableUnmixed (w : World) (t : Topic) : (ops : List Op) → Decidable (w.Unmixed t ops)
  | [] => isTrue trivial
  | op :: ops =>
    have := decidableUnmixed (w.step op) t ops
    inferInstanceAs (Decidable (w.Separates t op ∧ (w.step op).Unmixed t ops))

end World

namespace Gateway

variable {closed : List SessionId} {t : Topic} {p q : Protocol} {g g' : Gateway} {w : World}

/-! ## Other families are left alone -/

/-- Pointing an adapter leaves the adapters of other families as they are, whatever sessions ask
for. -/
theorem heldOn_reconcileWith_of_ne (hg : g.WellRouted) (b : Bus) {t' : Topic} {p' : Protocol}
    (hne : ¬ (t' = t ∧ p' = q)) :
    ({ g with bus := b }.reconcile t' p').1.heldOn t q = g.heldOn t q := by
  have hrouted : { g with bus := b }.WellRouted := hg.of_same rfl rfl
  have hother : ¬ (t = t' ∧ q = p' ∧ ({ g with bus := b }.reconcile t' p').2.isOk ∧
      (Gateway.pointingCall { g with bus := b } t').isSome) := by
    rintro ⟨rfl, rfl, -⟩
    exact hne ⟨rfl, rfl⟩
  rw [heldOn_reconcile hrouted, if_neg hother]
  rfl

/-- Asking for a topic under one family changes nothing at the adapters of the others, whatever
the session asked for before. -/
theorem heldOn_subscribe_of_ne (hg : g.WellRouted) (id : SessionId) {t' : Topic} {p' : Protocol}
    (keys : KeySet) (hne : ¬ (t' = t ∧ p' = q)) :
    (g.subscribe id t' p' keys).1.heldOn t q = g.heldOn t q := by
  have hkept : (g.subscribe id t' p' keys).1.WellRouted ∧
      (g.subscribe id t' p' keys).1.heldOn t q = g.heldOn t q := by
    apply subscribe_induction (P := fun g' => g'.WellRouted ∧ g'.heldOn t q = g.heldOn t q)
    case restored =>
      rintro g' id i b - ⟨hrouted, hheld⟩
      refine ⟨?_, (heldOn_reconcileWith_of_ne hrouted b hne).trans hheld⟩
      exact (steady_reconcile { g' with bus := b } t' p').wellRouted (hrouted.of_same rfl rfl)
    case tracked => exact fun g' keys ⟨hrouted, hheld⟩ => ⟨hrouted.of_same rfl rfl, hheld⟩
    case hg => exact ⟨hg, rfl⟩
  exact hkept.2

theorem heldOn_unsubscribe_of_ne (hg : g.WellRouted) (id : SessionId) {t' : Topic}
    {p' : Protocol} (hne : ¬ (t' = t ∧ p' = q)) :
    (g.unsubscribe id t' p').1.heldOn t q = g.heldOn t q := by
  rcases unsubscribe_cases g id t' p' with hsame | ⟨b, -, hrec⟩
  · rw [hsame]
  · rw [hrec]
    exact heldOn_reconcileWith_of_ne hg b hne

/-- Nothing more is wanted after a steady change. -/
theorem isEmpty_wanted_of_steady (hs : Steady g g') (h : (g.wanted t).isEmpty) :
    (g'.wanted t).isEmpty := by
  apply SortedSet.isEmpty_iff.mpr
  intro k hk
  apply SortedSet.isEmpty_iff.mp h k
  rcases mem_wanted.mp hk with hk | ⟨i, hi, hk⟩
  · obtain ⟨id, i, ha, hk⟩ := Bus.mem_sensorsOn.mp hk
    exact mem_wanted_of_asks (Bus.asks_of_thins hs.bus ha) k hk
  · exact mem_wanted_of_tracked (hs.tracked ▸ hi) k hk

/-- An adapter that holds nothing on a topic gets nothing there while others are pointed at it, nor
when nothing is wanted. -/
theorem heldOn_releaseTopics_eq_none (hg : g.WellRouted) (h : g.heldOn t q = none)
    {topics : List (Topic × Protocol)}
    (hother : ∀ e ∈ topics, e.1 = t → e.2 ≠ q ∨ (g.wanted t).isEmpty) :
    (g.releaseTopics topics).heldOn t q = none := by
  unfold releaseTopics
  induction topics generalizing g with
  | nil => exact h
  | cons e rest ih =>
    have hs := steady_reconcile g e.1 e.2
    have hnone : (g.reconcile e.1 e.2).1.heldOn t q = none := by
      rcases heldOn_reconcile_or hg e.1 t e.2 q with hsame | ⟨ht, hq, hdemand⟩
      · rw [hsame, h]
      · rcases hother e (by simp) ht.symm with hne | hempty
        · exact absurd hq.symm hne
        · rw [hdemand, demand, ← ht, if_pos hempty]
    refine ih (hs.wellRouted hg) hnone ?_
    intro e' he' ht
    exact (hother e' (List.mem_cons_of_mem e he') ht).imp_right (isEmpty_wanted_of_steady hs)

/-! ## What went wrong stays wrong -/

theorem steady_releaseTopics (g : Gateway) (topics : List (Topic × Protocol)) :
    Steady g (g.releaseTopics topics) :=
  releaseTopics_induction (fun g' t' p' hg => hg.trans (steady_reconcile g' t' p')) (.refl g) topics

theorem Undisturbed.of_step {op : Op}
    (hu : Undisturbed (w.step op).closed t q (w.step op).gateway)
    (h : Sound w.closed w.gateway) : Undisturbed w.closed t q w.gateway := by
  by_cases hc : op.isCalm = true
  · have hu' : Undisturbed (w.closedAfter op) t q (op.act w.gateway) := hu
    rw [w.closedAfter_of_calm hc] at hu'
    exact hu'.of_steady (Op.calm_act hc w.gateway).toSteady
  cases op with
  | openSession id => exact ⟨hu.accepted, hu.kept⟩
  | closeSession id => exact hu.of_closeSession h
  | cleanUp t' p' => exact hu.of_steady (steady_releaseTopics w.gateway [(t', p')])
  | subscribe id t' p' keys =>
    have hafter : Undisturbed w.closed t q (w.gateway.subscribe id t' p' keys).1 := hu
    rcases subscribe_cases w.gateway id t' p' keys with ⟨hsame, -⟩ | ⟨n, b, -, hb, hcases⟩
    · rwa [hsame] at hafter
    have hs := steady_reconcile { w.gateway with bus := b } t' p'
    rcases hcases with ⟨e, -, hback, -⟩ | ⟨-, hnew, -⟩
    · rw [hback] at hafter
      exact (hafter.of_takeBack.of_steady hs).of_restore hb
    · rw [hnew] at hafter
      have hpointed : Undisturbed w.closed t q ({ w.gateway with bus := b }.reconcile t' p').1 :=
        ⟨hafter.accepted, hafter.kept⟩
      exact (hpointed.of_steady hs).of_restore hb
  | unsubscribe id t' p' =>
    have hafter : Undisturbed w.closed t q (w.gateway.unsubscribe id t' p').1 := hu
    rcases unsubscribe_cases w.gateway id t' p' with hsame | ⟨b, hb, hrec⟩
    · rwa [hsame] at hafter
    · rw [hrec] at hafter
      exact (hafter.of_steady (steady_reconcile _ t' p')).of_restore hb
  | releaseTopics topics => exact hu.of_steady (steady_releaseTopics w.gateway topics)
  | startRecording =>
    have hafter : Undisturbed w.closed t q w.gateway.startRecording.1 := hu
    rcases startRecording_cases w.gateway with hsame | ⟨r, -, hcalm⟩
    · rwa [hsame] at hafter
    · have hstarted := hafter.of_steady hcalm.toSteady
      exact ⟨hstarted.accepted, hstarted.kept⟩
  | stopRecording =>
    have hafter : Undisturbed w.closed t q w.gateway.stopRecording.1 := hu
    rcases stopRecording_cases w.gateway with hsame | ⟨r, tracked, -, hcalm⟩
    · rwa [hsame] at hafter
    · have hstopped := (hafter.of_steady hcalm.toSteady).of_steady (steady_releaseTopics _ _)
      exact ⟨hstopped.accepted, hstopped.kept⟩
  | _ => exact absurd rfl hc

/-! ## The invariant -/

/-- A topic is kept under one family, and the adapters of the other families hold nothing there
unless something went wrong. -/
structure Alone (t : Topic) (p : Protocol) (w : World) : Prop where
  kept : Kept t p w
  others : ∀ q, q ≠ p → Undisturbed w.closed t q w.gateway → w.gateway.heldOn t q = none

/-- Whoever has an interest in a topic under two families has none. -/
theorem Kept.nobody (h : Kept t p w) (hq : w.UsesOnly t q) (hne : q ≠ p) :
    (∀ id i, ¬ w.gateway.bus.Asks id t i) ∧ w.gateway.recorder.tracked.get? t = none ∧
      ∀ p', (t, p') ∉ w.pending := by
  refine ⟨?_, ?_, ?_⟩
  · intro id i ha
    obtain ⟨s, hs, -, hi⟩ := Bus.asks_iff.mp ha
    exact hne ((hq.asked s hs i hi).symm.trans (h.settled.served.family ⟨rfl, rfl⟩ ha))
  · cases hi : w.gateway.recorder.tracked.get? t with
    | none => rfl
    | some i =>
      exact absurd ((hq.tracked i hi).symm.trans
        (h.settled.served.trackedFamily ⟨rfl, rfl⟩ hi)) hne
  · intro p' hp
    exact hne ((hq.due (t, p') hp rfl).symm.trans (h.family hp))

theorem Kept.isEmpty_wanted (h : Kept t p w) (hq : w.UsesOnly t q) (hne : q ≠ p) :
    (w.gateway.wanted t).isEmpty := by
  obtain ⟨hasks, htracked, -⟩ := h.nobody hq hne
  apply SortedSet.isEmpty_iff.mpr
  intro k hk
  rcases mem_wanted.mp hk with hk | ⟨i, hi, -⟩
  · obtain ⟨id, i, ha, -⟩ := Bus.mem_sensorsOn.mp hk
    exact hasks id i ha
  · rw [htracked] at hi
    cases hi

/-- While nobody has an interest in a topic it may pass to another family. -/
theorem Alone.pass (h : Alone t p w) (hq : w.UsesOnly t q) : Alone t q w := by
  by_cases hne : q = p
  · exact hne ▸ h
  obtain ⟨hasks, htracked, hdue⟩ := h.kept.nobody hq hne
  have hnothing : w.gateway.demand t = none := if_pos (h.kept.isEmpty_wanted hq hne)
  have hold := h.kept.settled
  have hserved : Served (Only t q) w.gateway := by
    refine ⟨hold.served.routed, hold.served.asking, hold.served.covered, hold.served.tracking,
      ?_, ?_, ?_⟩
    · rintro _ _ id i ⟨rfl, rfl⟩ ha
      exact absurd ha (hasks id i)
    · rintro _ _ i ⟨rfl, rfl⟩ hi
      rw [htracked] at hi
      cases hi
    · rintro _ _ i ⟨rfl, rfl⟩ hi
      rw [htracked] at hi
      cases hi
  refine ⟨⟨⟨hold.sound, hserved, ?_⟩, fun hp => absurd hp (hdue _)⟩, ?_⟩
  · intro _ hu
    exact (h.others q hne hu).trans hnothing.symm
  · intro q' hq' hu
    by_cases hold' : q' = p
    · -- the adapter of the family that had the topic was unsubscribed
      subst hold'
      exact (hold.exact (hdue q') hu).trans hnothing
    · exact h.others q' hold' hu

theorem Alone.step (h : Alone t p w) {op : Op} (hop : w.Admits op) (hkeep : op.KeepsTo t p)
    (hsep : w.Separates t op) : Alone t p (w.step op) := by
  refine ⟨h.kept.step hop hkeep, ?_⟩
  intro q hq hu
  have hbefore := h.others q hq (hu.of_step h.kept.settled.sound)
  have hrouted := h.kept.settled.served.routed
  show (op.act w.gateway).heldOn t q = none
  by_cases hc : op.isCalm = true
  · rw [(Op.calm_act hc w.gateway).heldOn, hbefore]
  cases op with
  | openSession id => exact hbefore
  | closeSession id => exact hbefore
  | cleanUp t' p' =>
    refine heldOn_releaseTopics_eq_none hrouted hbefore ?_
    rintro e he rfl
    obtain rfl := List.mem_singleton.mp he
    exact .inl fun hpq => hq (hpq.symm.trans (h.kept.family hop))
  | subscribe id t' p' keys =>
    rw [← hbefore]
    refine heldOn_subscribe_of_ne hrouted id keys ?_
    rintro ⟨rfl, rfl⟩
    exact hq (hkeep rfl)
  | unsubscribe id t' p' =>
    rw [← hbefore]
    refine heldOn_unsubscribe_of_ne hrouted id ?_
    rintro ⟨rfl, rfl⟩
    exact hq (hkeep rfl)
  | releaseTopics topics =>
    refine heldOn_releaseTopics_eq_none hrouted hbefore ?_
    intro e he ht
    by_cases hp : e.2 = p
    · exact .inl fun hpq => hq (hpq.symm.trans hp)
    · exact .inr (h.kept.isEmpty_wanted (hsep e he ht) hp)
  | startRecording =>
    rcases startRecording_cases w.gateway with hsame | ⟨r, -, hcalm⟩
    · rw [Op.act, hsame, hbefore]
    · rw [Op.act, hcalm.heldOn]
      exact hbefore
  | stopRecording =>
    rcases stopRecording_cases w.gateway with hsame | ⟨r, tracked, hr, hcalm⟩
    · rw [Op.act, hsame, hbefore]
    · obtain ⟨-, -, rfl⟩ := Recorder.stop?_eq_some hr
      rw [Op.act, hcalm.heldOn]
      refine heldOn_releaseTopics_eq_none (g := { w.gateway with recorder := r })
        (hrouted.of_same rfl rfl) hbefore ?_
      rintro e he rfl
      obtain ⟨⟨t', i⟩, hmem, rfl⟩ := List.mem_map.mp he
      have hfamily : i.protocol = p := h.kept.settled.served.trackedFamily ⟨rfl, rfl⟩
        (SortedMap.mem_toList_iff.mp hmem)
      exact .inl fun hpq => hq (hpq.symm.trans hfamily)
  | _ => exact absurd rfl hc

/-- One operation that keeps the families of a topic apart, be it that the topic passes to another
family before. -/
theorem exists_alone_step (h : ∃ p, Alone t p w) {op : Op} (hop : w.Admits op)
    (hsep : w.Separates t op) : ∃ p, Alone t p (w.step op) := by
  obtain ⟨p, hp⟩ := h
  -- the family under which the operation asks for the topic or gives it up, if it does
  have hfamily : ∃ q, Alone t q w ∧ op.KeepsTo t q := by
    cases op with
    | subscribe id t' p' keys =>
      by_cases ht : t' = t
      · exact ⟨p', hp.pass (hsep _ (List.mem_singleton_self _) ht), fun _ => rfl⟩
      · exact ⟨p, hp, fun ht' => absurd ht' ht⟩
    | unsubscribe id t' p' =>
      by_cases ht : t' = t
      · exact ⟨p', hp.pass (hsep _ (List.mem_singleton_self _) ht), fun _ => rfl⟩
      · exact ⟨p, hp, fun ht' => absurd ht' ht⟩
    | _ => exact ⟨p, hp, trivial⟩
  obtain ⟨q, hq, hkeep⟩ := hfamily
  exact ⟨q, hq.step hop hkeep hsep⟩

theorem exists_alone_after {ops : List Op} (h : ∃ p, Alone t p w) (hops : w.Admissible ops)
    (hsep : w.Unmixed t ops) : ∃ p, Alone t p (w.after ops) := by
  induction ops generalizing w with
  | nil => exact h
  | cons op ops ih => exact ih (exists_alone_step h hops.1 hsep.1) hops.2 hsep.2

theorem alone_start (h : Fresh g) : Alone t p (World.start g) :=
  ⟨kept_start h, fun q _ _ => h.heldOn t q⟩

/-- What is wanted on a topic that is kept under one family is asked for under that family. -/
theorem Kept.askedUnder (h : Kept t p w) {k : SensorKey} (hk : k ∈ w.gateway.wanted t) :
    w.gateway.AskedUnder t p k := by
  rcases mem_wanted.mp hk with hk | ⟨i, hi, hk⟩
  · obtain ⟨id, i, ha, hk⟩ := Bus.mem_sensorsOn.mp hk
    obtain ⟨s, hs, -, hi⟩ := Bus.asks_iff.mp ha
    exact .inl ⟨s, hs, i, hi, h.settled.served.family ⟨rfl, rfl⟩ ha, hk⟩
  · exact .inr ⟨i, hi, h.settled.served.trackedFamily ⟨rfl, rfl⟩ hi, hk⟩

/-- **Families stay apart.** Let every operation that asks for a topic, gives it up or releases it
do so under the family of all who have an interest in it then. If the adapter of a family never
refused to be pointed at the topic, every session that is gone and had an interest in it was
closed, and what closed sessions left is released, then every sensor that the adapter watches
was asked for under its family, by a session that is there or by the recorder. -/
theorem families_stay_apart (r : Run) (t : Topic) (p : Protocol)
    (unmixed : (World.start (.assemble r.config r.clock r.more)).Unmixed t r.ops)
    (accepted : ¬ r.gateway.Refused t p)
    (kept : ∀ s ∈ r.gateway.bus.departed,
      (s.subscriptions.get? t).isSome → s.id ∈ r.world.closed)
    (released : (t, p) ∉ r.world.pending) :
    (∀ keys, r.gateway.heldOn t p = some keys →
      keys.isEmpty = false ∧ ∀ k ∈ keys, r.gateway.AskedUnder t p k) ∧
    ∀ a, r.gateway.adapterOn? t p = some a →
      ∀ k ∈ a.watched t.object, r.gateway.AskedUnder t p k := by
  have hfresh := fresh_assemble r.config r.clock r.more
  obtain ⟨q, halone⟩ : ∃ q, Alone t q r.world :=
    exists_alone_after ⟨p, alone_start hfresh⟩ r.admissible unmixed
  have hgone : r.gateway.bus.OnlyGone r.world.closed t := by
    intro e he hi
    obtain ⟨s, hs, rfl⟩ := List.mem_map.mp he
    exact kept s hs hi
  have hheld : ∀ keys, r.gateway.heldOn t p = some keys →
      keys.isEmpty = false ∧ ∀ k ∈ keys, r.gateway.AskedUnder t p k := by
    intro keys hkeys
    by_cases hp : p = q
    · obtain rfl := hp
      have hexact : r.gateway.heldOn t p = r.gateway.demand t :=
        halone.kept.settled.exact released ⟨accepted, hgone⟩
      rw [hexact, demand] at hkeys
      split at hkeys
      · cases hkeys
      · next hne =>
        obtain rfl := Option.some.inj hkeys
        exact ⟨by simpa using hne, fun k hk => halone.kept.askedUnder hk⟩
    · have hnone : r.gateway.heldOn t p = none := halone.others p hp ⟨accepted, hgone⟩
      rw [hnone] at hkeys
      cases hkeys
  refine ⟨hheld, ?_⟩
  intro a ha k hk
  rw [r.faithful_gateway.watched ha] at hk
  cases hkeys : r.gateway.heldOn t p with
  | none => simp [hkeys] at hk
  | some keys => exact (hheld keys hkeys).2 k (by simpa [hkeys] using hk)

/-- The object of `rewiring` and `moved`. -/
def meter : Topic := ⟨"plant", "meter"⟩

/-- A server with adapters for two families. -/
def twoFamilies : List Installation := [.accepting "plant" .modbus, .accepting "plant" .opcua]

/-- Two sessions use an object under one family and leave it, one of them by closing; a third one
uses it under another family afterwards, while it is recorded. -/
def rewiring : Run where
  config := {}
  clock := ⟨⟨0, 0⟩, 0⟩
  more := twoFamilies
  ops := [.openSession ⟨1⟩, .subscribe ⟨1⟩ meter .modbus (.ofList [.id 1]), .openSession ⟨2⟩,
    .subscribe ⟨2⟩ meter .modbus (.ofList [.id 2]), .unsubscribe ⟨1⟩ meter .modbus,
    .closeSession ⟨2⟩, .cleanUp meter .modbus, .subscribe ⟨1⟩ meter .opcua (.ofList [.name "flow"]),
    .startRecording]
  admissible := by decide

theorem rewiring_apart :
    rewiring.gateway.heldOn meter .opcua = some (.ofList [.name "flow"]) ∧
      rewiring.gateway.AskedUnder meter .opcua (.name "flow") :=
  ⟨by decide, ((families_stay_apart rewiring meter .opcua (by decide) (by decide) (by decide)
    (by decide)).1 (.ofList [.name "flow"]) (by decide)).2 _ (by decide)⟩

/-- A session asks for a sensor under one family, then under another, and is closed. -/
def moved : Run where
  config := {}
  clock := ⟨⟨0, 0⟩, 0⟩
  more := twoFamilies
  ops := [.openSession ⟨1⟩, .subscribe ⟨1⟩ meter .modbus (.ofList [.name "flow"]),
    .subscribe ⟨1⟩ meter .opcua (.ofList [.name "flow"]), .closeSession ⟨1⟩,
    .cleanUp meter .opcua]
  admissible := by decide

/-- The first adapter still watches the sensor: no session is there, none was evicted, nothing is
recorded or to be released, and nothing was refused, but nobody asked the first adapter to
stop. -/
theorem moved_session_stays_watched :
    moved.gateway.bus.sessions = [] ∧ moved.gateway.bus.departed.map (·.id) = moved.world.closed ∧
      moved.gateway.recorder.isTracking meter = false ∧ moved.world.pending = [] ∧
      (∀ e ∈ moved.gateway.calls, e.result.isOk = true) ∧
      ¬ moved.gateway.AskedUnder meter .modbus (.name "flow") ∧
      moved.gateway.heldOn meter .modbus = some (.ofList [.name "flow"]) ∧
      moved.gateway.heldOn meter .opcua = none := by
  refine ⟨by decide, by decide, by decide, by decide, by decide, ?_, by decide, by decide⟩
  have hnobody : moved.gateway.bus.sessions = [] := by decide
  have huntracked : moved.gateway.recorder.tracked.get? meter = none := by decide
  rintro (⟨s, hs, -⟩ | ⟨i, hi, -⟩)
  · rw [hnobody] at hs
    cases hs
  · rw [huntracked] at hi
    cases hi

end Gateway

end SensorGateway
