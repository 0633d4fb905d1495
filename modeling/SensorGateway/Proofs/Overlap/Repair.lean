/-
# SensorGateway.Proofs.Overlap.Repair -- some later release always repairs

A session is closed, and a recording stops, without the lock of any topic. So a union that
was read before may be on its way to an adapter although it is out of date by now. But
whoever changes what is wanted without the lock also leaves a release of the topic, which
waits for the lock and then points the adapter once more.

The invariant is `Settling`. Either a release of the topic is still to come; or, while
nobody holds the lock, the adapter watches what is wanted (`Meets`), and whoever holds it
has come as far as its stage says (`Fits`). Every step keeps that (`Settling.next`),
provided that a recording begins with sensors that are still asked for then.

`overlapping_calls_lose_nothing` is for calls among which recordings start only while no
others are on their way. What may happen when they do not is in
`SensorGateway.Proofs.Overlap.Snapshot`.
-/
import SensorGateway.Proofs.Overlap.Order

namespace SensorGateway.Overlap

open Gateway (Steady Calm)

/-! ## Nobody is evicted -/

/-- Where the number of departed sessions stays the same, everybody goes on asking for the same. -/
theorem asks_iff_of_quiet {b b' : Bus} (h : b.Thins b')
    (hquiet : b'.departed.length = b.departed.length) (id : SessionId) (t : Topic) (i : Interest) :
    b'.Asks id t i ↔ b.Asks id t i := by
  refine ⟨Bus.asks_of_thins h, ?_⟩
  obtain ⟨gone, hgone, hperm⟩ := h
  have hnone : gone = [] := by
    have hlength := congrArg List.length hgone
    simp only [Bus.goneTable, List.length_map, List.length_append] at hlength
    exact List.eq_nil_of_length_eq_zero (by omega)
  rintro ⟨m, hm, hi⟩
  rw [hnone, List.append_nil] at hperm
  exact ⟨m, hperm.mem_iff.mp hm, hi⟩

/-- Two gateways are alike on a topic: the same is asked for, wanted, and held. -/
structure Alike (t : Topic) (p : Protocol) (g g' : Gateway) : Prop where
  asked : g'.bus.sensorsOn t = g.bus.sensorsOn t
  wanted : g'.wanted t = g.wanted t
  held : g'.heldOn t p = g.heldOn t p

variable {t : Topic} {p : Protocol} {g g' : Gateway} {exactly : Prop}

theorem Alike.of_asks (hasks : ∀ id i, g'.bus.Asks id t i ↔ g.bus.Asks id t i)
    (htracked : g'.recorder.tracked.get? t = g.recorder.tracked.get? t)
    (hheld : g'.heldOn t p = g.heldOn t p) : Alike t p g g' :=
  ⟨Bus.sensorsOn_congr hasks, Gateway.wanted_congr hasks htracked, hheld⟩

theorem Alike.of_steady (hs : Steady g g')
    (hquiet : g'.bus.departed.length = g.bus.departed.length)
    (hheld : g'.heldOn t p = g.heldOn t p) : Alike t p g g' :=
  .of_asks (fun id i => asks_iff_of_quiet hs.bus hquiet id t i) (by rw [hs.tracked]) hheld

theorem Alike.refl : Alike t p g g := ⟨rfl, rfl, rfl⟩

/-! ## How far an errand has come -/

/-- Some keys that are watched cover what is wanted; where it is known `exactly`, they are what is
wanted, and nothing is subscribed when that is nothing. -/
structure Meets (exactly : Prop) (wanted : KeySet) (held : Option KeySet) : Prop where
  covers : ∀ k ∈ wanted, k ∈ held.getD .empty
  exact : exactly → held = if wanted.isEmpty then none else some wanted

theorem meets_of_nonempty {keys : KeySet} (h : keys.isEmpty = false) :
    Meets exactly keys (some keys) where
  covers _ hk := hk
  exact _ := by rw [if_neg (by simp [h])]

theorem meets_of_empty {keys : KeySet} (h : keys.isEmpty) {held : Option KeySet}
    (hheld : exactly → held = none) : Meets exactly keys held where
  covers k hk := absurd hk (SortedSet.isEmpty_iff.mp h k)
  exact he := by rw [if_pos h, hheld he]

/-- What is true of an errand on a topic in each of its stages, as long as nothing is done without
the lock. -/
def Fits (exactly : Prop) (t : Topic) (p : Protocol) (g : Gateway) (e : Errand) : Stage → Prop
  | .entered => Meets exactly (g.wanted t) (g.heldOn t p)
  | .changed => ∀ k ∈ e.keys, k ∈ g.wanted t
  | .informed recorded => (∀ k ∈ e.keys, k ∈ g.wanted t) ∧
      g.wanted t = (g.bus.sensorsOn t).union (recorded.getD .empty) ∧
      (exactly → ∀ keys, recorded = some keys → keys.isEmpty = false)
  | .asking keys => (∀ k ∈ e.keys, k ∈ g.wanted t) ∧ Meets exactly (g.wanted t) keys
  | .pointed => (∀ k ∈ e.keys, k ∈ g.wanted t) ∧ Meets exactly (g.wanted t) (g.heldOn t p)
  | .finished => Meets exactly (g.wanted t) (g.heldOn t p)

theorem Fits.alike {e : Errand} {st : Stage} (h : Fits exactly t p g e st)
    (ha : Alike t p g g') : Fits exactly t p g' e st := by
  cases st <;> simp only [Fits, ha.wanted, ha.asked, ha.held] at h ⊢ <;> exact h

theorem Errand.keys_eq_empty {e : Errand} (h : ∀ id i, e.change? ≠ some (id, some i)) :
    e.keys = .empty := by
  cases e with
  | subscribe id t p keys =>
    by_cases hne : keys.isEmpty = true
    · apply SortedSet.ext
      intro k
      exact iff_of_false (SortedSet.isEmpty_iff.mp hne k) SortedSet.not_mem_empty
    · exact absurd (by simp [change?, Gateway.asked, hne]) (h id ⟨p, keys⟩)
  | unsubscribe id t p => rfl
  | release t p => rfl

/-- The keys that an errand asks for are wanted once the bus knows of them. -/
theorem fits_enter (e : Errand) (ht : e.topic = t)
    (h : Fits exactly t p g e .entered) : Fits exactly t p (e.enter g).1 e (e.enter g).2 := by
  unfold Errand.enter
  split
  · next hnone =>
    intro k hk
    rw [Errand.keys_eq_empty (by simp [hnone])] at hk
    exact absurd hk SortedSet.not_mem_empty
  · next id o hchange =>
    split
    · exact h
    · next b hb =>
      intro k hk
      cases o with
      | none =>
        rw [Errand.keys_eq_empty (by simp [hchange])] at hk
        exact absurd hk SortedSet.not_mem_empty
      | some i =>
        obtain ⟨rfl, -⟩ := Errand.change?_eq_some hchange
        have hasks : b.Asks id t ⟨e.protocol, e.keys⟩ :=
          (Bus.asks_restore hb).mpr (by rw [if_pos ⟨rfl, ht.symm⟩])
        exact Gateway.mem_wanted_of_asks (g := { g with bus := b }) hasks k hk

theorem Tidy.isEmpty_wanted (h : Tidy t p g) (hnone : g.routes.get? ⟨t.server, p⟩ = none) :
    (g.wanted t).isEmpty := by
  have unrouted : ¬ Routed g t p := by simp [Routed, hnone]
  apply SortedSet.isEmpty_iff.mpr
  intro k hk
  rcases Gateway.mem_wanted.mp hk with hk | ⟨i, hi, -⟩
  · obtain ⟨id, i, ha, -⟩ := Bus.mem_sensorsOn.mp hk
    exact unrouted (h.asked ha).2.2
  · exact unrouted (h.tracked hi).2

/-- What the recorder says is what it tracks; without an adapter nothing is wanted. -/
theorem fits_inform (htidy : Tidy t p g) (e : Errand) (ht : e.topic = t) (hp : e.protocol = p)
    (htracking : exactly → ∀ i, g.recorder.tracked.get? t = some i → i.sensors.isEmpty = false)
    (h : Fits exactly t p g e .changed) : Fits exactly t p g e (e.inform g) := by
  unfold Errand.inform
  split
  · next hnone =>
    rw [ht, hp] at hnone
    refine meets_of_empty (htidy.isEmpty_wanted hnone) fun _ => ?_
    rw [Gateway.heldOn, hnone]
    rfl
  · refine ⟨h, ht ▸ rfl, ?_⟩
    intro he keys hkeys
    obtain ⟨i, hi, rfl⟩ := Option.map_eq_some_iff.mp (ht ▸ hkeys)
    exact htracking he i hi

/-- The adapter is asked for what is wanted. -/
theorem fits_demanding (e : Errand) {recorded : Option KeySet}
    (h : Fits exactly t p g e (.informed recorded)) :
    Fits exactly t p g e (Errand.demanding (g.bus.sensorsOn t) recorded) := by
  obtain ⟨hkeys, hwanted, hrecorded⟩ := h
  cases hne : (g.wanted t).isEmpty with
  | false =>
    rw [Errand.demanding_of_nonempty (hwanted ▸ hne), ← hwanted]
    exact ⟨hkeys, meets_of_nonempty hne⟩
  | true =>
    rw [Errand.demanding_of_empty (hwanted ▸ hne)]
    cases recorded with
    | none => exact ⟨hkeys, meets_of_empty hne fun _ => rfl⟩
    | some keys =>
      refine ⟨hkeys, meets_of_empty hne fun he => ?_⟩
      -- a topic that is recorded with some sensor is wanted
      obtain ⟨k, hk⟩ := SortedSet.isEmpty_eq_false_iff.mp (hrecorded he keys rfl)
      have hmem : k ∈ g.wanted t := hwanted ▸ SortedSet.mem_union.mpr (.inr hk)
      exact absurd hmem (SortedSet.isEmpty_iff.mp hne k)

theorem hold_callFor (t' : Topic) (keys : Option KeySet) (o : String) (before : Option KeySet) :
    (Errand.callFor t' keys).hold o before = if t'.object = o then keys else before := by
  cases keys <;> rfl

/-- An adapter that accepts watches what it was asked to. -/
theorem fits_request (htidy : Tidy t p g) (e : Errand) (ht : e.topic = t) (hp : e.protocol = p)
    {keys : Option KeySet}
    (hok : (g.request e.topic e.protocol (Errand.callFor e.topic keys)).2.isOk = true)
    (hquiet : (g.request e.topic e.protocol (Errand.callFor e.topic keys)).1.bus.departed.length =
      g.bus.departed.length) (h : Fits exactly t p g e (.asking keys)) :
    Fits exactly t p (g.request e.topic e.protocol (Errand.callFor e.topic keys)).1 e .pointed := by
  have hs := Gateway.steady_request g e.topic e.protocol (Errand.callFor e.topic keys)
  have hwanted := Gateway.wanted_congr (fun id i => asks_iff_of_quiet hs.bus hquiet id t i)
    (by rw [hs.tracked])
  have hheld : (g.request e.topic e.protocol (Errand.callFor e.topic keys)).1.heldOn t p = keys := by
    rw [Gateway.heldOn_request htidy.routed, if_pos ⟨by rw [ht], hp.symm, hok⟩, hold_callFor, ht,
      if_pos rfl]
  simp only [Fits, hwanted, hheld] at h ⊢
  exact h

/-- A recording takes in what is wanted anyway. -/
theorem fits_conclude (e : Errand) (ht : e.topic = t) (h : Fits exactly t p g e .pointed) :
    Fits exactly t p (e.conclude g) e .finished := by
  obtain ⟨hkeys, hmeets⟩ := h
  cases e with
  | subscribe id t' p' keys =>
    have hwanted : ((Errand.subscribe id t' p' keys).conclude g).wanted t = g.wanted t :=
      Gateway.wanted_track fun _ => hkeys
    show Meets exactly _ _
    rw [hwanted]
    exact hmeets
  | unsubscribe id t' p' => exact hmeets
  | release t' p' => exact hmeets

/-- A step of an errand under its lock. -/
theorem Fits.step (htidy : Tidy t p g) {e : Errand} (ht : e.topic = t) (hp : e.protocol = p)
    (htracking : exactly → ∀ i, g.recorder.tracked.get? t = some i → i.sensors.isEmpty = false)
    {st : Stage}
    (hok : ∀ keys, st = .asking keys →
      (g.request e.topic e.protocol (Errand.callFor e.topic keys)).2.isOk = true)
    (hquiet : (e.step g st).1.bus.departed.length = g.bus.departed.length)
    (h : Fits exactly t p g e st) : Fits exactly t p (e.step g st).1 e (e.step g st).2 := by
  cases st with
  | entered => exact fits_enter e ht h
  | changed => exact fits_inform htidy e ht hp htracking h
  | informed recorded =>
    show Fits exactly t p g e (Errand.demanding (g.bus.sensorsOn e.topic) recorded)
    rw [ht]
    exact fits_demanding e h
  | asking keys => exact fits_request htidy e ht hp (hok keys rfl) hquiet h
  | pointed => exact fits_conclude e ht h
  | finished => exact h

/-- What is done under the lock of one topic does not matter to the others. -/
theorem alike_step_of_ne (hg : g.WellRouted) {e : Errand} (hne : e.topic ≠ t) (st : Stage)
    (hquiet : (e.step g st).1.bus.departed.length = g.bus.departed.length) :
    Alike t p g (e.step g st).1 := by
  cases st with
  | entered =>
    show Alike t p g (e.enter g).1
    unfold Errand.enter
    split
    · exact .refl
    · next id o _ =>
      split
      · exact .refl
      · next b hb =>
        refine .of_asks (fun id' i => ?_) rfl rfl
        rw [Bus.asks_restore hb, if_neg fun hc => hne hc.2.symm]
  | asking keys =>
    refine .of_steady (Gateway.steady_request g _ _ _) hquiet ?_
    rw [Errand.step, Gateway.heldOn_request hg]
    split
    · next hsame =>
      -- the adapter is the same, so the objects differ
      rw [hold_callFor, if_neg]
      intro hobject
      have htopic : e.topic = t := by
        cases ht : e.topic
        cases t
        simp_all
      exact hne htopic
    · rfl
  | pointed =>
    cases e with
    | subscribe id t' p' keys =>
      exact ⟨rfl, Gateway.wanted_track fun ht => absurd ht.symm hne, rfl⟩
    | unsubscribe id t' p' => exact .refl
    | release t' p' => exact .refl
  | _ => exact .refl

/-! ## The invariant -/

/-- A release of a topic is still to come; or the adapter watches what is wanted there while nobody
holds the lock, and whoever holds it has come as far as its stage says. -/
structure Settling (exactly : Prop) (t : Topic) (p : Protocol) (s : State) : Prop where
  orderly : Orderly t p s
  tracking : exactly → ∀ i, s.gateway.recorder.tracked.get? t = some i → i.sensors.isEmpty = false
  settled : s.Awaits (.release t p) ∨
    ((∀ n e st, s.Works n e st → e.topic ≠ t) →
      Meets exactly (s.gateway.wanted t) (s.gateway.heldOn t p)) ∧
    ∀ n e st, s.Works n e st → e.topic = t → Fits exactly t p s.gateway e st

variable {s s' : State}

/-- What changes nothing on a topic, and nothing about who holds its lock. -/
theorem Settling.alike (h : Settling exactly t p s) (horderly : Orderly t p s')
    (htracking : exactly → ∀ i, s'.gateway.recorder.tracked.get? t = some i →
      i.sensors.isEmpty = false)
    (ha : Alike t p s.gateway s'.gateway)
    (hworks : ∀ n e st, e.topic = t → (s'.Works n e st ↔ s.Works n e st))
    (hawaits : s.Awaits (.release t p) → s'.Awaits (.release t p)) : Settling exactly t p s' := by
  refine ⟨horderly, htracking, h.settled.imp hawaits ?_⟩
  rintro ⟨hfree, hheld⟩
  refine ⟨?_, ?_⟩
  · intro hnobody
    rw [ha.wanted, ha.held]
    exact hfree fun n e st hw ht => hnobody n e st ((hworks n e st ht).mpr hw) ht
  · intro n e st hw ht
    exact (hheld n e st ((hworks n e st ht).mp hw) ht).alike ha

/-- What the recorder is to begin with in a step. -/
def State.snapshot? (s : State) : Step → Option (SortedMap Topic Interest)
  | .advance n => s.tasks[n]?.bind Task.snapshot?
  | _ => none

/-- A recording that begins on a topic begins with sensors that are still asked for. -/
def State.StillAsked (t : Topic) (s : State) (step : Step) : Prop :=
  ∀ seen ∈ s.snapshot? step, s.gateway.recorder.isRecording = false →
    ∀ i ∈ seen.get? t, ∀ k ∈ i.sensors.toList, k ∈ s.gateway.bus.sensorsOn t

instance (t : Topic) (s : State) (step : Step) : Decidable (s.StillAsked t step) :=
  inferInstanceAs (Decidable (∀ seen ∈ s.snapshot? step, s.gateway.recorder.isRecording = false →
    ∀ i ∈ seen.get? t, ∀ k ∈ i.sensors.toList, k ∈ s.gateway.bus.sensorsOn t))

/-- A recording that begins on a topic begins with some sensor. -/
def State.Substantial (t : Topic) (s : State) (step : Step) : Prop :=
  ∀ seen ∈ s.snapshot? step, ∀ i ∈ seen.get? t, i.sensors.isEmpty = false

theorem State.snapshot?_advance {n : Nat} (hx : s.tasks[n]? = some x) :
    s.snapshot? (.advance n) = x.snapshot? := congrArg (·.bind Task.snapshot?) hx

/-- A recording that begins with sensors that are still asked for changes nothing. -/
theorem alike_begin (htidy : Tidy t p g) {seen : SortedMap Topic Interest} {r : Recorder}
    (hr : g.recorder.start? g.clock.wall seen = some r)
    (hstill : ∀ i, seen.get? t = some i → ∀ k ∈ i.sensors, k ∈ g.bus.sensorsOn t) :
    Alike t p g { g with recorder := r } := by
  obtain ⟨hidle, -, htracked⟩ := Recorder.start?_eq_some hr
  have hbefore : g.recorder.tracked.get? t = none := by rw [htidy.sound.idle hidle]; rfl
  refine ⟨rfl, SortedSet.ext fun k => ?_, rfl⟩
  simp only [Gateway.mem_wanted, htracked, hbefore]
  constructor
  · rintro (hk | ⟨i, hi, hk⟩)
    · exact .inl hk
    · exact .inl (hstill i hi k hk)
  · rintro (hk | ⟨i, hi, -⟩)
    · exact .inl hk
    · cases hi

/-- Tracking more sensors leaves no topic tracked without any. -/
theorem tracking_conclude (e : Errand)
    (h : ∀ i, g.recorder.tracked.get? t = some i → i.sensors.isEmpty = false) :
    ∀ i, (e.conclude g).recorder.tracked.get? t = some i → i.sensors.isEmpty = false := by
  intro i hi
  cases e with
  | subscribe id t' p' keys =>
    change (g.recorder.track t' p' keys).1.tracked.get? t = some i at hi
    by_cases hidle : g.recorder.isRecording = false ∨ keys.isEmpty = true
    · rw [Recorder.track_of_not hidle] at hi
      exact h i hi
    obtain ⟨hrec, hne⟩ : g.recorder.isRecording = true ∧ keys.isEmpty = false := by
      simpa using hidle
    rw [Recorder.get?_track hrec hne] at hi
    split at hi
    · obtain rfl := Option.some.inj hi
      obtain ⟨k, hk⟩ := SortedSet.isEmpty_eq_false_iff.mp hne
      exact SortedSet.isEmpty_eq_false_iff.mpr ⟨k, SortedSet.mem_union.mpr (.inr hk)⟩
    · exact h i hi
  | unsubscribe id t' p' => exact h i hi
  | release t' p' => exact h i hi

theorem tracking_move {x x' : Task} (hmove : Task.Move g x g' x')
    (h : ∀ i, g.recorder.tracked.get? t = some i → i.sensors.isEmpty = false)
    (hfull : ∀ seen, x.snapshot? = some seen → ∀ i, seen.get? t = some i →
      i.sensors.isEmpty = false) :
    ∀ i, g'.recorder.tracked.get? t = some i → i.sensors.isEmpty = false := by
  cases hmove with
  | take => exact h
  | drop => exact h
  | @work e st _ _ =>
    -- of an errand, only the last stage before its end tracks anything
    cases st with
    | entered =>
      show ∀ i, (e.enter g).1.recorder.tracked.get? t = some i → _
      unfold Errand.enter
      split
      · exact h
      · split <;> exact h
    | asking keys =>
      intro i hi
      exact h i ((Gateway.steady_request g _ _ _).tracked ▸ hi)
    | pointed => exact tracking_conclude e h
    | _ => exact h
  | look => exact h
  | begin hr =>
    intro i hi
    obtain ⟨-, -, htracked⟩ := Recorder.start?_eq_some hr
    exact hfull _ rfl i (htracked ▸ hi)
  | rest _ _ _ hcalm =>
    intro i hi
    exact h i (hcalm.tracked ▸ hi)

/-! ## Every step keeps it -/

/-- How an errand begins: a release has nothing to rely on. -/
theorem fits_first (e : Errand)
    (h : e = .release t p ∨ Meets exactly (g.wanted t) (g.heldOn t p)) :
    Fits exactly t p g e e.first := by
  unfold Errand.first
  split
  · next hchange =>
    rcases h with rfl | hmeets
    · cases hchange
    · exact hmeets
  · next hchange =>
    have hnone : e.change? = none := by simpa using hchange
    intro k hk
    rw [Errand.keys_eq_empty (by simp [hnone])] at hk
    exact absurd hk SortedSet.not_mem_empty

section

variable {x x' : Task} {n : Nat}

/-- A step of the task that holds the lock of a topic, before or after. -/
theorem settling_turn (horderly : Orderly t p ⟨g', s.tasks.set n x'⟩)
    (htracking : exactly → ∀ i, g'.recorder.tracked.get? t = some i → i.sensors.isEmpty = false)
    (hx : s.tasks[n]? = some x) (halone : ∀ m e st, m ≠ n → s.Works m e st → e.topic ≠ t)
    (hsettled : (State.mk g' (s.tasks.set n x')).Awaits (.release t p) ∨
      ((∀ e st, x'.current = some (e, st) → e.topic ≠ t) →
        Meets exactly (g'.wanted t) (g'.heldOn t p)) ∧
      ∀ e st, x'.current = some (e, st) → e.topic = t → Fits exactly t p g' e st) :
    Settling exactly t p ⟨g', s.tasks.set n x'⟩ := by
  refine ⟨horderly, htracking, hsettled.imp_right ?_⟩
  rintro ⟨hfree, hfits⟩
  refine ⟨?_, ?_⟩
  · intro hnobody
    exact hfree fun e st hc => hnobody n e st ((State.works_turn hx).mpr (.inl ⟨rfl, hc⟩))
  · intro m e st hw ht
    rcases (State.works_turn hx).mp hw with ⟨-, hc⟩ | ⟨hm, hw⟩
    · exact hfits e st hc ht
    · exact absurd ht (halone m e st hm hw)

/-- A step of a task that holds another lock, or none. -/
theorem Settling.aside (h : Settling exactly t p s) (horderly : Orderly t p ⟨g', s.tasks.set n x'⟩)
    (htracking : exactly → ∀ i, g'.recorder.tracked.get? t = some i → i.sensors.isEmpty = false)
    (hx : s.tasks[n]? = some x) (ha : Alike t p s.gateway g')
    (hawaits : .release t p ∈ x.ahead → .release t p ∈ x'.ahead)
    (hbefore : ∀ e st, x.current = some (e, st) → e.topic ≠ t)
    (hafter : ∀ e st, x'.current = some (e, st) → e.topic ≠ t) :
    Settling exactly t p ⟨g', s.tasks.set n x'⟩ := by
  refine h.alike horderly htracking ha ?_ fun hdue => hdue.turn hx hawaits
  intro m e st ht
  rw [State.works_turn hx]
  constructor
  · rintro (⟨-, hc⟩ | ⟨-, hw⟩)
    · exact absurd ht (hafter e st hc)
    · exact hw
  · intro hw
    refine .inr ⟨?_, hw⟩
    rintro rfl
    obtain ⟨y, hy, hc⟩ := hw
    obtain rfl := Option.some.inj (hy.symm.trans hx)
    exact hbefore e st hc ht

/-- Who holds the lock of a topic is alone there. -/
theorem Orderly.alone (h : Orderly t p s) {e : Errand} {st : Stage} (hw : s.Works n e st)
    (ht : e.topic = t) (m : Nat) (d : Errand) (st' : Stage) (hm : m ≠ n) (hd : s.Works m d st') :
    d.topic ≠ t :=
  fun hdt => hm (h.exclusive m n d e st' st hd hw (hdt.trans ht.symm))

theorem Settling.take (h : Settling exactly t p s) {e : Errand} {ahead : List Errand} {a : Bool}
    (horderly : Orderly t p ⟨s.gateway, s.tasks.set n (.round ahead (some (e, e.first)) a)⟩)
    (hx : s.tasks[n]? = some (.round (e :: ahead) none a)) (hfree : s.isLocked e.topic = false) :
    Settling exactly t p ⟨s.gateway, s.tasks.set n (.round ahead (some (e, e.first)) a)⟩ := by
  have hawaits (hne : e ≠ .release t p) (hmem : .release t p ∈ e :: ahead) :
      .release t p ∈ ahead := by
    rcases List.mem_cons.mp hmem with he | hmem
    · exact absurd he.symm hne
    · exact hmem
  by_cases ht : e.topic = t
  · -- the lock was free, so nobody was at work on the topic
    have hnobody (m : Nat) (d : Errand) (st : Stage) (hw : s.Works m d st) : d.topic ≠ t := by
      intro hd
      have hlocked := hw.isLocked
      rw [hd, ← ht, hfree] at hlocked
      cases hlocked
    refine settling_turn horderly h.tracking hx (fun m d st _ => hnobody m d st) ?_
    -- the release that was due may be this one; whatever it is, its lock is held now
    have hheld (hfirst : e = .release t p ∨
        Meets exactly (s.gateway.wanted t) (s.gateway.heldOn t p)) :
        ((∀ d st, some (e, e.first) = some (d, st) → d.topic ≠ t) →
          Meets exactly (s.gateway.wanted t) (s.gateway.heldOn t p)) ∧
        ∀ d st, some (e, e.first) = some (d, st) → d.topic = t →
          Fits exactly t p s.gateway d st := by
      refine ⟨fun hnone => absurd ht (hnone e e.first rfl), ?_⟩
      intro d st hc _
      obtain ⟨rfl, rfl⟩ := Prod.mk.inj (Option.some.inj hc)
      exact fits_first e hfirst
    by_cases hrelease : e = .release t p
    · exact .inr (hheld (.inl hrelease))
    · rcases h.settled with hdue | ⟨hmeets, -⟩
      · exact .inl (hdue.turn hx (hawaits hrelease))
      · exact .inr (hheld (.inr (hmeets fun m d st hw => hnobody m d st hw)))
  · -- another lock is taken; a release of this topic still waits
    refine h.aside horderly h.tracking hx .refl (hawaits ?_) (fun _ _ hc => (nomatch hc)) ?_
    · rintro rfl
      exact ht rfl
    · intro d st hc
      obtain ⟨rfl, -⟩ := Prod.mk.inj (Option.some.inj hc)
      exact ht

theorem Settling.drop (h : Settling exactly t p s) {e : Errand} {ahead : List Errand} {a : Bool}
    (horderly : Orderly t p ⟨s.gateway, s.tasks.set n (.round ahead none a)⟩)
    (hx : s.tasks[n]? = some (.round ahead (some (e, .finished)) a)) :
    Settling exactly t p ⟨s.gateway, s.tasks.set n (.round ahead none a)⟩ := by
  have hw : s.Works n e .finished := ⟨_, hx, rfl⟩
  by_cases ht : e.topic = t
  · refine settling_turn horderly h.tracking hx (h.orderly.alone hw ht) ?_
    refine h.settled.imp (fun hdue => hdue.turn hx id) ?_
    rintro ⟨-, hfits⟩
    -- what the last stage says is what has to hold while nobody holds the lock
    exact ⟨fun _ => hfits n e .finished hw ht, fun _ _ hc => (nomatch hc)⟩
  · refine h.aside horderly h.tracking hx .refl id ?_ fun _ _ hc => (nomatch hc)
    intro d st hc
    obtain ⟨rfl, -⟩ := Prod.mk.inj (Option.some.inj hc)
    exact ht

theorem Settling.work (h : Settling exactly t p s) {e : Errand} {st : Stage} {ahead : List Errand}
    {a : Bool}
    (horderly : Orderly t p ⟨(e.step s.gateway st).1,
      s.tasks.set n (.round ahead (some (e, (e.step s.gateway st).2)) a)⟩)
    (htracking : exactly → ∀ i, (e.step s.gateway st).1.recorder.tracked.get? t = some i →
      i.sensors.isEmpty = false)
    (hx : s.tasks[n]? = some (.round ahead (some (e, st)) a))
    (haccepts : s.Accepts (.round ahead (some (e, st)) a))
    (hquiet : (e.step s.gateway st).1.bus.departed.length = s.gateway.bus.departed.length) :
    Settling exactly t p ⟨(e.step s.gateway st).1,
      s.tasks.set n (.round ahead (some (e, (e.step s.gateway st).2)) a)⟩ := by
  have hw : s.Works n e st := ⟨_, hx, rfl⟩
  by_cases ht : e.topic = t
  · have hp : e.protocol = p :=
      ((h.orderly.proper _ (List.mem_of_getElem? hx)).current e st rfl).family ht
    refine settling_turn horderly htracking hx (h.orderly.alone hw ht) ?_
    refine h.settled.imp (fun hdue => hdue.turn hx id) ?_
    rintro ⟨-, hfits⟩
    refine ⟨fun hnone => absurd ht (hnone e _ rfl), ?_⟩
    intro d st' hc _
    obtain ⟨rfl, rfl⟩ := Prod.mk.inj (Option.some.inj hc)
    refine (hfits n e st hw ht).step h.orderly.tidy ht hp h.tracking ?_ hquiet
    rintro keys rfl
    exact haccepts (e, keys) rfl
  · have hother (d : Errand) (st' st'' : Stage) (hc : some (e, st') = some (d, st'')) :
        d.topic ≠ t := by
      obtain ⟨rfl, -⟩ := Prod.mk.inj (Option.some.inj hc)
      exact ht
    exact h.aside horderly htracking hx (alike_step_of_ne h.orderly.tidy.routed ht st hquiet) id
      (fun d st' hc => hother d st st' hc) fun d st' hc => hother d _ st' hc

theorem Settling.advance (h : Settling exactly t p s)
    (horderly : Orderly t p (s.next (.advance n))) (hx : s.tasks[n]? = some x)
    (hcan : s.Unblocked x ∧ s.Accepts x) (hquiet : s.Quiet (.advance n))
    (hstill : s.StillAsked t (.advance n)) (hfull : exactly → s.Substantial t (.advance n)) :
    Settling exactly t p (s.next (.advance n)) := by
  have hmove := x.move s.gateway
  have htracking : exactly → ∀ i, (x.step s.gateway).1.recorder.tracked.get? t = some i →
      i.sensors.isEmpty = false := fun he =>
    tracking_move hmove (h.tracking he) fun seen hseen =>
      hfull he seen ((State.snapshot?_advance hx).trans hseen)
  have hsame : (s.next (.advance n)).gateway.bus.departed.length =
      s.gateway.bus.departed.length := hquiet
  rw [State.next_advance hx] at horderly hsame ⊢
  generalize (x.step s.gateway).1 = g' at *
  generalize (x.step s.gateway).2 = x' at *
  cases hmove with
  | take => exact h.take horderly hx (hcan.1 _ rfl)
  | drop => exact h.drop horderly hx
  | work => exact h.work horderly htracking hx hcan.2 hsame
  | look =>
    exact h.aside horderly htracking hx .refl id (fun _ _ hc => (nomatch hc))
      fun _ _ hc => (nomatch hc)
  | begin hr =>
    -- no lock is held here: this is where a recording could upset what was settled
    have hasked := hstill _ (State.snapshot?_advance hx) (Recorder.start?_eq_some hr).1
    exact h.aside horderly htracking hx (alike_begin h.orderly.tidy hr hasked) id
      (fun _ _ hc => (nomatch hc)) fun _ _ hc => (nomatch hc)
  | rest hahead hcurrent hbare hcalm =>
    refine h.aside horderly htracking hx (.of_steady hcalm.toSteady hsame (hcalm.heldOn t p)) ?_ ?_ ?_
    · intro hmem
      rw [hahead] at hmem
      cases hmem
    · intro e st hc
      rw [hcurrent] at hc
      cases hc
    · intro e st hc
      cases hbare <;> cases hc

end

/-- A new task that holds no lock. -/
theorem Settling.spawn {x : Task} (h : Settling exactly t p s) (horderly : Orderly t p (s.spawn x))
    (hcurrent : x.current = none) : Settling exactly t p (s.spawn x) :=
  h.alike horderly h.tracking .refl (fun _ _ _ _ => State.works_spawn hcurrent)
    fun hdue => State.awaits_spawn.mpr (.inl hdue)

/-- Another gateway that is alike on the topic. -/
theorem Settling.withGateway (h : Settling exactly t p s) (horderly : Orderly t p { s with gateway := g })
    (htracking : exactly → ∀ i, g.recorder.tracked.get? t = some i → i.sensors.isEmpty = false)
    (ha : Alike t p s.gateway g) : Settling exactly t p { s with gateway := g } :=
  h.alike horderly htracking ha (fun _ _ _ _ => Iff.rfl) id

theorem mem_releases {topics : List (Topic × Protocol)} {a : Bool} (h : (t, p) ∈ topics) :
    .release t p ∈ (Task.releases topics a).ahead := List.mem_map.mpr ⟨(t, p), h, rfl⟩

/-- A session that is closed leaves a release of every topic that it asked for. -/
theorem Settling.closeSession (h : Settling exactly t p s) (id : SessionId)
    (horderly : Orderly t p (s.next (.closeSession id))) :
    Settling exactly t p (s.next (.closeSession id)) := by
  by_cases hasks : ∃ i, s.gateway.bus.Asks id t i
  · -- too much is watched now, but the release is among the errands of the new task
    obtain ⟨i, ha⟩ := hasks
    have hleft := Bus.mem_topics_of_asks h.orderly.tidy.sound.distinct ha
    rw [(h.orderly.tidy.asked ha).1] at hleft
    have hnext : s.next (.closeSession id) =
        State.spawn { s with gateway := (s.gateway.closeSession id).1 }
          (.releases (s.gateway.closeSession id).2 false) := by
      have hne : (s.gateway.closeSession id).2.isEmpty = false :=
        List.isEmpty_eq_false_iff_exists_mem.mpr ⟨_, hleft⟩
      simp [State.next, hne]
    rw [hnext] at horderly ⊢
    exact ⟨horderly, h.tracking, .inl (State.awaits_spawn.mpr (.inr (mem_releases hleft)))⟩
  · -- nobody is missed on the topic
    have hnone : ∀ i, ¬ s.gateway.bus.Asks id t i := fun i ha => hasks ⟨i, ha⟩
    have ha : Alike t p s.gateway (s.gateway.closeSession id).1 :=
      .of_asks (fun _ _ => Bus.asks_close_of_none hnone) rfl rfl
    have hclosed : Orderly t p { s with gateway := (s.gateway.closeSession id).1 } :=
      h.orderly.withGateway (h.orderly.tidy.closeSession id) rfl
    have hsettled := h.withGateway hclosed h.tracking ha
    simp only [State.next] at horderly ⊢
    split
    · exact hsettled
    · next hne =>
      rw [if_neg hne] at horderly
      exact hsettled.spawn horderly rfl

/-- A recorder that stops leaves a release of every topic that it tracked. -/
theorem Settling.stopRecording (h : Settling exactly t p s)
    (horderly : Orderly t p (s.next .stopRecording)) :
    Settling exactly t p (s.next .stopRecording) := by
  cases hr : s.gateway.recorder.stop? s.gateway.clock.wall with
  | none =>
    simp only [State.next, hr]
    exact h
  | some c =>
    obtain ⟨r, tracked⟩ := c
    obtain ⟨-, hempty, rfl⟩ := Recorder.stop?_eq_some hr
    have hnone : r.tracked.get? t = none := by rw [hempty]; rfl
    have htracking : exactly → ∀ i, r.tracked.get? t = some i → i.sensors.isEmpty = false := by
      intro _ i hi
      rw [hnone] at hi
      cases hi
    have hstopped : Orderly t p { s with gateway := { s.gateway with recorder := r } } :=
      h.orderly.withGateway (h.orderly.tidy.stop hr) rfl
    simp only [State.next, hr] at horderly ⊢
    cases hbefore : s.gateway.recorder.tracked.get? t with
    | some i =>
      refine ⟨horderly, htracking, .inl (State.awaits_spawn.mpr (.inr (mem_releases ?_)))⟩
      refine List.mem_map.mpr ⟨(t, i), SortedMap.mem_toList_iff.mpr hbefore, ?_⟩
      rw [← (h.orderly.tidy.tracked hbefore).1]
    | none =>
      have ha : Alike t p s.gateway { s.gateway with recorder := r } :=
        .of_asks (fun _ _ => Iff.rfl) (hnone.trans hbefore.symm) rfl
      exact (h.withGateway hstopped htracking ha).spawn horderly rfl

/-- Whatever happens, the topic is in order or will be, as long as a recording begins with sensors
that are still asked for. -/
theorem Settling.next (h : Settling exactly t p s) {step : Step} (hcan : s.Permits step)
    (hquiet : s.Quiet step) (hkeep : step.KeepsTo t p) (hstill : s.StillAsked t step)
    (hfull : exactly → s.Substantial t step) : Settling exactly t p (s.next step) := by
  have horderly := h.orderly.next hcan hkeep
  cases step with
  | openSession id =>
    have ha : Alike t p s.gateway (s.gateway.openSession id).1 :=
      .of_asks (fun _ _ => Bus.asks_register_of_new hcan) rfl rfl
    exact h.withGateway horderly h.tracking ha
  | subscribe id t' p' keys =>
    simp only [State.next] at horderly ⊢
    split
    · next hroute =>
      rw [if_pos hroute] at horderly
      exact h.spawn horderly rfl
    · exact h
  | unsubscribe id t' p' => exact h.spawn horderly rfl
  | closeSession id => exact h.closeSession id horderly
  | startRecording => exact h.spawn horderly rfl
  | stopRecording => exact h.stopRecording horderly
  | meanwhile op =>
    have hcalm := Op.calm_act hcan s.gateway
    refine h.withGateway horderly ?_ (.of_steady hcalm.toSteady hquiet (hcalm.heldOn t p))
    intro he i hi
    exact h.tracking he i (hcalm.tracked ▸ hi)
  | advance n =>
    cases hx : s.tasks[n]? with
    | none =>
      simp only [State.next, hx]
      exact h
    | some x => exact h.advance horderly hx (hcan x hx) hquiet hstill hfull

theorem settling_start (h : g.Fresh) : Settling exactly t p (State.start g) := by
  refine ⟨orderly_start h, fun _ i hi => absurd hi h.not_tracked, .inr ⟨?_, ?_⟩⟩
  · exact fun _ => meets_of_empty h.isEmpty_wanted fun _ => h.heldOn t p
  · rintro n e st ⟨x, hx, -⟩
    cases hx

/-- Once all calls have ended, nobody holds a lock, and nothing is still to come. -/
theorem Settling.meets (h : Settling exactly t p s) (hended : ∀ x ∈ s.tasks, x = .ended) :
    Meets exactly (s.gateway.wanted t) (s.gateway.heldOn t p) := by
  rcases h.settled with ⟨n, x, hx, hmem⟩ | ⟨hmeets, -⟩
  · rw [hended x (List.mem_of_getElem? hx)] at hmem
    cases hmem
  · refine hmeets ?_
    rintro n e st ⟨x, hx, hc⟩
    rw [hended x (List.mem_of_getElem? hx)] at hc
    cases hc

end SensorGateway.Overlap
