/-
# SensorGateway.Proofs.Overlap.Order -- what overlapping calls keep in order

However calls overlap, no two of them hold the lock of one topic (`locks_exclude`), and
some call can always go on unless all have ended (`exists_unblocked`): a call that waits
for a lock holds none. On a topic that is used under one family, whatever is on its way
there is under that family. All this is `Orderly`, and everything that can happen keeps it.

What one step of a task can do is said once (`Task.Move`); whoever reasons about steps goes
through these cases and not through the definitions.
-/
import SensorGateway.Proofs.Gateway.Exactness
import SensorGateway.Proofs.Overlap.Steps

namespace SensorGateway.Overlap

open Gateway (Steady Calm Sound)

/-! ## What one step can do -/

/-- A task that has no errands any more and reads nothing. -/
inductive Task.Bare : Task → Prop where
  | started : Bare .started
  | capture {ahead} : Bare (.capture ahead)
  | announce : Bare .announce
  | ended : Bare .ended

/-- What one step of a task makes of a gateway and of the task. -/
inductive Task.Move (g : Gateway) : Task → Gateway → Task → Prop where
  /-- A lock is taken. -/
  | take {e ahead a} : Move g (.round (e :: ahead) none a) g (.round ahead (some (e, e.first)) a)
  /-- A lock is dropped. -/
  | drop {e ahead a} : Move g (.round ahead (some (e, .finished)) a) g (.round ahead none a)
  /-- An errand goes on under its lock. -/
  | work {e st ahead a} : Move g (.round ahead (some (e, st)) a) (e.step g st).1
      (.round ahead (some (e, (e.step g st).2)) a)
  /-- The sensors of an active topic are read. -/
  | look {t p ahead seen} : Move g (.survey ((t, p) :: ahead) seen) g
      (.survey ahead (seen.insert t ⟨p, g.bus.sensorsOn t⟩))
  /-- The recorder begins. -/
  | begin {seen r} (hr : g.recorder.start? g.clock.wall seen = some r) :
      Move g (.survey [] seen) { g with recorder := r } .started
  /-- Nobody's interest changes. -/
  | rest {x g' x'} (hahead : x.ahead = []) (hcurrent : x.current = none) (hbare : x'.Bare)
      (hcalm : Calm g g') : Move g x g' x'

theorem Task.move (g : Gateway) (x : Task) : Move g x (x.step g).1 (x.step g).2 := by
  cases x with
  | round ahead current a =>
    cases current with
    | some c =>
      obtain ⟨e, st⟩ := c
      cases st with
      | finished => exact .drop
      | _ => exact .work
    | none =>
      cases ahead with
      | cons e ahead => exact .take
      | nil => cases a <;> exact .rest rfl rfl (by constructor) (.refl g)
  | survey ahead seen =>
    cases ahead with
    | cons e ahead => exact .look
    | nil =>
      show Move g _ (begin g seen).1 (begin g seen).2
      unfold begin
      split
      · exact .rest rfl rfl .ended (.refl g)
      · next r hr => exact .begin hr
  | started => exact .rest rfl rfl .capture (.refl g)
  | capture ahead =>
    cases ahead with
    | nil => exact .rest rfl rfl .announce (.refl g)
    | cons e ahead =>
      exact .rest rfl rfl .capture
        (Gateway.calm_request (Gateway.not_points_forceEmit e.1.object) e.1 e.2.protocol)
  | announce => exact .rest rfl rfl .ended g.calm_announceRecording
  | ended => exact .rest rfl rfl .ended (.refl g)

/-! ## Who holds a lock, and who waits for one -/

namespace State

variable {s : State} {x x' : Task} {g : Gateway} {n : Nat}

/-- A task does an errand under its lock, and has come this far. -/
def Works (s : State) (n : Nat) (e : Errand) (st : Stage) : Prop :=
  ∃ x, s.tasks[n]? = some x ∧ x.current = some (e, st)

/-- An errand of some task waits for its lock. -/
def Awaits (s : State) (e : Errand) : Prop :=
  ∃ (n : Nat) (x : Task), s.tasks[n]? = some x ∧ e ∈ x.ahead

theorem next_advance (hx : s.tasks[n]? = some x) :
    s.next (.advance n) = ⟨(x.step s.gateway).1, s.tasks.set n (x.step s.gateway).2⟩ := by
  simp only [next, hx]

/-- A new task is the last one. -/
theorem getElem?_spawn {y : Task} {m : Nat} :
    (s.spawn y).tasks[m]? = some x ↔ s.tasks[m]? = some x ∨ (m = s.tasks.length ∧ x = y) := by
  show (s.tasks ++ [y])[m]? = some x ↔ _
  rcases Nat.lt_trichotomy m s.tasks.length with h | h | h
  · simp [List.getElem?_append_left h, Nat.ne_of_lt h]
  · subst h
    simp [eq_comm]
  · have hone : ¬ m - s.tasks.length = 0 := by omega
    simp [List.getElem?_append_right (Nat.le_of_lt h), List.getElem?_eq_none (Nat.le_of_lt h),
      Nat.ne_of_gt h, hone]

/-- One task has gone on; all others are where they were. -/
theorem getElem?_turn {y : Task} {m : Nat} (hx : s.tasks[n]? = some x) :
    (s.tasks.set n x')[m]? = some y ↔ (m = n ∧ y = x') ∨ (m ≠ n ∧ s.tasks[m]? = some y) := by
  have hlt : n < s.tasks.length := (List.getElem?_eq_some_iff.mp hx).1
  by_cases hm : m = n
  · subst hm
    simp [List.getElem?_set_self hlt, eq_comm]
  · simp [List.getElem?_set_ne (Ne.symm hm), hm]

theorem works_spawn {m : Nat} {e : Errand} {st : Stage} (hx : x.current = none) :
    (s.spawn x).Works m e st ↔ s.Works m e st := by
  unfold Works
  simp only [getElem?_spawn]
  constructor
  · rintro ⟨y, hy | ⟨-, rfl⟩, hc⟩
    · exact ⟨y, hy, hc⟩
    · rw [hx] at hc
      cases hc
  · rintro ⟨y, hy, hc⟩
    exact ⟨y, .inl hy, hc⟩

theorem awaits_spawn {e : Errand} : (s.spawn x).Awaits e ↔ s.Awaits e ∨ e ∈ x.ahead := by
  unfold Awaits
  simp only [getElem?_spawn]
  constructor
  · rintro ⟨m, y, hy | ⟨-, rfl⟩, he⟩
    · exact .inl ⟨m, y, hy, he⟩
    · exact .inr he
  · rintro (⟨m, y, hy, he⟩ | he)
    · exact ⟨m, y, .inl hy, he⟩
    · exact ⟨s.tasks.length, x, .inr ⟨rfl, rfl⟩, he⟩

theorem works_turn {m : Nat} {e : Errand} {st : Stage} (hx : s.tasks[n]? = some x) :
    (State.mk g (s.tasks.set n x')).Works m e st ↔
      (m = n ∧ x'.current = some (e, st)) ∨ (m ≠ n ∧ s.Works m e st) := by
  unfold Works
  simp only [getElem?_turn hx]
  constructor
  · rintro ⟨y, ⟨hm, rfl⟩ | ⟨hm, hy⟩, hc⟩
    · exact .inl ⟨hm, hc⟩
    · exact .inr ⟨hm, y, hy, hc⟩
  · rintro (⟨hm, hc⟩ | ⟨hm, y, hy, hc⟩)
    · exact ⟨x', .inl ⟨hm, rfl⟩, hc⟩
    · exact ⟨y, .inr ⟨hm, hy⟩, hc⟩

/-- While a task goes on, what it does not take up itself still waits. -/
theorem Awaits.turn {e : Errand} (h : s.Awaits e) (hx : s.tasks[n]? = some x)
    (hkeep : e ∈ x.ahead → e ∈ x'.ahead) : (State.mk g (s.tasks.set n x')).Awaits e := by
  obtain ⟨m, y, hy, he⟩ := h
  by_cases hm : m = n
  · subst hm
    obtain rfl := Option.some.inj (hy.symm.trans hx)
    exact ⟨m, x', (getElem?_turn hx).mpr (.inl ⟨rfl, rfl⟩), hkeep he⟩
  · exact ⟨m, y, (getElem?_turn hx).mpr (.inr ⟨hm, hy⟩), he⟩

theorem Works.isLocked {m : Nat} {e : Errand} {st : Stage} (h : s.Works m e st) :
    s.isLocked e.topic = true := by
  obtain ⟨x, hx, hc⟩ := h
  exact List.any_eq_true.mpr ⟨x, List.mem_of_getElem? hx, by simp [Task.holds, hc]⟩

/-! ## Locks exclude -/

/-- No two tasks hold the lock of one topic. -/
def Exclusive (s : State) : Prop :=
  ∀ m n d e st st', s.Works m d st → s.Works n e st' → d.topic = e.topic → m = n

theorem Exclusive.congr {s' : State} (h : s.Exclusive)
    (hworks : ∀ m e st, s'.Works m e st → s.Works m e st) : s'.Exclusive :=
  fun m n d e st st' hd he => h m n d e st st' (hworks m d st hd) (hworks n e st' he)

theorem Exclusive.spawn (h : s.Exclusive) (hx : x.current = none) : (s.spawn x).Exclusive :=
  h.congr fun _ _ _ hw => (works_spawn hx).mp hw

/-- What a task has in hand is what it had, or an errand whose lock it has just taken. -/
theorem current_of_move {g' : Gateway} {d : Errand} {st : Stage} (hmove : Task.Move g x g' x')
    (hd : x'.current = some (d, st)) :
    (∃ st', x.current = some (d, st')) ∨ (x.goal? = some d.topic ∧ x.current = none) := by
  cases hmove with
  | take =>
    obtain ⟨rfl, -⟩ := Prod.mk.inj (Option.some.inj hd)
    exact .inr ⟨rfl, rfl⟩
  | work =>
    obtain ⟨rfl, -⟩ := Prod.mk.inj (Option.some.inj hd)
    exact .inl ⟨_, rfl⟩
  | rest _ _ hbare _ => cases hbare <;> cases hd
  | _ => cases hd

theorem Exclusive.turn {g' : Gateway} (h : s.Exclusive) (hx : s.tasks[n]? = some x)
    (hmove : Task.Move s.gateway x g' x') (hfree : s.Unblocked x) :
    (State.mk g' (s.tasks.set n x')).Exclusive := by
  -- whoever holds another lock is somebody else, for the lock that is taken was free
  have hother {m : Nat} {d e : Errand} {st st' : Stage} (hm : m ≠ n)
      (hd : x'.current = some (d, st)) (he : s.Works m e st') : d.topic ≠ e.topic := by
    intro ht
    rcases current_of_move hmove hd with ⟨st₀, hold⟩ | ⟨hgoal, -⟩
    · exact hm (h m n e d st' st₀ he ⟨x, hx, hold⟩ ht.symm)
    · have hlocked := he.isLocked
      rw [← ht, hfree _ hgoal] at hlocked
      cases hlocked
  intro m k d e st st' hd he ht
  rw [works_turn hx] at hd he
  rcases hd with ⟨rfl, hd⟩ | ⟨hm, hd⟩
  · rcases he with ⟨rfl, -⟩ | ⟨hk, he⟩
    · rfl
    · exact absurd ht (hother hk hd he)
  · rcases he with ⟨rfl, he⟩ | ⟨hk, he⟩
    · exact absurd ht.symm (hother hm he hd)
    · exact h m k d e st st' hd he ht

theorem Exclusive.next {step : Step} (h : s.Exclusive) (hcan : s.Permits step) :
    (s.next step).Exclusive := by
  cases step with
  | openSession id => exact h
  | subscribe id t p keys =>
    simp only [State.next]
    split
    · exact h.spawn rfl
    · exact h
  | unsubscribe id t p => exact h.spawn rfl
  | closeSession id =>
    simp only [State.next]
    split
    · exact h
    · exact Exclusive.spawn (s := { s with gateway := (s.gateway.closeSession id).1 }) h rfl
  | startRecording => exact h.spawn rfl
  | stopRecording =>
    simp only [State.next]
    split
    · exact h
    · next r tracked hr =>
      exact Exclusive.spawn (s := { s with gateway := { s.gateway with recorder := r } }) h rfl
  | meanwhile op => exact h
  | advance n =>
    cases hx : s.tasks[n]? with
    | none =>
      simp only [State.next, hx]
      exact h
    | some x =>
      rw [next_advance hx]
      exact h.turn hx (x.move s.gateway) (hcan x hx).1

/-- Some task can go on, unless all have ended: who waits for a lock holds none. -/
theorem exists_unblocked (h : ∃ x ∈ s.tasks, x ≠ .ended) :
    ∃ x ∈ s.tasks, x ≠ .ended ∧ s.Unblocked x := by
  obtain ⟨x, hx, hne⟩ := h
  by_cases hfree : s.Unblocked x
  · exact ⟨x, hx, hne, hfree⟩
  -- the lock is not free, so another task holds it
  obtain ⟨t, -, hlocked⟩ : ∃ t, t ∈ x.goal? ∧ s.isLocked t = true := by
    simpa [Unblocked] using hfree
  obtain ⟨y, hy, hholds⟩ := List.any_eq_true.mp hlocked
  refine ⟨y, hy, ?_, ?_⟩
  · rintro rfl
    cases hholds
  · intro t' ht'
    cases y with
    | round ahead current a =>
      cases current with
      | none => cases hholds
      | some c => cases ahead <;> cases ht'
    | _ => cases hholds

end State

/-! ## One family, and nobody without an adapter -/

/-- There is an adapter for a topic and a family. -/
def Routed (g : Gateway) (t : Topic) (p : Protocol) : Prop :=
  (g.routes.get? ⟨t.server, p⟩).isSome = true

/-- An errand on a topic is under a family, and asks for something only where there is an
adapter. -/
structure Errand.Proper (routed : Prop) (t : Topic) (p : Protocol) (e : Errand) : Prop where
  family : e.topic = t → e.protocol = p
  served : ∀ id i, e.topic = t → e.change? = some (id, some i) → routed

/-- Everything that a task will do on a topic is under a family. -/
structure Task.Proper (routed : Prop) (t : Topic) (p : Protocol) (x : Task) : Prop where
  ahead : ∀ e ∈ x.ahead, e.Proper routed t p
  current : ∀ e st, x.current = some (e, st) → e.Proper routed t p
  survey : ∀ ahead seen, x = .survey ahead seen →
    (∀ q, (t, q) ∈ ahead → q = p ∧ routed) ∧ ∀ i, seen.get? t = some i → i.protocol = p ∧ routed

/-- Apart from its tasks, a topic is used under one family, and by nobody without an adapter. -/
structure Tidy (t : Topic) (p : Protocol) (g : Gateway) : Prop where
  routed : g.WellRouted
  faithful : g.Faithful
  sound : Sound [] g
  asked : ∀ {id i}, g.bus.Asks id t i → i.protocol = p ∧ i.sensors.isEmpty = false ∧ Routed g t p
  tracked : ∀ {i}, g.recorder.tracked.get? t = some i → i.protocol = p ∧ Routed g t p

variable {t : Topic} {p : Protocol} {g g' : Gateway} {routed : Prop}

theorem Tidy.steady (h : Tidy t p g) (hs : Steady g g') (hf : g'.Faithful) : Tidy t p g' where
  routed := hs.wellRouted h.routed
  faithful := hf
  sound := h.sound.steady hs
  asked ha := by
    unfold Routed
    rw [hs.routes]
    exact h.asked (Bus.asks_of_thins hs.bus ha)
  tracked hi := by
    unfold Routed
    rw [hs.routes]
    exact h.tracked (hs.tracked ▸ hi)

theorem Tidy.calm (h : Tidy t p g) (hc : Calm g g') : Tidy t p g' :=
  h.steady hc.toSteady (hc.faithful h.faithful)

theorem Tidy.openSession (h : Tidy t p g) {id : SessionId} (hnew : id ∉ g.bus.ids) :
    Tidy t p (g.openSession id).1 :=
  ⟨h.routed.of_same rfl rfl, h.faithful, h.sound.openSession hnew,
    fun ha => h.asked (Bus.asks_register.mp ha).2, h.tracked⟩

theorem Tidy.closeSession (h : Tidy t p g) (id : SessionId) : Tidy t p (g.closeSession id).1 :=
  h.steady (Gateway.steady_closeSession h.sound id) h.faithful

theorem Tidy.restore (h : Tidy t p g) {id : SessionId} {t' : Topic} {o : Option Interest}
    {b : Bus} (hb : g.bus.restore id t' o = .ok b)
    (ho : ∀ i, t' = t → o = some i → i.protocol = p ∧ i.sensors.isEmpty = false ∧ Routed g t p) :
    Tidy t p { g with bus := b } := by
  refine ⟨h.routed.of_same rfl rfl, h.faithful, h.sound.restore hb, ?_, h.tracked⟩
  intro id' i ha
  rw [Bus.asks_restore hb] at ha
  split at ha
  · next hsame => exact ho i hsame.2.symm ha
  · exact h.asked ha

theorem Tidy.track (h : Tidy t p g) {t' : Topic} {p' : Protocol} {keys : KeySet}
    (hkeep : t' = t → keys.isEmpty = false → p' = p ∧ Routed g t p) :
    Tidy t p { g with recorder := (g.recorder.track t' p' keys).1 } := by
  by_cases hidle : g.recorder.isRecording = false ∨ keys.isEmpty = true
  · rw [Recorder.track_of_not hidle]
    exact h
  obtain ⟨hrec, hne⟩ : g.recorder.isRecording = true ∧ keys.isEmpty = false := by
    simpa using hidle
  refine ⟨h.routed.of_same rfl rfl, h.faithful, ⟨h.sound.distinct, h.sound.gone, ?_⟩, h.asked, ?_⟩
  · intro hr
    rw [Recorder.isRecording_track, hrec] at hr
    cases hr
  · intro i hi
    rw [Recorder.get?_track hrec hne] at hi
    split at hi
    · next ht =>
      obtain rfl := Option.some.inj hi
      obtain ⟨hp, hroute⟩ := hkeep ht.symm hne
      refine ⟨?_, hroute⟩
      -- a topic that is tracked already keeps its family
      have hold := fun i => h.tracked (i := i)
      rw [ht] at hold
      cases hbefore : g.recorder.tracked.get? t' with
      | none => exact hp
      | some old => exact (hold old hbefore).1
    · exact h.tracked hi

theorem Tidy.begin (h : Tidy t p g) {seen : SortedMap Topic Interest} {r : Recorder}
    (hr : g.recorder.start? g.clock.wall seen = some r)
    (hseen : ∀ i, seen.get? t = some i → i.protocol = p ∧ Routed g t p) :
    Tidy t p { g with recorder := r } := by
  obtain ⟨-, hrec, htracked⟩ := Recorder.start?_eq_some hr
  refine ⟨h.routed.of_same rfl rfl, h.faithful, ⟨h.sound.distinct, h.sound.gone, ?_⟩, h.asked, ?_⟩
  · intro hidle
    rw [show r.isRecording = false from hidle] at hrec
    cases hrec
  · intro i hi
    exact hseen i (htracked ▸ hi)

theorem Tidy.stop (h : Tidy t p g) {r : Recorder} {tracked : SortedMap Topic Interest}
    (hr : g.recorder.stop? g.clock.wall = some (r, tracked)) :
    Tidy t p { g with recorder := r } := by
  obtain ⟨-, hempty, -⟩ := Recorder.stop?_eq_some hr
  refine ⟨h.routed.of_same rfl rfl, h.faithful, h.sound.stop hr, h.asked, ?_⟩
  intro i hi
  have hnone : r.tracked.get? t = none := by rw [hempty]; rfl
  rw [hnone] at hi
  cases hi

/-- What a session asks for after an errand is what the errand is for. -/
theorem Errand.change?_eq_some {e : Errand} {id : SessionId} {i : Interest}
    (h : e.change? = some (id, some i)) : i = ⟨e.protocol, e.keys⟩ ∧ e.keys.isEmpty = false := by
  cases e with
  | subscribe id' t' p' keys =>
    obtain ⟨-, hasked⟩ := Prod.mk.inj (Option.some.inj h)
    obtain ⟨hne, hi⟩ := Gateway.asked_eq_some hasked
    exact ⟨hi, hne⟩
  | unsubscribe id' t' p' => cases h
  | release t' p' => cases h

theorem Tidy.enter (h : Tidy t p g) {e : Errand} (he : e.Proper (Routed g t p) t p) :
    Tidy t p (e.enter g).1 := by
  unfold Errand.enter
  split
  · exact h
  · next id o hchange =>
    split
    · exact h
    · next b hb =>
      refine h.restore hb ?_
      rintro i ht rfl
      obtain ⟨rfl, hne⟩ := Errand.change?_eq_some hchange
      exact ⟨he.family ht, hne, he.served id _ ht hchange⟩

theorem Tidy.conclude (h : Tidy t p g) {e : Errand} (he : e.Proper (Routed g t p) t p) :
    Tidy t p (e.conclude g) := by
  cases e with
  | subscribe id t' p' keys =>
    refine h.track fun ht hne => ⟨he.family ht, he.served id ⟨p', keys⟩ ht ?_⟩
    simp [Errand.change?, Gateway.asked, hne]
  | unsubscribe id t' p' => exact h
  | release t' p' => exact h

theorem Tidy.work (h : Tidy t p g) {e : Errand} (he : e.Proper (Routed g t p) t p) (st : Stage) :
    Tidy t p (e.step g st).1 := by
  cases st with
  | entered => exact h.enter he
  | changed => exact h
  | informed recorded => exact h
  | asking keys =>
    exact h.steady (Gateway.steady_request g _ _ _) (Gateway.faithful_request h.faithful _ _ _)
  | pointed => exact h.conclude he
  | finished => exact h

theorem Tidy.move (h : Tidy t p g) {x x' : Task} (hx : x.Proper (Routed g t p) t p)
    (hmove : Task.Move g x g' x') : Tidy t p g' := by
  cases hmove with
  | take => exact h
  | drop => exact h
  | work => exact h.work (hx.current _ _ rfl) _
  | look => exact h
  | begin hr => exact h.begin hr (hx.survey _ _ rfl).2
  | rest _ _ _ hcalm => exact h.calm hcalm

theorem Errand.routes_step (g : Gateway) (e : Errand) (st : Stage) :
    (e.step g st).1.routes = g.routes := by
  cases st with
  | entered =>
    show (e.enter g).1.routes = g.routes
    unfold Errand.enter
    split
    · rfl
    · split <;> rfl
  | asking keys => exact (Gateway.steady_request g _ _ _).routes
  | pointed => cases e <;> rfl
  | _ => rfl

theorem Task.Move.routes {x x' : Task} (hmove : Task.Move g x g' x') : g'.routes = g.routes := by
  cases hmove with
  | work => exact Errand.routes_step g _ _
  | rest _ _ _ hcalm => exact hcalm.routes
  | _ => rfl

theorem Task.Bare.proper {x : Task} (h : x.Bare) : x.Proper routed t p := by
  cases h <;> exact ⟨fun _ he => (List.not_mem_nil he).elim, fun _ _ hc => (nomatch hc),
    fun _ _ hs => (nomatch hs)⟩

theorem Task.Proper.move {x x' : Task} (hx : x.Proper routed t p) (hmove : Task.Move g x g' x') :
    x'.Proper routed t p := by
  cases hmove with
  | take =>
    refine ⟨fun e he => hx.ahead e (List.mem_cons_of_mem _ he), ?_, fun _ _ hs => (nomatch hs)⟩
    intro e st hc
    obtain ⟨rfl, -⟩ := Prod.mk.inj (Option.some.inj hc)
    exact hx.ahead _ List.mem_cons_self
  | drop => exact ⟨hx.ahead, fun _ _ hc => (nomatch hc), fun _ _ hs => (nomatch hs)⟩
  | work =>
    refine ⟨hx.ahead, ?_, fun _ _ hs => (nomatch hs)⟩
    intro e' st' hc
    obtain ⟨rfl, -⟩ := Prod.mk.inj (Option.some.inj hc)
    exact hx.current _ _ rfl
  | look =>
    refine ⟨fun _ he => (List.not_mem_nil he).elim, fun _ _ hc => (nomatch hc), ?_⟩
    rintro ahead' seen' hs
    obtain ⟨rfl, rfl⟩ := Task.survey.inj hs
    obtain ⟨hlisted, hseen⟩ := hx.survey _ _ rfl
    refine ⟨fun q hq => hlisted q (List.mem_cons_of_mem _ hq), ?_⟩
    intro i hi
    rw [SortedMap.get?_insert] at hi
    split at hi
    · next ht =>
      obtain rfl := Option.some.inj hi
      exact hlisted _ (ht ▸ List.mem_cons_self)
    · exact hseen i hi
  | begin => exact Task.Bare.started.proper
  | rest _ _ hbare _ => exact hbare.proper

theorem Routed.congr (h : g'.routes = g.routes) : Routed g' t p = Routed g t p := by
  unfold Routed
  rw [h]

/-! ## The invariant -/

/-- Locks exclude each other, and a topic is used under one family, and by nobody without an
adapter. -/
structure Orderly (t : Topic) (p : Protocol) (s : State) : Prop where
  tidy : Tidy t p s.gateway
  proper : ∀ x ∈ s.tasks, x.Proper (Routed s.gateway t p) t p
  exclusive : s.Exclusive

variable {s : State}

theorem Orderly.withGateway (h : Orderly t p s) (htidy : Tidy t p g)
    (hroutes : g.routes = s.gateway.routes) : Orderly t p { s with gateway := g } :=
  ⟨htidy, fun x hx => Routed.congr hroutes ▸ h.proper x hx, h.exclusive⟩

theorem Orderly.spawn (h : Orderly t p s) {x : Task} (hx : x.Proper (Routed s.gateway t p) t p)
    (hcurrent : x.current = none) : Orderly t p (s.spawn x) := by
  refine ⟨h.tidy, ?_, h.exclusive.spawn hcurrent⟩
  intro y hy
  rcases List.mem_append.mp hy with hy | hy
  · exact h.proper y hy
  · rw [List.mem_singleton.mp hy]
    exact hx

theorem proper_single {e : Errand} (he : e.Proper routed t p) : (Task.single e).Proper routed t p :=
  ⟨fun _ hd => List.mem_singleton.mp hd ▸ he, fun _ _ hc => (nomatch hc), fun _ _ hs => (nomatch hs)⟩

/-- Topics are released under the families under which somebody used them. -/
theorem proper_releases {topics : List (Topic × Protocol)} {a : Bool}
    (h : ∀ q, (t, q) ∈ topics → q = p) : (Task.releases topics a).Proper routed t p := by
  refine ⟨?_, fun _ _ hc => (nomatch hc), fun _ _ hs => (nomatch hs)⟩
  intro e he
  obtain ⟨⟨t', q⟩, hq, rfl⟩ := List.mem_map.mp he
  exact ⟨fun ht => h q ((show t' = t from ht) ▸ hq), fun _ _ _ hchange => (nomatch hchange)⟩

/-- A recording that has read nothing yet. -/
theorem proper_survey {topics : List (Topic × Protocol)}
    (h : ∀ q, (t, q) ∈ topics → q = p ∧ routed) :
    (Task.survey topics .empty).Proper routed t p := by
  refine ⟨fun _ he => (List.not_mem_nil he).elim, fun _ _ hc => (nomatch hc), ?_⟩
  intro ahead seen hs
  obtain ⟨rfl, rfl⟩ := Task.survey.inj hs
  exact ⟨h, fun i hi => (nomatch hi)⟩

/-- A session that is closed leaves a release of everything that it asked for. -/
theorem Orderly.closeSession (h : Orderly t p s) (id : SessionId) :
    Orderly t p (s.next (.closeSession id)) := by
  have hclosed := h.withGateway (h.tidy.closeSession id) rfl
  simp only [State.next]
  split
  · exact hclosed
  · refine hclosed.spawn (proper_releases ?_) rfl
    intro q hq
    obtain ⟨i, ha, rfl⟩ := Bus.mem_topics_of_close hq
    exact (h.tidy.asked ha).1

/-- A recorder that stops leaves a release of everything that it tracked. -/
theorem Orderly.stopRecording (h : Orderly t p s) : Orderly t p (s.next .stopRecording) := by
  simp only [State.next]
  split
  · exact h
  · next r tracked hr =>
    obtain ⟨-, -, rfl⟩ := Recorder.stop?_eq_some hr
    refine (h.withGateway (h.tidy.stop hr) rfl).spawn (proper_releases ?_) rfl
    intro q hq
    obtain ⟨⟨t', i⟩, hi, heq⟩ := List.mem_map.mp hq
    obtain ⟨rfl, rfl⟩ := Prod.mk.inj heq
    exact (h.tidy.tracked (SortedMap.mem_toList_iff.mp hi)).1

theorem Orderly.advance (h : Orderly t p s) {n : Nat} {x : Task} (hx : s.tasks[n]? = some x)
    (hfree : s.Unblocked x) : Orderly t p (s.next (.advance n)) := by
  rw [State.next_advance hx]
  have hmove := x.move s.gateway
  have hproper := h.proper x (List.mem_of_getElem? hx)
  refine ⟨h.tidy.move hproper hmove, ?_, h.exclusive.turn hx hmove hfree⟩
  intro y hy
  rw [Routed.congr hmove.routes]
  rcases List.mem_or_eq_of_mem_set hy with hy | rfl
  · exact h.proper y hy
  · exact hproper.move hmove

theorem Orderly.next {step : Step} (h : Orderly t p s) (hcan : s.Permits step)
    (hkeep : step.KeepsTo t p) : Orderly t p (s.next step) := by
  cases step with
  | openSession id => exact h.withGateway (h.tidy.openSession hcan) rfl
  | subscribe id t' p' keys =>
    simp only [State.next]
    split
    · next hroute =>
      refine h.spawn (proper_single ⟨hkeep, ?_⟩) rfl
      rintro _ _ rfl -
      rwa [Routed, ← hkeep rfl]
    · exact h
  | unsubscribe id t' p' =>
    refine h.spawn (proper_single ⟨hkeep, ?_⟩) rfl
    intro id' i _ hchange
    cases hchange
  | closeSession id => exact h.closeSession id
  | startRecording =>
    refine h.spawn (proper_survey ?_) rfl
    intro q hq
    obtain ⟨id, i, ha, rfl⟩ := Bus.asks_of_activeTopics (SortedMap.mem_toList_iff.mp hq)
    exact ⟨(h.tidy.asked ha).1, (h.tidy.asked ha).2.2⟩
  | stopRecording => exact h.stopRecording
  | meanwhile op =>
    have hcalm := Op.calm_act hcan s.gateway
    exact h.withGateway (h.tidy.calm hcalm) hcalm.routes
  | advance n =>
    cases hx : s.tasks[n]? with
    | none =>
      simp only [State.next, hx]
      exact h
    | some x => exact h.advance hx (hcan x hx).1

theorem orderly_start (h : g.Fresh) : Orderly t p (State.start g) := by
  refine ⟨⟨h.routed, h.faithful, Gateway.sound_fresh h, ?_, ?_⟩,
    fun x hx => (List.not_mem_nil hx).elim, ?_⟩
  · exact fun ha => absurd ha h.not_asks
  · exact fun hi => absurd hi h.not_tracked
  · rintro m n d e st st' ⟨x, hx, -⟩
    cases hx

/-- **Locks exclude.** However calls overlap, no two of them hold the lock of one topic, and some
call can go on unless all have ended. -/
theorem locks_exclude (r : Run) :
    r.state.Exclusive ∧
      ((∃ x ∈ r.state.tasks, x ≠ .ended) → ∃ x ∈ r.state.tasks, x ≠ .ended ∧ r.state.Unblocked x) := by
  refine ⟨?_, State.exists_unblocked⟩
  refine r.induction (K := fun _ _ => True) ?_ (fun s step h hcan _ _ => h.next hcan) ?_
  · rintro g - m n d e st st' ⟨x, hx, -⟩
    cases hx
  · exact State.along_of_forall fun _ _ _ => trivial

end SensorGateway.Overlap
