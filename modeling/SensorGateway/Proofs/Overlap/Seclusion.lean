/-
# SensorGateway.Proofs.Overlap.Seclusion -- recordings that start while nothing is on its way

While a recording reads what sessions ask for, the bus may change under it. If no call that
asks for something, gives it up or releases it is on its way meanwhile, what was read stays
up to date (`Task.UpToDate`), and a recording begins with what is asked for.

So `overlapping_calls_lose_nothing`: for any number of calls and any interleaving of their
steps, once all of them have ended every adapter watches what is needed, and no more.
-/
import SensorGateway.Proofs.Overlap.Repair

namespace SensorGateway.Overlap

/-- While a recording reads what sessions ask for, nobody is on the way to ask for something, to
give it up or to release it. -/
def State.Secluded (s : State) : Prop :=
  (∃ x ∈ s.tasks, x.isSurvey = true) → ∀ x ∈ s.tasks, x.isRound = false

instance (s : State) : Decidable s.Secluded :=
  inferInstanceAs (Decidable ((∃ x ∈ s.tasks, x.isSurvey = true) →
    ∀ x ∈ s.tasks, x.isRound = false))

/-- What a task has read about a topic is what sessions ask for, and a topic whose sensors are still
to be read is asked for. -/
def Task.UpToDate (t : Topic) (b : Bus) (x : Task) : Prop :=
  ∀ ahead seen, x = .survey ahead seen →
    (∀ q, (t, q) ∈ ahead → ∃ id i, b.Asks id t i) ∧
    ∀ i, seen.get? t = some i → i.sensors = b.sensorsOn t ∧ i.sensors.isEmpty = false

variable {t : Topic} {p : Protocol} {s : State} {x x' : Task} {b b' : Bus} {g g' : Gateway}

theorem Task.UpToDate.congr (h : x.UpToDate t b) (hasks : ∀ id i, b'.Asks id t i ↔ b.Asks id t i) :
    x.UpToDate t b' := by
  intro ahead seen hx
  obtain ⟨hahead, hseen⟩ := h ahead seen hx
  refine ⟨?_, ?_⟩
  · intro q hq
    obtain ⟨id, i, ha⟩ := hahead q hq
    exact ⟨id, i, (hasks id i).mpr ha⟩
  · rw [Bus.sensorsOn_congr hasks]
    exact hseen

theorem upToDate_of_not_survey (h : x.isSurvey = false) : x.UpToDate t b := by
  rintro ahead seen rfl
  cases h

/-- A topic that is asked for has some sensor. -/
theorem Tidy.sensorsOn_nonempty (h : Tidy t p g) {id : SessionId} {i : Interest}
    (ha : g.bus.Asks id t i) : (g.bus.sensorsOn t).isEmpty = false := by
  obtain ⟨k, hk⟩ := SortedSet.isEmpty_eq_false_iff.mp (h.asked ha).2.1
  exact SortedSet.isEmpty_eq_false_iff.mpr ⟨k, Bus.mem_sensorsOn.mpr ⟨id, i, ha, hk⟩⟩

theorem upToDate_begin : (Task.survey g.bus.activeTopics.toList .empty).UpToDate t g.bus := by
  intro ahead seen hx
  obtain ⟨rfl, rfl⟩ := Task.survey.inj hx
  refine ⟨?_, fun i hi => (nomatch hi)⟩
  intro q hq
  obtain ⟨id, i, ha, -⟩ := Bus.asks_of_activeTopics (SortedMap.mem_toList_iff.mp hq)
  exact ⟨id, i, ha⟩

/-- Reading the sensors of one more topic. -/
theorem Task.UpToDate.look (htidy : Tidy t p g) {t' : Topic} {p' : Protocol}
    {ahead : List (Topic × Protocol)} {seen : SortedMap Topic Interest}
    (h : (Task.survey ((t', p') :: ahead) seen).UpToDate t g.bus) :
    (Task.survey ahead (seen.insert t' ⟨p', g.bus.sensorsOn t'⟩)).UpToDate t g.bus := by
  obtain ⟨hahead, hseen⟩ := h _ _ rfl
  intro ahead' seen' hx
  obtain ⟨rfl, rfl⟩ := Task.survey.inj hx
  refine ⟨fun q hq => hahead q (List.mem_cons_of_mem _ hq), ?_⟩
  intro i hi
  rw [SortedMap.get?_insert] at hi
  split at hi
  · next ht =>
    subst ht
    obtain rfl := Option.some.inj hi
    obtain ⟨id, i, ha⟩ := hahead p' List.mem_cons_self
    exact ⟨rfl, htidy.sensorsOn_nonempty ha⟩
  · exact hseen i hi

/-- Everything that was read about a topic is up to date. -/
def State.UpToDate (t : Topic) (s : State) : Prop := ∀ x ∈ s.tasks, x.UpToDate t s.gateway.bus

theorem State.UpToDate.withGateway (h : s.UpToDate t)
    (hasks : ∀ id i, g.bus.Asks id t i ↔ s.gateway.bus.Asks id t i) :
    State.UpToDate t { s with gateway := g } :=
  fun x hx => (h x hx).congr hasks

/-- Where somebody is on the way, no recording reads. -/
theorem State.Secluded.upToDate (h : s.Secluded) (hround : ∃ x ∈ s.tasks, x.isRound = true) :
    s.UpToDate t := by
  obtain ⟨y, hy, hround⟩ := hround
  intro x hx
  cases hsurvey : x.isSurvey with
  | false => exact upToDate_of_not_survey hsurvey
  | true =>
    have hnone := h ⟨x, hx, hsurvey⟩ y hy
    rw [hround] at hnone
    cases hnone

theorem State.Secluded.spawn (h : (s.spawn x).Secluded) (hx : x.isRound = true) :
    (s.spawn x).UpToDate t :=
  h.upToDate ⟨x, List.mem_append_right _ (List.mem_singleton.mpr rfl), hx⟩

theorem upToDate_advance {n : Nat} (h : s.UpToDate t) (htidy : Tidy t p s.gateway)
    (hx : s.tasks[n]? = some x) (hquiet : s.Quiet (.advance n))
    (hsecluded : (s.next (.advance n)).Secluded) : (s.next (.advance n)).UpToDate t := by
  have hmove := x.move s.gateway
  have hsame : (s.next (.advance n)).gateway.bus.departed.length =
      s.gateway.bus.departed.length := hquiet
  rw [State.next_advance hx] at hsecluded hsame ⊢
  have hturned : (x.step s.gateway).2 ∈ s.tasks.set n (x.step s.gateway).2 :=
    List.mem_of_getElem? ((State.getElem?_turn hx).mpr (.inl ⟨rfl, rfl⟩))
  have hdate : x.UpToDate t s.gateway.bus := h x (List.mem_of_getElem? hx)
  generalize (x.step s.gateway).1 = g' at *
  generalize (x.step s.gateway).2 = x' at *
  -- all tasks are where they were, but for the one that went on
  have others (hasks : ∀ id i, g'.bus.Asks id t i ↔ s.gateway.bus.Asks id t i)
      (hx' : x'.UpToDate t g'.bus) : State.UpToDate t ⟨g', s.tasks.set n x'⟩ := by
    intro y hy
    rcases List.mem_or_eq_of_mem_set hy with hy | rfl
    · exact (h y hy).congr hasks
    · exact hx'
  cases hmove with
  -- where an errand has just gone on, nobody reads
  | take => exact hsecluded.upToDate ⟨_, hturned, rfl⟩
  | drop => exact hsecluded.upToDate ⟨_, hturned, rfl⟩
  | work => exact hsecluded.upToDate ⟨_, hturned, rfl⟩
  | look => exact others (fun _ _ => Iff.rfl) (hdate.look htidy)
  | begin => exact others (fun _ _ => Iff.rfl) (upToDate_of_not_survey rfl)
  | rest _ _ hbare hcalm =>
    refine others (fun id i => asks_iff_of_quiet hcalm.bus hsame id t i) (upToDate_of_not_survey ?_)
    cases hbare <;> rfl

theorem State.UpToDate.next {step : Step} (h : s.UpToDate t) (htidy : Tidy t p s.gateway)
    (hcan : s.Permits step) (hquiet : s.Quiet step) (hsecluded : (s.next step).Secluded) :
    (s.next step).UpToDate t := by
  cases step with
  | openSession id =>
    exact h.withGateway fun _ _ => Bus.asks_register_of_new hcan
  | subscribe id t' p' keys =>
    simp only [State.next] at hsecluded ⊢
    split
    · next hroute =>
      rw [if_pos hroute] at hsecluded
      exact hsecluded.spawn rfl
    · exact h
  | unsubscribe id t' p' => exact State.Secluded.spawn hsecluded rfl
  | closeSession id =>
    simp only [State.next] at hsecluded ⊢
    split
    · next hnone =>
      -- the session asked for nothing
      refine h.withGateway fun _ _ => Bus.asks_close_of_none ?_
      intro i ha
      have hleft := Bus.mem_topics_of_asks htidy.sound.distinct ha
      rw [show (s.gateway.bus.close id).2 = [] from List.isEmpty_iff.mp hnone] at hleft
      cases hleft
    · next hsome =>
      rw [if_neg hsome] at hsecluded
      exact hsecluded.spawn rfl
  | startRecording =>
    intro x hx
    rcases List.mem_append.mp hx with hx | hx
    · exact h x hx
    · rw [List.mem_singleton.mp hx]
      exact upToDate_begin
  | stopRecording =>
    cases hr : s.gateway.recorder.stop? s.gateway.clock.wall with
    | none =>
      simp only [State.next, hr]
      exact h
    | some c =>
      simp only [State.next, hr] at hsecluded ⊢
      exact hsecluded.spawn rfl
  | meanwhile op =>
    have hcalm := Op.calm_act hcan s.gateway
    exact h.withGateway fun id i => asks_iff_of_quiet hcalm.bus hquiet id t i
  | advance n =>
    cases hx : s.tasks[n]? with
    | none =>
      simp only [State.next, hx]
      exact h
    | some x => exact upToDate_advance h htidy hx hquiet hsecluded

/-- A recording begins with what sessions ask for. -/
theorem State.UpToDate.begins (h : s.UpToDate t) {step : Step} {seen : SortedMap Topic Interest}
    (hseen : s.snapshot? step = some seen) {i : Interest} (hi : seen.get? t = some i) :
    i.sensors = s.gateway.bus.sensorsOn t ∧ i.sensors.isEmpty = false := by
  obtain ⟨n, rfl⟩ : ∃ n, step = .advance n := by
    cases step with
    | advance n => exact ⟨n, rfl⟩
    | _ => cases hseen
  obtain ⟨x, hx, hseen⟩ := Option.bind_eq_some_iff.mp hseen
  cases x with
  | survey ahead seen' =>
    cases ahead with
    | nil =>
      obtain rfl := Option.some.inj hseen
      exact (h _ (List.mem_of_getElem? hx) _ _ rfl).2 i hi
    | cons e ahead => cases hseen
  | _ => cases hseen

theorem State.UpToDate.stillAsked (h : s.UpToDate t) (step : Step) : s.StillAsked t step := by
  intro seen hseen _ i hi k hk
  rw [← (h.begins hseen hi).1]
  exact hk

theorem State.UpToDate.substantial (h : s.UpToDate t) (step : Step) : s.Substantial t step :=
  fun _ hseen _ hi => (h.begins hseen hi).2

/-- **Overlapping calls lose nothing.** Let any number of calls that ask for something, give it up,
close sessions, and start and stop recordings overlap in any way, except that a recording reads
what sessions ask for only while none of the others is on its way. Let a topic be used under one
family. When all calls have ended and everything was released, the adapter of the topic's family
holds the union of what sessions ask for and what the recorder tracks, is unsubscribed from the
object exactly when that is nothing, and watches what it holds. -/
theorem overlapping_calls_lose_nothing (r : Run) (t : Topic) (p : Protocol)
    (keeps : ∀ step ∈ r.steps, step.KeepsTo t p)
    (secluded : r.start.Along (fun s step => (s.next step).Secluded) r.steps)
    (ended : ∀ x ∈ r.state.tasks, x = .ended) :
    let needed := (r.gateway.bus.sensorsOn t).union
      ((r.gateway.recorder.sensorsOn? t).getD .empty)
    (r.gateway.heldOn t p).getD .empty = needed ∧
      (r.gateway.heldOn t p = none ↔ needed.isEmpty) ∧
      ∀ a, r.gateway.adapterOn? t p = some a → a.watched t.object = needed := by
  have hkind := (State.along_of_forall fun _ step hmem => keeps step hmem).and secluded
  -- what was read is up to date, so whatever a recording begins with is still asked for
  obtain ⟨hsettling, -⟩ : Settling True t p r.state ∧ r.state.UpToDate t := by
    refine r.induction (P := fun s => Settling True t p s ∧ s.UpToDate t) ?_ ?_ hkind
    · exact fun g hg => ⟨settling_start hg, fun x hx => (List.not_mem_nil hx).elim⟩
    · rintro s step ⟨h, hdate⟩ hcan hquiet ⟨hkeep, hsecluded⟩
      exact ⟨h.next hcan hquiet hkeep (hdate.stillAsked step) fun _ => hdate.substantial step,
        hdate.next h.orderly.tidy hcan hquiet hsecluded⟩
  have hexact := (hsettling.meets ended).exact trivial
  intro needed
  change r.gateway.heldOn t p = if needed.isEmpty then none else some needed at hexact
  have hheld : (r.gateway.heldOn t p).getD .empty = needed := by
    rw [hexact]
    split
    · next he =>
      apply SortedSet.ext
      intro k
      exact iff_of_false SortedSet.not_mem_empty (SortedSet.isEmpty_iff.mp he k)
    · rfl
  refine ⟨hheld, ?_, fun a ha => (hsettling.orderly.tidy.faithful.watched ha).trans hheld⟩
  rw [hexact]
  split <;> simp [*]

/-- The object of `crossing`. -/
def boiler : Topic := ⟨"plant", "boiler"⟩

/-- A session asks for one sensor while everything is recorded. A second one asks for another; while
the adapter is being asked for both, the recording stops and the first session is closed, so the
adapter gets more than is needed. The two releases wait until the lock is free. -/
def crossing : Run where
  config := {}
  clock := ⟨⟨0, 0⟩, 0⟩
  more := [.accepting "plant" .modbus]
  steps := [.openSession ⟨1⟩, .openSession ⟨2⟩, .startRecording] ++ Step.times 0 4 ++
    [.subscribe ⟨1⟩ boiler .modbus (.ofList [.name "pressure"])] ++ Step.times 1 8 ++
    [.subscribe ⟨2⟩ boiler .modbus (.ofList [.name "heat"])] ++ Step.times 2 4 ++
    [.stopRecording, .closeSession ⟨1⟩] ++ Step.times 2 4 ++
    Step.times 4 7 ++ Step.times 3 8
  admissible := by decide

theorem crossing_watched :
    crossing.gateway.calls.map (·.call) =
      [.subscribe "boiler" (.ofList [.name "pressure"]),
        .subscribe "boiler" (.ofList [.name "heat", .name "pressure"]),
        .subscribe "boiler" (.ofList [.name "heat"]),
        .subscribe "boiler" (.ofList [.name "heat"])] ∧
      (crossing.gateway.heldOn boiler .modbus).getD .empty =
        (crossing.gateway.bus.sensorsOn boiler).union
          ((crossing.gateway.recorder.sensorsOn? boiler).getD .empty) :=
  ⟨by decide, (overlapping_calls_lose_nothing crossing boiler .modbus (by decide) (by decide)
    (by decide)).1⟩

end SensorGateway.Overlap
