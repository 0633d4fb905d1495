/-
# SensorGateway.Proofs.Bus.Sending -- the sends of one delivery side by side

Each send of a delivery is tried at once, and one that meets a full channel waits until its own
deadline. `Round.Step` lets the sends take their turns in any order, and lets time pass only while
all of them rest. `Round.Sound` is what every such schedule keeps. `Bus.settle_eq_deliver` says
that every schedule ends in what `Bus.deliver` computes in one go; the time on the clock is then
the time that the call has taken.

No browser reads meanwhile: a send works on the channel as it was when the targets were collected.
-/
import Mathlib.Algebra.Ring.Nat
import Mathlib.Logic.Relation
import SensorGateway.Proofs.Bus.Place

namespace SensorGateway

/-! ## What becomes of an offer -/

namespace Channel

variable {capacity : Nat} {c : Channel}

/-- Whether an event cannot be put into the channel as it is. -/
def isUnusable (capacity : Nat) (c : Channel) : Bool := !c.isOpen || c.isFull capacity

/-- The channel with one more event. -/
def adding (c : Channel) (e : Event) : Channel := { c with waiting := c.waiting ++ [e] }

theorem offer_of_usable (h : c.isUnusable capacity = false) (e : Event) :
    c.offer capacity e = .accepted (c.adding e) := by
  unfold offer
  simp only [isUnusable, isFull, Bool.or_eq_false_iff, Bool.not_eq_false'] at h
  obtain ⟨hopen, hfull⟩ := h
  have hroom : c.waiting.length < capacity := by simpa [hopen] using hfull
  simp [hopen, hroom, Channel.adding]

theorem offer_of_full (h : c.isFull capacity = true) (e : Event) : c.offer capacity e = .full := by
  simp only [isFull, Bool.and_eq_true, decide_eq_true_eq] at h
  obtain ⟨hopen, hfull⟩ := h
  have hnoroom : ¬ c.waiting.length < capacity := by omega
  simp [offer, hopen, hnoroom]

theorem offer_of_closed (h : c.isOpen = false) (e : Event) : c.offer capacity e = .closed := by
  simp [offer, h]

/-- A channel is closed, or full, or has room. -/
theorem offer_cases (capacity : Nat) (c : Channel) (e : Event) :
    (c.isOpen = false ∧ c.offer capacity e = .closed) ∨
    (c.isFull capacity = true ∧ c.offer capacity e = .full) ∨
    (c.isUnusable capacity = false ∧ c.offer capacity e = .accepted (c.adding e)) := by
  cases hopen : c.isOpen with
  | false => exact .inl ⟨rfl, offer_of_closed hopen e⟩
  | true =>
    cases hfull : c.isFull capacity with
    | true => exact .inr (.inl ⟨rfl, offer_of_full hfull e⟩)
    | false =>
      have husable : c.isUnusable capacity = false := by simp [isUnusable, hopen, hfull]
      exact .inr (.inr ⟨husable, offer_of_usable husable e⟩)

theorem usable_of_accepted {c' : Channel} {e : Event} (h : c.offer capacity e = .accepted c') :
    c' = c.adding e ∧ c.isUnusable capacity = false := by
  rcases offer_cases capacity c e with ⟨-, hclosed⟩ | ⟨-, hfull⟩ | ⟨husable, haccepted⟩
  · rw [hclosed] at h; cases h
  · rw [hfull] at h; cases h
  · rw [haccepted] at h
    obtain rfl := Offer.accepted.inj h
    exact ⟨rfl, husable⟩

theorem closed_of_refused {e : Event} (h : c.offer capacity e = .closed) : c.isOpen = false := by
  rcases offer_cases capacity c e with ⟨hclosed, -⟩ | ⟨-, hfull⟩ | ⟨-, haccepted⟩
  · exact hclosed
  · rw [hfull] at h; cases h
  · rw [haccepted] at h; cases h

theorem full_of_heldBack {e : Event} (h : c.offer capacity e = .full) :
    c.isFull capacity = true := by
  rcases offer_cases capacity c e with ⟨-, hclosed⟩ | ⟨hfull, -⟩ | ⟨-, haccepted⟩
  · rw [hclosed] at h; cases h
  · exact hfull
  · rw [haccepted] at h; cases h

theorem isUnusable_of_closed (h : c.isOpen = false) : c.isUnusable capacity = true := by
  simp [isUnusable, h]

theorem isUnusable_of_full (h : c.isFull capacity = true) : c.isUnusable capacity = true := by
  simp [isUnusable, h]

theorem not_full_of_closed (h : c.isOpen = false) : c.isFull capacity = false := by
  simp [isFull, h]

theorem not_full_of_usable (h : c.isUnusable capacity = false) : c.isFull capacity = false := by
  simp only [isUnusable, Bool.or_eq_false_iff] at h
  exact h.2

/-- There was room for the event. -/
theorem length_adding_le (h : c.isUnusable capacity = false) (e : Event) :
    (c.adding e).waiting.length ≤ capacity := by
  simp only [isUnusable, isFull, Bool.or_eq_false_iff, Bool.not_eq_false'] at h
  obtain ⟨hopen, hfull⟩ := h
  have hroom : c.waiting.length < capacity := by simpa [hopen] using hfull
  show (c.waiting ++ [e]).length ≤ capacity
  rw [List.length_append, List.length_singleton]
  omega

end Channel

/-! ## Sends side by side -/

/-- How far one send has come. -/
inductive Stage where
  | untried
  /-- The channel was full; the event is held back until there is room, or time is up. -/
  | waiting (deadline : Nat)
  | sent
  | failed
deriving DecidableEq

/-- One event on its way to one session. -/
structure Sending where
  /-- The session as it was when the targets were collected. -/
  session : Session
  event : Event
  /-- Its channel now. -/
  channel : Channel
  stage : Stage

namespace Sending

/-- A send as it begins. -/
def new (s : Session) (e : Event) : Sending := ⟨s, e, s.channel, .untried⟩

/-- What one send can do at some time: try, or go on when there is room, when the browser has
gone or when time is up. -/
inductive Step (capacity patience clock : Nat) (x : Sending) : Sending → Prop where
  | accepted {c : Channel} (h : x.stage = .untried) (ho : x.channel.offer capacity x.event =
      .accepted c) : Step capacity patience clock x { x with channel := c, stage := .sent }
  | refused (h : x.stage = .untried) (ho : x.channel.offer capacity x.event = .closed) :
      Step capacity patience clock x { x with stage := .failed }
  | heldBack (h : x.stage = .untried) (ho : x.channel.offer capacity x.event = .full) :
      Step capacity patience clock x { x with stage := .waiting (clock + patience) }
  | admitted {deadline : Nat} {c : Channel} (h : x.stage = .waiting deadline)
      (ho : x.channel.offer capacity x.event = .accepted c) :
      Step capacity patience clock x { x with channel := c, stage := .sent }
  | abandoned {deadline : Nat} (h : x.stage = .waiting deadline)
      (ho : x.channel.offer capacity x.event = .closed) :
      Step capacity patience clock x { x with stage := .failed }
  | expired {deadline : Nat} (h : x.stage = .waiting deadline) (hd : deadline ≤ clock) :
      Step capacity patience clock x { x with stage := .failed }

/-- Whether the outcome of a send is known. -/
def IsOver (x : Sending) : Prop := x.stage = .sent ∨ x.stage = .failed

/-- A send has nothing to do before some time. -/
def RestsUntil (time : Nat) (x : Sending) : Prop :=
  x.IsOver ∨ ∃ deadline, x.stage = .waiting deadline ∧ time ≤ deadline

end Sending

/-- The sends of one delivery at some time after its begin. -/
structure Round where
  /-- How many milliseconds have passed. -/
  clock : Nat
  sends : List Sending

namespace Round

/-- One send takes a step, or time passes while all of them rest and some is not over. -/
inductive Step (capacity patience : Nat) : Round → Round → Prop where
  | send {clock : Nat} {before after : List Sending} {x y : Sending}
      (h : x.Step capacity patience clock y) :
      Step capacity patience ⟨clock, before ++ x :: after⟩ ⟨clock, before ++ y :: after⟩
  | pass {clock ms : Nat} {sends : List Sending} (hms : 0 < ms)
      (hrest : ∀ x ∈ sends, x.RestsUntil (clock + ms)) (hsome : ∃ x ∈ sends, ¬ x.IsOver) :
      Step capacity patience ⟨clock, sends⟩ ⟨clock + ms, sends⟩

/-- What a schedule can reach. -/
abbrev Reaches (capacity patience : Nat) : Round → Round → Prop :=
  Relation.ReflTransGen (Step capacity patience)

/-- The outcomes of all sends are known. -/
def IsOver (r : Round) : Prop := ∀ x ∈ r.sends, x.IsOver

end Round

namespace Bus

/-- The sends of a delivery as they begin, one for each session that there is news for. -/
def sendings (b : Bus) (news : Session → Option Event) : List Sending :=
  b.sessions.filterMap fun s => (news s).map (Sending.new s)

/-- The begin of a delivery. -/
def round (b : Bus) (news : Session → Option Event) : Round := ⟨0, b.sendings news⟩

end Bus

namespace Sending

/-- The table after one send is judged: the event waits in the channel of the session, or the
session is evicted. -/
def settle (l : List Session) (x : Sending) : List Session :=
  match x.stage with
  | .sent => Bus.setChannel x.session.id x.channel l
  | _ => l.filter (·.id ≠ x.session.id)

/-- The session, if it has to go. -/
def lost? (x : Sending) : Option Session :=
  if x.stage = .sent then none else some x.session

end Sending

/-- When all sends are over they are judged one after the other. -/
def Bus.settle (b : Bus) (r : Round) : Bus × Report :=
  let lost := r.sends.filterMap Sending.lost?
  ({ b with
      sessions := r.sends.foldl Sending.settle b.sessions
      departed := b.departed ++ lost },
   { delivered := r.sends.countP (·.stage = .sent)
     evicted := lost.map (·.id)
     waited := r.clock })

/-! ## What every schedule keeps -/

variable {capacity patience clock : Nat} {x y : Sending} {r r' : Round}

/-- A send at its stage. As nobody reads, a channel that was full stays full. -/
def Sending.Sound (capacity patience clock : Nat) (x : Sending) : Prop :=
  match x.stage with
  | .untried => x.channel = x.session.channel ∧ clock = 0
  | .waiting deadline =>
    x.channel = x.session.channel ∧ x.session.channel.isFull capacity = true ∧ deadline = patience
  | .sent =>
    x.channel = x.session.channel.adding x.event ∧ x.session.channel.isUnusable capacity = false
  | .failed =>
    x.channel = x.session.channel ∧ (x.session.channel.isOpen = false ∨
      x.session.channel.isFull capacity = true ∧ patience ≤ clock)

/-- All sends at their stages. Time has passed only where a channel was full, and not more than
one time span. -/
structure Round.Sound (capacity patience : Nat) (r : Round) : Prop where
  each : ∀ x ∈ r.sends, x.Sound capacity patience r.clock
  inTime : r.clock ≤ patience
  awaited : 0 < r.clock → ∃ x ∈ r.sends, x.session.channel.isFull capacity = true

namespace Sending

theorem step_session (h : x.Step capacity patience clock y) :
    y.session = x.session ∧ y.event = x.event := by
  cases h <;> exact ⟨rfl, rfl⟩

/-- A step of a send leads from stage to stage. -/
theorem Sound.step (hx : x.Sound capacity patience clock) (h : x.Step capacity patience clock y) :
    y.Sound capacity patience clock := by
  unfold Sound at hx
  cases h with
  | accepted hstage ho =>
    rw [hstage] at hx
    rw [hx.1] at ho
    exact Channel.usable_of_accepted ho
  | refused hstage ho =>
    rw [hstage] at hx
    rw [hx.1] at ho
    exact ⟨hx.1, .inl (Channel.closed_of_refused ho)⟩
  | heldBack hstage ho =>
    -- the first try is at the begin, so the deadline is one time span
    rw [hstage] at hx
    rw [hx.1] at ho
    have hdeadline : clock + patience = patience := by omega
    exact ⟨hx.1, Channel.full_of_heldBack ho, hdeadline⟩
  | admitted hstage ho =>
    -- the channel is as full as it was
    rw [hstage] at hx
    rw [hx.1, Channel.offer_of_full hx.2.1] at ho
    cases ho
  | abandoned hstage ho =>
    rw [hstage] at hx
    rw [hx.1, Channel.offer_of_full hx.2.1] at ho
    cases ho
  | expired hstage hd =>
    rw [hstage] at hx
    exact ⟨hx.1, .inr ⟨hx.2.1, hx.2.2 ▸ hd⟩⟩

/-- Time passes over a send that rests. -/
theorem Sound.pass {ms : Nat} (hx : x.Sound capacity patience clock)
    (hrest : x.RestsUntil (clock + ms)) : x.Sound capacity patience (clock + ms) := by
  unfold Sound at hx ⊢
  rcases hrest with (hstage | hstage) | ⟨deadline, hstage, -⟩
  · rw [hstage] at hx ⊢
    exact hx
  · rw [hstage] at hx ⊢
    exact ⟨hx.1, hx.2.imp id fun hfull => ⟨hfull.1, by omega⟩⟩
  · rw [hstage] at hx ⊢
    exact hx

/-- No step puts more into a channel than there is room for. -/
theorem Sound.room (hx : x.Sound capacity patience clock)
    (hroom : x.session.channel.waiting.length ≤ capacity) :
    x.channel.waiting.length ≤ capacity := by
  unfold Sound at hx
  split at hx
  · rw [hx.1]; exact hroom
  · rw [hx.1]; exact hroom
  · rw [hx.1]; exact Channel.length_adding_le hx.2 x.event
  · rw [hx.1]; exact hroom

/-- A send that is not over can take a step, or waits. -/
theorem Sound.step_or_waits (hx : x.Sound capacity patience clock) (hopen : ¬ x.IsOver) :
    (∃ y, x.Step capacity patience clock y) ∨ (x.stage = .waiting patience ∧ clock < patience) := by
  match hstage : x.stage with
  | .untried =>
    rcases Channel.offer_cases capacity x.channel x.event with ⟨-, ho⟩ | ⟨-, ho⟩ | ⟨-, ho⟩
    · exact .inl ⟨_, .refused hstage ho⟩
    · exact .inl ⟨_, .heldBack hstage ho⟩
    · exact .inl ⟨_, .accepted hstage ho⟩
  | .waiting deadline =>
    unfold Sound at hx
    rw [hstage] at hx
    obtain ⟨-, -, rfl⟩ := hx
    by_cases htime : deadline ≤ clock
    · exact .inl ⟨_, .expired hstage htime⟩
    · exact .inr ⟨rfl, by omega⟩
  | .sent => exact absurd (.inl hstage) hopen
  | .failed => exact absurd (.inr hstage) hopen

/-- How many steps a send can still take. -/
def effort (x : Sending) : Nat :=
  match x.stage with
  | .untried => 2
  | .waiting _ => 1
  | _ => 0

theorem effort_step (h : x.Step capacity patience clock y) : y.effort < x.effort := by
  cases h with
  | accepted hstage _ => simp [effort, hstage]
  | refused hstage _ => simp [effort, hstage]
  | heldBack hstage _ => simp [effort, hstage]
  | admitted hstage _ => simp [effort, hstage]
  | abandoned hstage _ => simp [effort, hstage]
  | expired hstage _ => simp [effort, hstage]

end Sending

namespace Round

theorem forall_mem_replace {before after : List Sending} {P : Sending → Prop}
    (h : ∀ z ∈ before ++ x :: after, P z) (hy : P y) : ∀ z ∈ before ++ y :: after, P z := by
  intro z hz
  rcases List.mem_append.mp hz with hz | hz
  · exact h z (List.mem_append_left _ hz)
  · rcases List.mem_cons.mp hz with rfl | hz
    · exact hy
    · exact h z (List.mem_append_right _ (List.mem_cons_of_mem x hz))

/-- The targets of a delivery do not change under way. -/
theorem step_targets (h : Step capacity patience r r') :
    r'.sends.map (fun x => (x.session, x.event)) = r.sends.map fun x => (x.session, x.event) := by
  cases h with
  | send hstep =>
    obtain ⟨hsession, hevent⟩ := Sending.step_session hstep
    simp [hsession, hevent]
  | pass hms hrest hsome => rfl

/-- One step of a round. -/
theorem Sound.step (hr : r.Sound capacity patience) (h : Step capacity patience r r') :
    r'.Sound capacity patience := by
  have htargets := step_targets h
  cases h with
  | @send clock before after x y hstep =>
    have hx := hr.each x (List.mem_append_right _ List.mem_cons_self)
    refine ⟨forall_mem_replace hr.each (hx.step hstep), hr.inTime, ?_⟩
    intro hclock
    obtain ⟨z, hz, hfull⟩ := hr.awaited hclock
    have hmem : (z.session, z.event) ∈
        (before ++ y :: after).map fun x => (x.session, x.event) :=
      htargets ▸ List.mem_map_of_mem hz
    obtain ⟨z', hz', heq⟩ := List.mem_map.mp hmem
    exact ⟨z', hz', (Prod.mk.inj heq).1 ▸ hfull⟩
  | @pass clock ms sends hms hrest hsome =>
    -- somebody waits, so a channel is full and its deadline is not reached
    obtain ⟨x, hx, hopen⟩ := hsome
    rcases hrest x hx with hover | ⟨deadline, hstage, hdeadline⟩
    · exact absurd hover hopen
    · have hsound := hr.each x hx
      unfold Sending.Sound at hsound
      rw [hstage] at hsound
      obtain ⟨-, hfull, rfl⟩ := hsound
      exact ⟨fun z hz => (hr.each z hz).pass (hrest z hz), hdeadline, fun _ => ⟨x, hx, hfull⟩⟩

/-- A whole schedule. -/
theorem Sound.reaches (hr : r.Sound capacity patience) (h : Reaches capacity patience r r') :
    r'.Sound capacity patience ∧
      r'.sends.map (fun x => (x.session, x.event)) =
        r.sends.map fun x => (x.session, x.event) := by
  induction h with
  | refl => exact ⟨hr, rfl⟩
  | tail _ hstep ih => exact ⟨ih.1.step hstep, (step_targets hstep).trans ih.2⟩

/-- A round that is not over goes on. -/
theorem Sound.goes_on (hr : r.Sound capacity patience) (hopen : ¬ r.IsOver) :
    ∃ r', Step capacity patience r r' := by
  obtain ⟨clock, sends⟩ := r
  by_cases hstep : ∃ x ∈ sends, ∃ y, Sending.Step capacity patience clock x y
  · obtain ⟨x, hx, y, hxy⟩ := hstep
    obtain ⟨before, after, rfl⟩ := List.append_of_mem hx
    exact ⟨_, .send hxy⟩
  · -- nobody can do anything, so all that are not over wait until the end of the time span
    have hwait : ∀ x ∈ sends, x.IsOver ∨ (x.stage = .waiting patience ∧ clock < patience) := by
      intro x hx
      by_cases hover : x.IsOver
      · exact .inl hover
      · exact .inr (((hr.each x hx).step_or_waits hover).resolve_left fun h => hstep ⟨x, hx, h⟩)
    have hsome : ∃ x ∈ sends, ¬ x.IsOver := by simpa [IsOver] using hopen
    obtain ⟨x, hx, hxopen⟩ := hsome
    have htime : clock < patience := ((hwait x hx).resolve_left hxopen).2
    have hrest : ∀ z ∈ sends, z.RestsUntil (clock + (patience - clock)) := by
      intro z hz
      exact (hwait z hz).imp id fun hw => ⟨patience, hw.1, by omega⟩
    exact ⟨_, .pass (by omega) hrest ⟨x, hx, hxopen⟩⟩

/-- How many steps a round can still take. -/
def effort (patience : Nat) (r : Round) : Nat :=
  (r.sends.map Sending.effort).sum + (patience - r.clock)

theorem Sound.effort_step (hr : r.Sound capacity patience) (h : Step capacity patience r r') :
    r'.effort patience < r.effort patience := by
  have hinTime := (hr.step h).inTime
  cases h with
  | send hstep =>
    have hless := Sending.effort_step hstep
    simp only [effort, List.map_append, List.map_cons, List.sum_append, List.sum_cons]
    omega
  | pass hms _ _ =>
    simp only [effort] at hinTime ⊢
    omega

/-- No schedule goes on for ever. -/
theorem Sound.stops (hr : r.Sound capacity patience) {schedule : Nat → Round}
    (hstart : schedule 0 = r) : ∃ n, ¬ Step capacity patience (schedule n) (schedule (n + 1)) := by
  apply Classical.byContradiction
  intro hfails
  have hnever : ∀ n, Step capacity patience (schedule n) (schedule (n + 1)) := by
    intro n
    exact Classical.not_not.mp fun hend => hfails ⟨n, hend⟩
  have hsound : ∀ n, (schedule n).Sound capacity patience := by
    intro n
    induction n with
    | zero => exact hstart ▸ hr
    | succ n ih => exact ih.step (hnever n)
  have hbound : ∀ n, (schedule n).effort patience + n ≤ r.effort patience := by
    intro n
    induction n with
    | zero => simp [hstart]
    | succ n ih =>
      have hless := (hsound n).effort_step (hnever n)
      omega
  have hlast := hbound (r.effort patience + 1)
  omega

end Round

/-! ## Where every schedule ends -/

/-- A send when it is over. -/
def Sending.final (capacity : Nat) (s : Session) (e : Event) : Sending :=
  if s.channel.isUnusable capacity then ⟨s, e, s.channel, .failed⟩
  else ⟨s, e, s.channel.adding e, .sent⟩

/-- How a send ends is settled from the begin. -/
theorem Sending.Sound.eq_final (hx : x.Sound capacity patience clock) (hover : x.IsOver) :
    x = .final capacity x.session x.event := by
  obtain ⟨s, e, c, stage⟩ := x
  unfold Sound at hx
  rcases hover with hstage | hstage
  · simp only at hstage hx
    rw [hstage] at hx
    obtain ⟨rfl, husable⟩ := hx
    simp [final, husable, hstage]
  · simp only at hstage hx
    rw [hstage] at hx
    obtain ⟨rfl, hclosed | ⟨hfull, -⟩⟩ := hx
    · simp [final, Channel.isUnusable_of_closed hclosed, hstage]
    · simp [final, Channel.isUnusable_of_full hfull, hstage]

/-- When a round is over, just one time span has passed if a channel was full, and none if none
was. -/
theorem Round.Sound.clock_eq (hr : r.Sound capacity patience) (hover : r.IsOver) :
    r.clock = if r.sends.any (·.session.channel.isFull capacity) then patience else 0 := by
  by_cases hfull : ∃ x ∈ r.sends, x.session.channel.isFull capacity = true
  · rw [if_pos (List.any_eq_true.mpr hfull)]
    obtain ⟨x, hx, hfull⟩ := hfull
    have hsound := hr.each x hx
    unfold Sending.Sound at hsound
    have hinTime := hr.inTime
    rcases hover x hx with hstage | hstage
    · rw [hstage] at hsound
      rw [Channel.isUnusable_of_full hfull] at hsound
      exact absurd hsound.2 nofun
    · rw [hstage] at hsound
      rcases hsound.2 with hclosed | ⟨-, hpast⟩
      · rw [Channel.not_full_of_closed hclosed] at hfull
        cases hfull
      · omega
  · rw [if_neg (fun hany => hfull (List.any_eq_true.mp hany))]
    have hstill : ¬ 0 < r.clock := fun hclock => hfull (hr.awaited hclock)
    omega

namespace Bus

variable {b : Bus} {news : Session → Option Event}

theorem sound_round (b : Bus) (news : Session → Option Event) :
    (b.round news).Sound b.capacity b.patience := by
  refine ⟨?_, Nat.zero_le _, fun hclock => absurd hclock (Nat.lt_irrefl 0)⟩
  intro x hx
  obtain ⟨s, -, hnews⟩ := List.mem_filterMap.mp hx
  obtain ⟨e, -, rfl⟩ := Option.map_eq_some_iff.mp hnews
  exact ⟨rfl, rfl⟩

/-- What becomes of a session that is told something is what becomes of its send. -/
theorem tell_some (capacity : Nat) (s : Session) (e : Event) :
    (s.channel.isUnusable capacity = true ∧
      s.tell capacity (some e) = .evicted s (s.channel.isFull capacity)) ∨
    (s.channel.isUnusable capacity = false ∧
      s.tell capacity (some e) = .delivered { s with channel := s.channel.adding e }) := by
  unfold Session.tell
  rcases Channel.offer_cases capacity s.channel e with ⟨hclosed, ho⟩ | ⟨hfull, ho⟩ | ⟨husable, ho⟩
  · left
    simp [ho, Channel.isUnusable_of_closed hclosed, Channel.not_full_of_closed hclosed]
  · left
    simp [ho, Channel.isUnusable_of_full hfull, hfull]
  · right
    simp [ho, husable]

/-- The sends of a delivery when they are over. -/
def outcomes (capacity : Nat) (news : Session → Option Event) (l : List Session) : List Sending :=
  l.filterMap fun s => (news s).map (.final capacity s)

theorem outcomes_cons_none {capacity : Nat} {s : Session} (h : news s = none) (l : List Session) :
    outcomes capacity news (s :: l) = outcomes capacity news l := by
  simp [outcomes, h]

theorem outcomes_cons_some {capacity : Nat} {s : Session} {e : Event} (h : news s = some e)
    (l : List Session) :
    outcomes capacity news (s :: l) = .final capacity s e :: outcomes capacity news l := by
  simp [outcomes, h]

/-- A round that is over has come to the outcomes that were settled from its begin. -/
theorem sends_eq_outcomes {r : Round} (hr : r.Sound b.capacity b.patience) (hover : r.IsOver)
    (htargets : r.sends.map (fun x => (x.session, x.event)) =
      (b.round news).sends.map fun x => (x.session, x.event)) :
    r.sends = outcomes b.capacity news b.sessions := by
  have hfinal : r.sends =
      (r.sends.map fun x => (x.session, x.event)).map fun e => .final b.capacity e.1 e.2 := by
    have heach : r.sends.map (fun x => .final b.capacity x.session x.event) = r.sends.map id :=
      List.map_congr_left fun x hx => ((hr.each x hx).eq_final (hover x hx)).symm
    rw [List.map_map]
    exact (heach.trans (List.map_id r.sends)).symm
  rw [hfinal, htargets]
  show ((b.sessions.filterMap _).map _).map _ = _
  rw [List.map_map, List.map_filterMap]
  refine congrArg (fun f => b.sessions.filterMap f) (funext fun s => ?_)
  cases news s <;> rfl

theorem setChannel_append_cons {done rest : List Session} {s : Session} (c : Channel)
    (hnd : ((done ++ s :: rest).map (·.id)).Nodup) :
    setChannel s.id c (done ++ s :: rest) = done ++ { s with channel := c } :: rest := by
  rw [List.map_append, List.map_cons, List.nodup_append, List.nodup_cons] at hnd
  obtain ⟨-, ⟨hrest, -⟩, hdone⟩ := hnd
  have hskip : ∀ l : List Session, s.id ∉ l.map (·.id) → setChannel s.id c l = l := by
    intro l hl
    have hsame : ∀ r ∈ l, (if r.id = s.id then { r with channel := c } else r) = r := by
      intro r hr
      exact if_neg fun he : r.id = s.id => hl (he ▸ List.mem_map_of_mem hr)
    rw [setChannel, List.map_congr_left hsame, List.map_id']
  have hout : s.id ∉ done.map (·.id) := fun hin => hdone _ hin _ List.mem_cons_self rfl
  have happ : setChannel s.id c (done ++ s :: rest) =
      setChannel s.id c done ++ { s with channel := c } :: setChannel s.id c rest := by
    simp [setChannel]
  rw [happ, hskip done hout, hskip rest hrest]

theorem filter_append_cons {done rest : List Session} {s : Session}
    (hnd : ((done ++ s :: rest).map (·.id)).Nodup) :
    (done ++ s :: rest).filter (·.id ≠ s.id) = done ++ rest := by
  rw [List.map_append, List.map_cons, List.nodup_append, List.nodup_cons] at hnd
  obtain ⟨-, ⟨hrest, -⟩, hdone⟩ := hnd
  have hkeep : ∀ l : List Session, s.id ∉ l.map (·.id) → l.filter (·.id ≠ s.id) = l := by
    intro l hl
    exact List.filter_eq_self.mpr fun r hr =>
      decide_eq_true fun he => hl (he ▸ List.mem_map_of_mem hr)
  have hout : s.id ∉ done.map (·.id) := fun hin => hdone _ hin _ List.mem_cons_self rfl
  rw [List.filter_append, List.filter_cons_of_neg (by simp), hkeep done hout, hkeep rest hrest]

/-- Judging the sends one after the other leaves every session as it would be told alone. -/
theorem foldl_settle (capacity : Nat) (news : Session → Option Event) (done rest : List Session)
    (hnd : ((done ++ rest).map (·.id)).Nodup) :
    (outcomes capacity news rest).foldl Sending.settle (done ++ rest) =
      done ++ (rest.map fun s => s.tell capacity (news s)).filterMap Session.Outcome.kept? := by
  induction rest generalizing done with
  | nil => rfl
  | cons s rest ih =>
    have hshift (s' : Session) (hid : s'.id = s.id) :
        (outcomes capacity news rest).foldl Sending.settle (done ++ s' :: rest) =
          done ++ s' ::
            (rest.map fun s => s.tell capacity (news s)).filterMap Session.Outcome.kept? := by
      have hnd' : (((done ++ [s']) ++ rest).map (·.id)).Nodup := by simpa [hid] using hnd
      simpa using ih (done ++ [s']) hnd'
    cases hnews : news s with
    | none =>
      rw [outcomes_cons_none hnews, hshift s rfl, List.map_cons, hnews]
      rfl
    | some e =>
      rw [outcomes_cons_some hnews, List.foldl_cons, List.map_cons, hnews]
      rcases tell_some capacity s e with ⟨hunusable, htell⟩ | ⟨husable, htell⟩
      · have hsettle : Sending.settle (done ++ s :: rest) (.final capacity s e) = done ++ rest := by
          simp only [Sending.settle, Sending.final, hunusable, if_true]
          exact filter_append_cons hnd
        have hnd' : ((done ++ rest).map (·.id)).Nodup := by
          refine hnd.sublist (List.Sublist.map _ ?_)
          exact (List.sublist_cons_self s rest).append_left done
        rw [hsettle, ih done hnd', htell]
        rfl
      · have hsettle : Sending.settle (done ++ s :: rest) (.final capacity s e) =
            done ++ { s with channel := s.channel.adding e } :: rest := by
          simp only [Sending.settle, Sending.final, husable, Bool.false_eq_true, if_false]
          exact setChannel_append_cons _ hnd
        rw [hsettle, hshift { s with channel := s.channel.adding e } rfl, htell]
        rfl

/-- What the report of the sends says, session by session. -/
theorem judged_outcomes (capacity : Nat) (news : Session → Option Event) (l : List Session) :
    let told := l.map fun s => s.tell capacity (news s)
    (outcomes capacity news l).countP (·.stage = .sent) =
        told.countP Session.Outcome.isDelivered ∧
      (outcomes capacity news l).filterMap Sending.lost? =
        told.filterMap Session.Outcome.evicted? ∧
      (outcomes capacity news l).any (·.session.channel.isFull capacity) =
        told.any Session.Outcome.isLate := by
  induction l with
  | nil => exact ⟨rfl, rfl, rfl⟩
  | cons s rest ih =>
    obtain ⟨hcount, hlost, hlate⟩ := ih
    cases hnews : news s with
    | none =>
      rw [outcomes_cons_none hnews]
      simp only [List.map_cons, hnews, Session.tell]
      exact ⟨hcount, hlost, hlate⟩
    | some e =>
      rw [outcomes_cons_some hnews]
      simp only [List.map_cons, hnews]
      rcases tell_some capacity s e with ⟨hunusable, htell⟩ | ⟨husable, htell⟩
      · have hfinal : Sending.final capacity s e = ⟨s, e, s.channel, .failed⟩ := if_pos hunusable
        rw [htell, hfinal]
        refine ⟨?_, ?_, ?_⟩
        · simpa [List.countP_cons, Session.Outcome.isDelivered] using hcount
        · simpa [List.filterMap_cons, Sending.lost?, Session.Outcome.evicted?] using hlost
        · simp [Session.Outcome.isLate, hlate]
      · have hfinal : Sending.final capacity s e = ⟨s, e, s.channel.adding e, .sent⟩ :=
          if_neg (by simp [husable])
        rw [htell, hfinal]
        refine ⟨?_, ?_, ?_⟩
        · simpa [List.countP_cons, Session.Outcome.isDelivered] using hcount
        · simpa [List.filterMap_cons, Sending.lost?, Session.Outcome.evicted?] using hlost
        · simp [Session.Outcome.isLate, hlate, Channel.not_full_of_usable husable]

/-- **Every schedule ends in the same.** Whatever turns the sends take, once they are over and
judged the bus and the report are those of `deliver`, and the clock shows what was waited. -/
theorem settle_eq_deliver (hnd : (b.sessions.map (·.id)).Nodup) {r : Round}
    (hreach : Round.Reaches b.capacity b.patience (b.round news) r) (hover : r.IsOver) :
    b.settle r = b.deliver news := by
  obtain ⟨hr, htargets⟩ := (sound_round b news).reaches hreach
  have hsends := sends_eq_outcomes hr hover htargets
  have hclock := hr.clock_eq hover
  obtain ⟨hcount, hlost, hlate⟩ := judged_outcomes b.capacity news b.sessions
  have hsessions := foldl_settle b.capacity news [] b.sessions hnd
  rw [hsends] at hclock
  rw [List.nil_append, List.nil_append] at hsessions
  unfold settle deliver
  rw [hsends, hclock, hcount, hlost, hlate, hsessions]

end Bus

end SensorGateway
