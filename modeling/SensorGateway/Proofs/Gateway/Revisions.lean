/-
# SensorGateway.Proofs.Gateway.Revisions -- news of control that comes out of order

Whoever changes control does it under the lock of the arbiter, and tells the sessions after the
lock is dropped. So while one call is on its way to the sessions, another one may change control
again and be told first. Each change has a revision, and that is enough: whatever the order in
which the news comes, a session that is still registered when all has been told has got
every change once, and the one with the highest revision is how control stands
(`Control.revisions_converge`).

A `Control.Run` is a list of steps of any number of calls: a call under the lock
(`ControlCall.locked`), or the broadcast of a status that some call produced earlier. Between them
anything else may happen to the bus: sessions come and go, ask, read, and get other events.

Two invariants carry the result. `Numbered` is about the arbiter and what it has produced, and
`Hears` about one session: as long as it is registered, it has got just what was broadcast, in
that order.
-/
import SensorGateway.Proofs.Bus.FanOut
import SensorGateway.Proofs.Gateway.Control

namespace SensorGateway

/-! ## A call under the lock -/

/-- A write that is allowed leaves control as every session sees it. -/
theorem Arbiter.current_of_authorize {a a' : Arbiter} {now : Nat} {token : Option String}
    (h : a.authorize now token = .ok a') : a'.current = a.current := by
  rw [authorize_eq] at h
  split at h
  · cases h
  · split at h
    · next hholds =>
      obtain rfl := Except.ok.inj h
      have hheld : a.holder.isSome = true := by
        rw [← Option.isSome_map (f := Holder.token)]
        show a.token?.isSome = true
        rw [hholds]
        cases token with
        | none => contradiction
        | some t => rfl
      simp only [current, hheld, Option.isSome_some, timeoutSec]
    · cases h

namespace ControlCall

/-- A call under the lock: what it makes of the arbiter, and the status that it is to broadcast
when the lock is dropped. -/
def locked (a : Arbiter) (now : Nat) : ControlCall → Arbiter × Option ControlStatus
  | .take token =>
    match a.take now token with
    | .ok a' => (a', some a'.current)
    | .error _ => (a, none)
  | .release => (a.release, some a.release.current)
  | .expire =>
    match a.expire? now with
    | some a' => (a', some a'.current)
    | none => (a, none)
  | .authorize token =>
    match a.authorize now token with
    | .ok a' => (a', none)
    | .error _ => (a, none)
  | .status _ => (a, none)

/-- A take that is refused, or an expiry that finds nobody idle. -/
def Fails (a : Arbiter) (now : Nat) : ControlCall → Prop
  | .take token => ∃ e, a.take now token = .error e
  | .expire => a.expire? now = none
  | _ => False

/-- With nobody in between, a call is what happens under the lock and the broadcast after it. -/
theorem perform_eq (c : ControlCall) (g : Gateway) :
    (c.perform g).1 =
      match c.locked g.arbiter g.clock.elapsed with
      | (arbiter, some s) => (({ g with arbiter } : Gateway).broadcast (.control s)).1
      | (arbiter, none) => { g with arbiter } := by
  cases c with
  | take token =>
    simp only [perform, locked, Gateway.takeControl]
    cases g.arbiter.take g.clock.elapsed token <;> rfl
  | release => rfl
  | expire =>
    simp only [perform, locked, Gateway.expireControl]
    cases g.arbiter.expire? g.clock.elapsed <;> rfl
  | authorize token =>
    simp only [perform, locked, Gateway.authorize]
    cases g.arbiter.authorize g.clock.elapsed token <;> rfl
  | status token => rfl

/-- Control changes hands, with a status to be broadcast, or nothing changes that a session could
see. -/
theorem locked_cases (c : ControlCall) (a : Arbiter) (now : Nat) :
    (∃ holder, c.locked a now = (a.pass holder, some (a.pass holder).current)) ∨
      ∃ a', c.locked a now = (a', none) ∧ a'.current = a.current := by
  cases c with
  | take token =>
    simp only [locked]
    cases h : a.take now token with
    | ok a' =>
      obtain ⟨-, rfl⟩ := Arbiter.take_eq_ok h
      exact .inl ⟨_, rfl⟩
    | error e => exact .inr ⟨a, rfl, rfl⟩
  | release => exact .inl ⟨none, rfl⟩
  | expire =>
    simp only [locked]
    cases h : a.expire? now with
    | some a' =>
      obtain rfl := Arbiter.expire?_eq_some h
      exact .inl ⟨_, rfl⟩
    | none => exact .inr ⟨a, rfl, rfl⟩
  | authorize token =>
    refine .inr ?_
    simp only [locked]
    cases h : a.authorize now token with
    | error e => exact ⟨a, rfl, rfl⟩
    | ok a' => exact ⟨a', rfl, Arbiter.current_of_authorize h⟩
  | status token => exact .inr ⟨a, rfl, rfl⟩

theorem Fails.locked {c : ControlCall} {a : Arbiter} {now : Nat} (h : c.Fails a now) :
    c.locked a now = (a, none) := by
  cases c with
  | take token =>
    obtain ⟨e, he⟩ := h
    simp only [ControlCall.locked, he]
  | expire =>
    have hnone : a.expire? now = none := h
    simp only [ControlCall.locked, hnone]
  | _ => exact h.elim

end ControlCall

/-! ## What sessions are told about control -/

/-- The statuses of control among some events, in their order. -/
def Event.controls (es : List Event) : List ControlStatus :=
  es.filterMap fun
    | .control s => some s
    | _ => none

/-- What an operation on the bus tells all sessions about control. -/
def BusOp.controls : BusOp → List ControlStatus
  | .broadcast e _ => Event.controls [e]
  | _ => []

/-- What a move of a session tells it about control. -/
def Move.controls : Move → List ControlStatus
  | .broadcast e _ => Event.controls [e]
  | _ => []

namespace Event

theorem controls_append (es es' : List Event) : controls (es ++ es') = controls es ++ controls es' :=
  List.filterMap_append

/-- Nobody is told about control but by a broadcast, which has to do with everybody. -/
theorem controls_of_toward (op : BusOp) (id : SessionId) :
    (op.toward id = none → op.controls = []) ∧
      ∀ m, op.toward id = some m → m.controls = op.controls := by
  cases op with
  | publish b pulls => exact ⟨nofun, fun m hm => by cases hm; rfl⟩
  | broadcast e pulls => exact ⟨nofun, fun m hm => by cases hm; rfl⟩
  | _ =>
    -- all other operations have to do with one session, and tell it nothing
    refine ⟨fun _ => rfl, fun m hm => ?_⟩
    simp only [BusOp.toward] at hm
    split at hm
    · cases hm
      rfl
    · cases hm

/-- A session that is told something gets it, or it is registered no longer. -/
theorem controls_of_tell (capacity count : Nat) (e : Option Event) (seat : Seat) :
    (seat.tell capacity count e).2 = .gone ∨
      (∃ seat', (seat.tell capacity count e).2 = .seated seat') ∧
        controls (seat.tell capacity count e).1 = controls e.toList := by
  unfold Seat.tell
  cases e with
  | none => exact .inr ⟨⟨seat, rfl⟩, rfl⟩
  | some e =>
    dsimp only
    split
    · exact .inl rfl
    · split
      · exact .inr ⟨⟨_, rfl⟩, rfl⟩
      · split
        · exact .inl rfl
        · exact .inr ⟨⟨_, rfl⟩, rfl⟩

/-- A registered session gets every broadcast about control, or it is registered no longer. -/
theorem controls_of_move (capacity : Nat) (m : Move) (seat : Seat) :
    (seat.step capacity m).2 = .gone ∨
      (∃ seat', (seat.step capacity m).2 = .seated seat') ∧
        controls (seat.step capacity m).1 = m.controls := by
  cases m with
  | publish b count =>
    have hbatch : controls (seat.portion b).toList = [] := by
      unfold Seat.portion
      split <;> rfl
    have htold := controls_of_tell capacity count (seat.portion b) seat
    rw [hbatch] at htold
    exact htold
  | broadcast e count => exact controls_of_tell capacity count (some e) seat
  | close => exact .inl rfl
  | _ => exact .inr ⟨⟨_, rfl⟩, rfl⟩

end Event

/-! ## A bus in use -/

/-- What holds of every bus in use: no identifier is used twice, no channel has got more than it
has room for, and nothing waits for a browser that is gone. -/
structure Bus.Sound (b : Bus) : Prop where
  distinct : b.Distinct
  roomy : 0 < b.capacity
  fits : ∀ s ∈ b.sessions, s.channel.waiting.length ≤ b.capacity
  lost : ∀ s ∈ b.sessions, s.channel.isOpen = false → s.channel.waiting = []

/-- Whatever has happened to a bus, it is sound. -/
theorem BusRun.sound (r : BusRun) : r.bus.Sound := by
  have hseat : ∀ s ∈ r.bus.sessions, ∃ seat, Seat.Fits r.bus.capacity s seat := by
    intro s hs
    have h := r.agrees s.id
    have hsits := h.sits
    rw [show r.traffic.bus.place s.id = .registered s from
      Bus.place_of_find? (h.distinct.find?_eq hs)] at hsits
    cases hk : (Walk.of r.capacity (r.moves s.id)).standing with
    | seated seat =>
      rw [hk] at hsits
      exact ⟨seat, h.room.symm ▸ hsits⟩
    | _ => rw [hk] at hsits; cases hsits
  have hany := r.agrees ⟨0⟩
  refine ⟨hany.distinct, hany.room.symm ▸ r.capacity_pos, ?_, ?_⟩
  · intro s hs
    obtain ⟨seat, hfits⟩ := hseat s hs
    exact hfits.unread ▸ hfits.room
  · intro s hs hclosed
    obtain ⟨seat, hfits⟩ := hseat s hs
    apply List.eq_nil_of_length_eq_zero
    rw [hfits.unread]
    exact hfits.lost (hfits.isPresent ▸ hclosed)

/-- A session of a sound bus stands where its channel and its subscriptions say. -/
theorem Bus.Sound.agrees {b : Bus} (h : b.Sound) {id : SessionId} {s : Session}
    (hs : b.find? id = some s) :
    Agrees b.capacity id (.start b) ⟨s.channel.waiting,
      .seated ⟨s.subscriptions.get?, s.channel.waiting.length, s.channel.isOpen⟩⟩ := by
  obtain ⟨hmem, -⟩ := Bus.mem_of_find? hs
  have hplace : b.place id = .registered s := Bus.place_of_find? hs
  refine ⟨h.distinct, rfl, ?_, ?_⟩
  · show Sits b.capacity (b.place id) _
    rw [hplace]
    exact ⟨fun _ => rfl, rfl, rfl, h.fits s hmem, fun hgone => by simp [h.lost s hmem hgone]⟩
  · show [] ++ (b.place id).waiting = _
    rw [hplace]
    rfl

/-! ## Runs -/

namespace Control

/-- Control and the sessions, while calls are on their way. -/
structure State where
  arbiter : Arbiter
  traffic : Traffic
  /-- Milliseconds since the start. -/
  now : Nat
  /-- The statuses that changes of control have produced, in the order of the changes. -/
  made : List ControlStatus
  /-- The statuses that were broadcast, in the order of the broadcasts. -/
  told : List ControlStatus
  /-- The statuses that are still to be broadcast; their calls have dropped the lock. -/
  pending : List ControlStatus

/-- One step of one call, or something else. -/
inductive Step where
  /-- A call under the lock. -/
  | call (c : ControlCall)
  /-- The broadcast of a status, while browsers read. -/
  | tell (s : ControlStatus) (pulls : Pulls)
  /-- Something happens to the bus that has to do with no call. -/
  | meanwhile (op : BusOp)
  | wait (ms : Nat)

namespace State

/-- What a step makes of a state. -/
def step (σ : State) : Step → State
  | .call c =>
    let produced := (c.locked σ.arbiter σ.now).2.toList
    { σ with
      arbiter := (c.locked σ.arbiter σ.now).1
      made := σ.made ++ produced
      pending := σ.pending ++ produced }
  | .tell s pulls =>
    { σ with
      traffic := σ.traffic.step (.broadcast (.control s) pulls)
      told := σ.told ++ [s]
      pending := σ.pending.erase s }
  | .meanwhile op => { σ with traffic := σ.traffic.step op }
  | .wait ms => { σ with now := σ.now + ms }

/-- A status is broadcast by the call that has produced it, and nobody else tells sessions about
control. -/
def Permits (σ : State) : Step → Prop
  | .tell s _ => s ∈ σ.pending
  | .meanwhile op => op.IsPossible σ.traffic.bus ∧ op.controls = []
  | _ => True

instance (σ : State) (x : Step) : Decidable (σ.Permits x) := by
  cases x <;> unfold Permits <;> infer_instance

/-- Steps one after the other. -/
def after (σ : State) (steps : List Step) : State := steps.foldl step σ

/-- Every step can happen where it does. -/
def PermitsAll (σ : State) : List Step → Prop
  | [] => True
  | x :: rest => σ.Permits x ∧ (σ.step x).PermitsAll rest

instance decidablePermitsAll (σ : State) : (steps : List Step) → Decidable (σ.PermitsAll steps)
  | [] => isTrue trivial
  | x :: rest =>
    have := decidablePermitsAll (σ.step x) rest
    inferInstanceAs (Decidable (σ.Permits x ∧ (σ.step x).PermitsAll rest))

/-- Nothing was ever called, and the sessions are as they are. -/
def start (c : Config.Control) (b : Bus) : State := ⟨.new c, .start b, 0, [], [], []⟩

end State

/-- With nobody in between, the two steps of a call are the operation of the gateway. -/
theorem State.call_uninterrupted {σ : State} {g : Gateway} (ha : σ.arbiter = g.arbiter)
    (hb : σ.traffic.bus = g.bus) (ht : σ.now = g.clock.elapsed) (c : ControlCall) :
    let tells := (c.locked σ.arbiter σ.now).2.toList.map fun s => Step.tell s fun _ => 0
    (σ.after (.call c :: tells)).arbiter = (c.perform g).1.arbiter ∧
      (σ.after (.call c :: tells)).traffic.bus = (c.perform g).1.bus := by
  rw [c.perform_eq, ← ha, ← ht]
  rcases hc : c.locked σ.arbiter σ.now with ⟨arbiter, produced⟩
  cases produced with
  | none => simp [State.after, State.step, hc, hb]
  | some s =>
    have htold : (σ.traffic.bus.broadcastWhile (fun _ => 0) (.control s)).1 =
        (g.bus.broadcast (.control s)).1 := by rw [Bus.broadcastWhile_nobody, hb]
    simp [State.after, State.step, hc, Traffic.step, BusOp.act, htold, Gateway.broadcast,
      Gateway.wait]

/-- Any number of calls that overlap, on a bus whose sessions were never told about control. -/
structure Run where
  config : Config.Control
  bus : Bus
  sound : bus.Sound
  untold : ∀ s ∈ bus.sessions, Event.controls s.channel.waiting = []
  steps : List Step
  permitted : (State.start config bus).PermitsAll steps

/-- Where a run ends. -/
def Run.final (r : Run) : State := (State.start r.config r.bus).after r.steps

/-! ## Changes are numbered -/

/-- Every change of control has its revision, and its status is broadcast or will be. -/
structure Numbered (σ : State) : Prop where
  revisions : σ.made.map (·.revision) = (List.range' 1 σ.made.length).map UInt64.ofNat
  revision : σ.arbiter.revision = UInt64.ofNat σ.made.length
  /-- Control stands as the last change has left it. -/
  latest : ∀ s, σ.made.getLast? = some s → s = σ.arbiter.current
  accounted : (σ.told ++ σ.pending).Perm σ.made

theorem numbered_start (c : Config.Control) (b : Bus) : Numbered (.start c b) :=
  ⟨rfl, rfl, nofun, .nil⟩

theorem Numbered.call {σ : State} (h : Numbered σ) (c : ControlCall) :
    Numbered (σ.step (.call c)) := by
  unfold State.step
  rcases c.locked_cases σ.arbiter σ.now with ⟨holder, hc⟩ | ⟨a, hc, hcurrent⟩
  · -- the change takes the next revision
    simp only [hc, Option.toList_some]
    have hnext : (σ.arbiter.pass holder).revision = UInt64.ofNat (σ.made.length + 1) := by
      rw [UInt64.ofNat_add, ← h.revision]
      rfl
    constructor
    case revisions =>
      simp only [List.map_append, List.map_cons, List.map_nil, List.length_append,
        List.length_singleton, List.range'_1_concat, h.revisions]
      rw [show (σ.arbiter.pass holder).current.revision = _ from hnext, Nat.add_comm 1]
    case revision => rw [hnext, List.length_append, List.length_singleton]
    case latest =>
      intro s hs
      rw [List.getLast?_concat] at hs
      exact (Option.some.inj hs).symm
    case accounted =>
      rw [← List.append_assoc]
      exact h.accounted.append_right _
  · simp only [hc, Option.toList_none, List.append_nil]
    refine ⟨h.revisions, ?_, fun s hs => (h.latest s hs).trans hcurrent.symm, h.accounted⟩
    exact (congrArg ControlStatus.revision hcurrent).trans h.revision

theorem Numbered.step {σ : State} (h : Numbered σ) {x : Step} (hx : σ.Permits x) :
    Numbered (σ.step x) := by
  cases x with
  | call c => exact h.call c
  | tell s pulls =>
    refine ⟨h.revisions, h.revision, h.latest, ?_⟩
    have hpending : (s :: σ.pending.erase s).Perm σ.pending := (List.perm_cons_erase hx).symm
    show ((σ.told ++ [s]) ++ σ.pending.erase s).Perm σ.made
    rw [List.append_assoc]
    exact (hpending.append_left σ.told).trans h.accounted
  | meanwhile op => exact ⟨h.revisions, h.revision, h.latest, h.accounted⟩
  | wait ms => exact ⟨h.revisions, h.revision, h.latest, h.accounted⟩

/-- Below the bound on revisions they rise with every change. -/
theorem Numbered.toNat_revisions {σ : State} (h : Numbered σ) (hfew : σ.made.length < UInt64.size) :
    σ.made.map (·.revision.toNat) = List.range' 1 σ.made.length := by
  have hmap : σ.made.map (·.revision.toNat) = (σ.made.map (·.revision)).map UInt64.toNat := by
    rw [List.map_map]
    rfl
  rw [hmap, h.revisions, List.map_map]
  refine (List.map_congr_left fun n hn => ?_).trans (List.map_id _)
  -- below the bound the number of a change is its revision
  have hbound := (List.mem_range'_1.mp hn).2
  exact UInt64.toNat_ofNat_of_lt' (by omega)

theorem Numbered.rising {σ : State} (h : Numbered σ) (hfew : σ.made.length < UInt64.size) :
    σ.made.Pairwise (·.revision < ·.revision) := by
  have hrising : (σ.made.map (·.revision.toNat)).Pairwise (· < ·) := by
    rw [h.toNat_revisions hfew]
    exact List.pairwise_lt_range' 1
  exact (List.pairwise_map.mp hrising).imp UInt64.lt_iff_toNat_lt.mpr

/-- The status with the highest revision among some. -/
def IsNewest (s : ControlStatus) (l : List ControlStatus) : Prop :=
  s ∈ l ∧ ∀ s' ∈ l, s' ≠ s → s'.revision < s.revision

theorem Numbered.newest {σ : State} (h : Numbered σ) (hfew : σ.made.length < UInt64.size)
    (hne : σ.made ≠ []) : IsNewest σ.arbiter.current σ.made := by
  obtain ⟨earlier, s, hmade⟩ := List.eq_nil_or_concat σ.made |>.resolve_left hne
  have hrising := h.rising hfew
  rw [List.concat_eq_append] at hmade
  have hs : s = σ.arbiter.current := h.latest s (by rw [hmade, List.getLast?_concat])
  -- revisions rise, so nothing that was made earlier comes near the last one
  rw [hmade] at hrising ⊢
  rw [← hs]
  refine ⟨List.mem_append_right _ (List.mem_singleton_self s), fun s' hs' hother => ?_⟩
  rcases List.mem_append.mp hs' with hearlier | hlast
  · exact (List.pairwise_append.mp hrising).2.2 s' hearlier s (List.mem_singleton_self s)
  · exact absurd (List.mem_singleton.mp hlast) hother

/-! ## What a session hears -/

/-- A session is gone, or it has got just what was broadcast about control. -/
def Hears (id : SessionId) (σ : State) : Prop :=
  ∃ capacity k, 0 < capacity ∧ Agrees capacity id σ.traffic k ∧
    (k.standing = .gone ∨
      (∃ seat, k.standing = .seated seat) ∧ Event.controls k.events = σ.told)

/-- An operation on the bus tells every session that stays registered what it tells. -/
theorem Hears.act {id : SessionId} {σ : State} (h : Hears id σ) (op : BusOp)
    (hop : op.IsPossible σ.traffic.bus) :
    Hears id { σ with traffic := σ.traffic.step op, told := σ.told ++ op.controls } := by
  obtain ⟨capacity, k, hcapacity, hagrees, hheard⟩ := h
  have hstep := hagrees.step hcapacity hop
  refine ⟨capacity, _, hcapacity, hstep, ?_⟩
  obtain ⟨hnone, hsome⟩ := Event.controls_of_toward op id
  cases hm : op.toward id with
  | none =>
    show k.standing = .gone ∨
      (∃ seat, k.standing = .seated seat) ∧ Event.controls k.events = σ.told ++ op.controls
    rw [hnone hm, List.append_nil]
    exact hheard
  | some m =>
    show (k.standing.step capacity m).2 = .gone ∨
      (∃ seat, (k.standing.step capacity m).2 = .seated seat) ∧
        Event.controls (k.events ++ (k.standing.step capacity m).1) = σ.told ++ op.controls
    rcases hheard with hgone | ⟨⟨seat, hseat⟩, hheard⟩
    · -- identifiers are not used again, so a session that is gone does not come back
      rw [hgone]
      exact .inl rfl
    · rw [hseat, Event.controls_append, hheard, ← hsome m hm]
      rcases Event.controls_of_move capacity m seat with hgone | ⟨hseated, hgot⟩
      · exact .inl hgone
      · exact .inr ⟨hseated, congrArg (σ.told ++ ·) hgot⟩

theorem Hears.step {id : SessionId} {σ : State} (h : Hears id σ) {x : Step} (hx : σ.Permits x) :
    Hears id (σ.step x) := by
  cases x with
  | call c => exact h
  | tell s pulls =>
    obtain ⟨capacity, k, hk⟩ := h.act (.broadcast (.control s) pulls) trivial
    exact ⟨capacity, k, hk⟩
  | meanwhile op =>
    have hact := h.act op hx.1
    rw [hx.2, List.append_nil] at hact
    exact hact
  | wait ms => exact h

/-! ## Whole runs -/

/-- What every step keeps, a run keeps. -/
theorem State.after_induction {P : State → Prop}
    (hstep : ∀ (σ : State) (x : Step), P σ → σ.Permits x → P (σ.step x)) (steps : List Step)
    {σ : State} (h : P σ) (hsteps : σ.PermitsAll steps) : P (σ.after steps) := by
  induction steps generalizing σ with
  | nil => exact h
  | cons x rest ih => exact ih (hstep σ x h hsteps.1) hsteps.2

namespace Run

theorem numbered (r : Run) : Numbered r.final :=
  State.after_induction (fun _ _ h hx => h.step hx) r.steps (numbered_start _ _) r.permitted

theorem hears (r : Run) {id : SessionId} (h : r.bus.isRegistered id = true) :
    Hears id r.final := by
  obtain ⟨s, hs⟩ := Option.isSome_iff_exists.mp h
  have huntold := r.untold s (Bus.mem_of_find? hs).1
  have hstart : Hears id (.start r.config r.bus) :=
    ⟨_, _, r.sound.roomy, r.sound.agrees hs, .inr ⟨⟨_, rfl⟩, huntold⟩⟩
  exact State.after_induction (fun _ _ h hx => h.step hx) r.steps hstart r.permitted

/-- When all is told, a session that was there all the time has got every change once. -/
theorem controls_perm (r : Run) (hended : r.final.pending = []) {id : SessionId}
    (hfirst : r.bus.isRegistered id = true)
    (hlast : r.final.traffic.bus.isRegistered id = true) :
    (Event.controls (r.final.traffic.mail id)).Perm r.final.made := by
  obtain ⟨capacity, k, -, hagrees, hheard⟩ := r.hears hfirst
  obtain ⟨seat, hseat⟩ := hagrees.isRegistered_iff.mp hlast
  rcases hheard with hgone | ⟨-, hheard⟩
  · rw [hgone] at hseat
    cases hseat
  · have haccounted := r.numbered.accounted
    rw [hended, List.append_nil] at haccounted
    rw [hagrees.mail, hheard]
    exact haccounted

end Run

/-- A call that fails changes nothing, and there is nothing to be told. -/
theorem step_of_fails {σ : State} {c : ControlCall} (h : c.Fails σ.arbiter σ.now) :
    σ.step (.call c) = σ := by
  simp only [State.step, h.locked, Option.toList_none, List.append_nil]

/-- **News of control may come in any order.** However the steps of calls are interleaved, with
fewer than 2^64 changes of control: the changes have the revisions 1, 2, 3 and so on, calls
that fail take none of them and tell nobody, and when every call has ended, whoever was
registered all the time has got one event for each change, no two with one revision, and
the one with the highest revision is how control stands. -/
theorem revisions_converge (r : Run) (hfew : r.final.made.length < UInt64.size) :
    r.final.made.map (·.revision.toNat) = List.range' 1 r.final.made.length ∧
      (∀ (σ : State) (c : ControlCall), c.Fails σ.arbiter σ.now → σ.step (.call c) = σ) ∧
      (r.final.pending = [] → ∀ id : SessionId, r.bus.isRegistered id = true →
        r.final.traffic.bus.isRegistered id = true →
        let got := Event.controls (r.final.traffic.mail id)
        got.Perm r.final.made ∧ (got.map (·.revision)).Nodup ∧
          (r.final.made ≠ [] → IsNewest r.final.arbiter.current got)) := by
  have hnumbered := r.numbered
  refine ⟨hnumbered.toNat_revisions hfew, fun σ c hc => step_of_fails hc, ?_⟩
  intro hended id hfirst hlast got
  -- what holds of all changes, in their order, holds of what the session got, in any order
  have hperm : got.Perm r.final.made := r.controls_perm hended hfirst hlast
  refine ⟨hperm, ?_, fun hne => ?_⟩
  · have hdistinct : (r.final.made.map (·.revision)).Nodup :=
      List.pairwise_map.mpr ((hnumbered.rising hfew).imp UInt64.ne_of_lt)
    exact (hperm.map _).nodup_iff.mpr hdistinct
  · obtain ⟨hmem, hless⟩ := hnumbered.newest hfew hne
    exact ⟨hperm.mem_iff.mpr hmem, fun s hs => hless s (hperm.mem_iff.mp hs)⟩

/-- Control is taken and released at once, and the news of the release comes first. In between
somebody else is refused, and the watchdog finds nobody idle. -/
def crossed : Run where
  config := { tokens := ["ann", "bob"], idleTimeoutSeconds := 60 }
  bus := (Bus.new {}).register ⟨1⟩
  sound := ⟨show List.Nodup _ by decide, by decide, by decide, by decide⟩
  untold := by decide
  steps := [.call (.take "ann"), .call (.take "bob"), .call .expire, .call .release,
    .tell ⟨false, 60, 2⟩ (fun _ => 0), .meanwhile (.receive ⟨1⟩ 1),
    .tell ⟨true, 60, 1⟩ (fun _ => 0)]
  permitted := by decide

/-- The session has read of the release already when it is told that control was taken; it keeps
the news with the higher revision. -/
theorem crossed_news :
    crossed.final.made.length < UInt64.size ∧ crossed.final.pending = [] ∧
      Event.controls (crossed.final.traffic.mail ⟨1⟩) = [⟨false, 60, 2⟩, ⟨true, 60, 1⟩] ∧
      IsNewest ⟨false, 60, 2⟩ (Event.controls (crossed.final.traffic.mail ⟨1⟩)) := by
  have hfew : crossed.final.made.length < UInt64.size := by decide
  have hended : crossed.final.pending = [] := by decide
  obtain ⟨-, -, hconverges⟩ := revisions_converge crossed hfew
  have hone := hconverges hended ⟨1⟩ (by decide) (by decide)
  exact ⟨hfew, hended, by decide, hone.2.2 (by decide)⟩

end Control

end SensorGateway
