/-
# SensorGateway.Proofs.Overlap.Steps -- calls that overlap

Calls of a gateway run at the same time. Each topic has a lock: whoever changes what is
wanted there holds it from the change of the bus to the answer of the adapter. But a
session is closed, and a recording starts and stops, without any lock; only what is
released afterwards is released under the locks, topic by topic.

A call is a `Task`, and one step of it (`Task.step`) does one thing that nobody can see
half done: it takes a lock or drops it, reads or changes the bus or the recorder, or gets
the answer of an adapter, which takes effect when it comes. Between two steps of a task
any number of steps of other tasks may happen. `Overlap.Run` is a list of such steps in
which every lock is taken by one task at a time, adapters accept what they are asked, and
nobody is evicted.

Without others in between, the steps of a call are the operation of the gateway
(`Errand.subscribe_uninterrupted`, `Errand.unsubscribe_uninterrupted`,
`Errand.release_uninterrupted`, `Task.start_uninterrupted`).
-/
import SensorGateway.Proofs.Gateway.Run

namespace SensorGateway.Overlap

/-! ## What is done under a lock -/

/-- Something to do on a topic while its lock is held. -/
inductive Errand where
  | subscribe (id : SessionId) (t : Topic) (p : Protocol) (keys : KeySet)
  | unsubscribe (id : SessionId) (t : Topic) (p : Protocol)
  /-- The adapter is pointed at what is wanted, and nothing else. -/
  | release (t : Topic) (p : Protocol)
deriving DecidableEq, Repr

/-- How far an errand has come. The lock is held in all these stages. -/
inductive Stage where
  /-- The lock was taken. -/
  | entered
  /-- The bus knows what the session asks for now. -/
  | changed
  /-- The recorder said what it tracks on the topic. -/
  | informed (recorded : Option KeySet)
  /-- The adapter was asked to watch some keys, or none, and has not answered yet. -/
  | asking (keys : Option KeySet)
  /-- The adapter watches what it should. -/
  | pointed
  /-- Only the lock is still to be dropped. -/
  | finished
deriving DecidableEq, Repr

namespace Errand

def topic : Errand → Topic
  | .subscribe _ t _ _ => t
  | .unsubscribe _ t _ => t
  | .release t _ => t

def protocol : Errand → Protocol
  | .subscribe _ _ p _ => p
  | .unsubscribe _ _ p => p
  | .release _ p => p

/-- The keys that somebody asks for. -/
def keys : Errand → KeySet
  | .subscribe _ _ _ keys => keys
  | _ => .empty

/-- The session whose interest changes, with what it asks for then. -/
def change? : Errand → Option (SessionId × Option Interest)
  | .subscribe id _ p keys => some (id, Gateway.asked p keys)
  | .unsubscribe id _ _ => some (id, none)
  | .release _ _ => none

/-- How an errand begins: a release changes no interest. -/
def first (e : Errand) : Stage := if e.change?.isSome then .entered else .changed

/-- The call that lets an adapter watch some keys of a topic, or none. -/
def callFor (t : Topic) : Option KeySet → Adapter.Call
  | some keys => .subscribe t.object keys
  | none => .unsubscribe t.object

/-- What comes after the recorder and the bus were asked: the adapter is asked to watch the union,
or to watch nothing, unless the topic is recorded without any sensor. -/
def demanding (asked : KeySet) (recorded : Option KeySet) : Stage :=
  let keys := asked.union (recorded.getD .empty)
  if !keys.isEmpty then .asking (some keys)
  else if recorded.isSome then .pointed
  else .asking none

theorem demanding_of_nonempty {asked : KeySet} {recorded : Option KeySet}
    (h : (asked.union (recorded.getD .empty)).isEmpty = false) :
    demanding asked recorded = .asking (some (asked.union (recorded.getD .empty))) := by
  simp [demanding, h]

theorem demanding_of_empty {asked : KeySet} {recorded : Option KeySet}
    (h : (asked.union (recorded.getD .empty)).isEmpty = true) :
    demanding asked recorded = if recorded.isSome then .pointed else .asking none := by
  simp [demanding, h]

/-- The bus learns what a session asks for now, if that changes. An unknown session ends the
errand. -/
def enter (g : Gateway) (e : Errand) : Gateway × Stage :=
  match e.change? with
  | none => (g, .changed)
  | some (id, i) =>
    match g.bus.restore id e.topic i with
    | .error _ => (g, .finished)
    | .ok bus => ({ g with bus }, .changed)

/-- The recorder is asked what it tracks. Without an adapter the errand ends here. -/
def inform (g : Gateway) (e : Errand) : Stage :=
  match g.routes.get? ⟨e.topic.server, e.protocol⟩ with
  | none => .finished
  | some _ => .informed (g.recorder.sensorsOn? e.topic)

/-- A running recording takes in the sensors that a session asked for. -/
def conclude (g : Gateway) : Errand → Gateway
  | .subscribe _ t p keys => { g with recorder := (g.recorder.track t p keys).1 }
  | _ => g

/-- One step of an errand. -/
def step (g : Gateway) (e : Errand) : Stage → Gateway × Stage
  | .entered => e.enter g
  | .changed => (g, e.inform g)
  | .informed recorded => (g, demanding (g.bus.sensorsOn e.topic) recorded)
  | .asking keys => ((g.request e.topic e.protocol (callFor e.topic keys)).1, .pointed)
  | .pointed => (e.conclude g, .finished)
  | .finished => (g, .finished)

/-- Some steps of an errand with nothing in between. -/
def steps (e : Errand) : Nat → Gateway × Stage → Gateway × Stage
  | 0, x => x
  | n + 1, x => e.steps n (e.step x.1 x.2)

end Errand

/-! ## Calls on their way -/

/-- A call on its way. -/
inductive Task where
  /-- Errands that are still to do, the one whose lock is held, and whether all sessions are told
  about the recording in the end. -/
  | round (ahead : List Errand) (current : Option (Errand × Stage)) (announces : Bool)
  /-- A recording starts: topics whose sensors are still to be read, and what was read. -/
  | survey (ahead : List (Topic × Protocol)) (seen : SortedMap Topic Interest)
  /-- The recorder has begun. -/
  | started
  /-- Adapters that are still to be asked for all values. -/
  | capture (ahead : List (Topic × Interest))
  | announce
  | ended
deriving DecidableEq, Repr

namespace Task

/-- The errands of a task that wait for their locks. -/
def ahead : Task → List Errand
  | .round ahead _ _ => ahead
  | _ => []

/-- The errand whose lock a task holds. -/
def current : Task → Option (Errand × Stage)
  | .round _ current _ => current
  | _ => none

/-- Whether a task holds the lock of a topic. -/
def holds (x : Task) (t : Topic) : Bool := x.current.any fun c => c.1.topic = t

/-- The topic whose lock a task takes in its next step. -/
def goal? : Task → Option Topic
  | .round (e :: _) none _ => some e.topic
  | _ => none

/-- What a task asks an adapter for when it gets the answer in its next step. -/
def question? : Task → Option (Errand × Option KeySet)
  | .round _ (some (e, .asking keys)) _ => some (e, keys)
  | _ => none

/-- What a recorder is to begin with in the next step. -/
def snapshot? : Task → Option (SortedMap Topic Interest)
  | .survey [] seen => some seen
  | _ => none

def isRound : Task → Bool
  | .round .. => true
  | _ => false

def isSurvey : Task → Bool
  | .survey .. => true
  | _ => false

/-- One step of a task that holds no lock: it takes the next one, if there is one. -/
def proceed (announces : Bool) : List Errand → Task
  | e :: ahead => .round ahead (some (e, e.first)) announces
  | [] => if announces then .announce else .ended

/-- One step of a task that holds a lock: its errand goes on, or the lock is dropped. -/
def work (g : Gateway) (ahead : List Errand) (announces : Bool) (e : Errand) :
    Stage → Gateway × Task
  | .finished => (g, .round ahead none announces)
  | s => ((e.step g s).1, .round ahead (some (e, (e.step g s).2)) announces)

/-- The recorder begins with what was read, unless it records already. -/
def begin (g : Gateway) (seen : SortedMap Topic Interest) : Gateway × Task :=
  match g.recorder.start? g.clock.wall seen with
  | none => (g, .ended)
  | some recorder => ({ g with recorder }, .started)

/-- One step of a task. -/
def step (g : Gateway) : Task → Gateway × Task
  | .round ahead none announces => (g, proceed announces ahead)
  | .round ahead (some (e, s)) announces => work g ahead announces e s
  | .survey ((t, p) :: ahead) seen => (g, .survey ahead (seen.insert t ⟨p, g.bus.sensorsOn t⟩))
  | .survey [] seen => begin g seen
  | .started => (g, .capture g.recorder.tracked.toList)
  | .capture (e :: ahead) =>
    ((g.request e.1 e.2.protocol (.forceEmit e.1.object)).1, .capture ahead)
  | .capture [] => (g, .announce)
  | .announce => (g.announceRecording.1, .ended)
  | .ended => (g, .ended)

/-- Some steps of a task with nothing in between. -/
def steps : Nat → Gateway × Task → Gateway × Task
  | 0, x => x
  | n + 1, x => steps n (x.2.step x.1)

/-- A call on one topic. -/
def single (e : Errand) : Task := .round [e] none false

/-- The releases of several topics. -/
def releases (topics : List (Topic × Protocol)) (announces : Bool) : Task :=
  .round (topics.map fun e => .release e.1 e.2) none announces

end Task

/-! ## Nobody in between -/

namespace Errand

theorem steps_add (e : Errand) (m n : Nat) (x : Gateway × Stage) :
    e.steps (m + n) x = e.steps n (e.steps m x) := by
  induction m generalizing x with
  | zero => rw [Nat.zero_add]; rfl
  | succ m ih => rw [Nat.succ_add]; exact ih _

/-- Reading the recorder and the bus right after each other leads to the call that points the
adapter, or to none. -/
theorem demanding_eq (g : Gateway) (t : Topic) :
    (∃ keys, demanding (g.bus.sensorsOn t) (g.recorder.sensorsOn? t) = .asking keys ∧
      g.pointingCall t = some (callFor t keys)) ∨
    (demanding (g.bus.sensorsOn t) (g.recorder.sensorsOn? t) = .pointed ∧
      g.pointingCall t = none) := by
  have htracking : g.recorder.isTracking t = (g.recorder.sensorsOn? t).isSome := by
    simp [Recorder.isTracking, SortedMap.contains, Recorder.sensorsOn?]
  unfold Gateway.pointingCall
  rw [htracking]
  cases hne : (g.wanted t).isEmpty with
  | false => exact .inl ⟨some (g.wanted t), demanding_of_nonempty hne, rfl⟩
  | true =>
    rw [demanding_of_empty hne]
    cases (g.recorder.sensorsOn? t).isSome with
    | false => exact .inl ⟨none, rfl, rfl⟩
    | true => exact .inr ⟨rfl, rfl⟩

/-- The steps between the change of the bus and the answer of the adapter point it at what is
wanted. -/
theorem pointing_uninterrupted {g : Gateway} {e : Errand}
    (hok : (g.reconcile e.topic e.protocol).2.isOk = true) :
    ∃ n, e.steps n (g, .changed) = ((g.reconcile e.topic e.protocol).1, .pointed) := by
  unfold Gateway.reconcile at hok ⊢
  cases hn : g.adapterFor e.topic e.protocol with
  | error err =>
    rw [hn] at hok
    cases hok
  | ok n =>
    have hstep : e.step g .changed = (g, .informed (g.recorder.sensorsOn? e.topic)) := by
      simp only [step, inform, Gateway.adapterFor_eq_ok.mp hn]
    rcases demanding_eq g e.topic with ⟨keys, hkeys, hcall⟩ | ⟨hpointed, hcall⟩
    · refine ⟨3, ?_⟩
      rw [hcall]
      simp only [steps, hstep]
      simp only [step, hkeys]
    · refine ⟨2, ?_⟩
      rw [hcall]
      simp only [steps, hstep]
      simp only [step, hpointed]

theorem subscribe_uninterrupted {g : Gateway} {id : SessionId} {t : Topic} {p : Protocol}
    {keys : KeySet} (hok : (g.subscribe id t p keys).2.isOk = true) :
    ∃ n, (subscribe id t p keys).steps n (g, .entered) =
      ((g.subscribe id t p keys).1, .finished) := by
  rcases Gateway.subscribe_cases g id t p keys with
    ⟨-, ⟨-, hr⟩ | ⟨-, hr⟩⟩ | ⟨-, b, -, hb, ⟨e, -, -, hr⟩ | ⟨hpointed, hg, -⟩⟩
  · rw [hr] at hok; cases hok
  · rw [hr] at hok; cases hok
  · rw [hr] at hok; cases hok
  · let e := subscribe id t p keys
    have hentered : e.step g .entered = ({ g with bus := b }, .changed) := by
      simp only [step, enter, e, change?, topic, hb]
    obtain ⟨n, hn⟩ := pointing_uninterrupted (g := { g with bus := b }) (e := e)
      (by rw [show e.topic = t from rfl, show e.protocol = p from rfl, hpointed]; rfl)
    refine ⟨1 + (n + 1), ?_⟩
    rw [steps_add, show e.steps 1 (g, .entered) = _ from hentered, steps_add, hn, hg]
    rfl

theorem unsubscribe_uninterrupted {g : Gateway} {id : SessionId} {t : Topic} {p : Protocol}
    (hok : (g.unsubscribe id t p).2.isOk = true) :
    ∃ n, (unsubscribe id t p).steps n (g, .entered) = ((g.unsubscribe id t p).1, .finished) := by
  unfold Gateway.unsubscribe Bus.unsubscribe at hok ⊢
  cases hb : g.bus.restore id t none with
  | error err =>
    rw [hb] at hok
    cases hok
  | ok b =>
    rw [hb] at hok
    let e := unsubscribe id t p
    have hentered : e.step g .entered = ({ g with bus := b }, .changed) := by
      simp only [step, enter, e, change?, topic, hb]
    obtain ⟨n, hn⟩ := pointing_uninterrupted (g := { g with bus := b }) (e := e) hok
    refine ⟨1 + (n + 1), ?_⟩
    rw [steps_add, show e.steps 1 (g, .entered) = _ from hentered, steps_add, hn]
    rfl

theorem release_uninterrupted {g : Gateway} {t : Topic} {p : Protocol}
    (hok : (g.reconcile t p).2.isOk = true) :
    ∃ n, (release t p).steps n (g, (release t p).first) = (g.releaseTopics [(t, p)], .finished) := by
  obtain ⟨n, hn⟩ := pointing_uninterrupted (g := g) (e := release t p) hok
  refine ⟨n + 1, ?_⟩
  rw [steps_add, show (release t p).first = .changed from rfl, hn]
  rfl

end Errand

namespace Task

theorem steps_add (m n : Nat) (x : Gateway × Task) : steps (m + n) x = steps n (steps m x) := by
  induction m generalizing x with
  | zero => rw [Nat.zero_add]; rfl
  | succ m ih => rw [Nat.succ_add]; exact ih _

/-- What is read about several topics, one after the other, while nothing changes. -/
theorem get?_reading (b : Bus) {l : List (Topic × Protocol)}
    (hl : l.Pairwise fun d e => compare d.1 e.1 = .lt) (seen : SortedMap Topic Interest)
    (t : Topic) :
    (l.foldl (fun m e => m.insert e.1 ⟨e.2, b.sensorsOn e.1⟩) seen).get? t =
      match SortedMap.find? t l with
      | some p => some ⟨p, b.sensorsOn t⟩
      | none => seen.get? t := by
  induction l generalizing seen with
  | nil => rfl
  | cons e rest ih =>
    obtain ⟨he, hrest⟩ := List.pairwise_cons.mp hl
    rw [List.foldl_cons, ih hrest, SortedMap.get?_insert, SortedMap.find?]
    by_cases ht : t = e.1
    · rw [if_pos ht, if_pos ht, ht, SortedMap.find?_eq_none_of_lt he]
    · rw [if_neg ht, if_neg ht]

theorem survey_uninterrupted (g : Gateway) (l : List (Topic × Protocol))
    (seen : SortedMap Topic Interest) :
    steps l.length (g, .survey l seen) =
      (g, .survey [] (l.foldl (fun m e => m.insert e.1 ⟨e.2, g.bus.sensorsOn e.1⟩) seen)) := by
  induction l generalizing seen with
  | nil => rfl
  | cons e rest ih => exact ih _

theorem capture_uninterrupted (g : Gateway) (l : List (Topic × Interest)) :
    steps l.length (g, .capture l) = (g.captureBaseline l, .capture []) := by
  induction l generalizing g with
  | nil => rfl
  | cons e rest ih => exact ih _

/-- Reading all active topics finds what sessions ask for. -/
theorem foldl_activeTopics (g : Gateway) :
    g.bus.activeTopics.toList.foldl (fun m e => m.insert e.1 ⟨e.2, g.bus.sensorsOn e.1⟩) .empty =
      g.activeInterests := by
  apply SortedMap.ext
  intro t
  rw [get?_reading g.bus g.bus.activeTopics.increasing]
  unfold Gateway.activeInterests
  rw [SortedMap.get?_mapValues]
  show _ = (SortedMap.find? t g.bus.activeTopics.toList).map _
  cases SortedMap.find? t g.bus.activeTopics.toList <;> rfl

theorem start_uninterrupted (g : Gateway) :
    ∃ n, steps n (g, .survey g.bus.activeTopics.toList .empty) = (g.startRecording.1, .ended) := by
  have hread := survey_uninterrupted g g.bus.activeTopics.toList .empty
  rw [foldl_activeTopics] at hread
  unfold Gateway.startRecording
  cases hr : g.recorder.start? g.clock.wall g.activeInterests with
  | none =>
    refine ⟨g.bus.activeTopics.toList.length + 1, ?_⟩
    rw [steps_add, hread]
    simp only [steps, step, begin, hr]
  | some r =>
    -- the recorder begins, is asked what it tracks, and its topics are captured
    have hbegun : steps 2 (g, .survey [] g.activeInterests) =
        ({ g with recorder := r }, .capture r.tracked.toList) := by
      simp only [steps, step, begin, hr]
    refine ⟨g.bus.activeTopics.toList.length + (2 + (r.tracked.toList.length + 2)), ?_⟩
    rw [steps_add, hread, steps_add, hbegun, steps_add, capture_uninterrupted]
    rfl

end Task

/-! ## Interleavings -/

/-- A gateway with the calls on their way, in the order in which they began. -/
structure State where
  gateway : Gateway
  tasks : List Task

/-- What can happen next. -/
inductive Step where
  | openSession (id : SessionId)
  | subscribe (id : SessionId) (t : Topic) (p : Protocol) (keys : KeySet)
  | unsubscribe (id : SessionId) (t : Topic) (p : Protocol)
  /-- A session is closed at once; its topics are released later. -/
  | closeSession (id : SessionId)
  | startRecording
  /-- The recorder stops at once; its topics are released later. -/
  | stopRecording
  /-- Something that leaves all interests alone. -/
  | meanwhile (op : Op)
  /-- A task does its next step. -/
  | advance (n : Nat)

namespace State

/-- Nothing is on its way. -/
def start (g : Gateway) : State := ⟨g, []⟩

/-- One more call. -/
def spawn (s : State) (x : Task) : State := { s with tasks := s.tasks ++ [x] }

/-- Whether somebody holds the lock of a topic. -/
def isLocked (s : State) (t : Topic) : Bool := s.tasks.any fun x => x.holds t

/-- What happens. -/
def next (s : State) : Step → State
  | .openSession id => { s with gateway := (s.gateway.openSession id).1 }
  | .subscribe id t p keys =>
    if (s.gateway.routes.get? ⟨t.server, p⟩).isSome then s.spawn (.single (.subscribe id t p keys))
    else s
  | .unsubscribe id t p => s.spawn (.single (.unsubscribe id t p))
  | .closeSession id =>
    let (gateway, topics) := s.gateway.closeSession id
    if topics.isEmpty then { s with gateway }
    else { s with gateway }.spawn (.releases topics false)
  | .startRecording => s.spawn (.survey s.gateway.bus.activeTopics.toList .empty)
  | .stopRecording =>
    match s.gateway.recorder.stop? s.gateway.clock.wall with
    | none => s
    | some (recorder, tracked) =>
      let topics := tracked.toList.map fun e => (e.1, e.2.protocol)
      { s with gateway := { s.gateway with recorder } }.spawn (.releases topics true)
  | .meanwhile op => { s with gateway := op.act s.gateway }
  | .advance n =>
    match s.tasks[n]? with
    | none => s
    | some x => ⟨(x.step s.gateway).1, s.tasks.set n (x.step s.gateway).2⟩

/-- A task can do its next step: the lock that it takes is free. -/
def Unblocked (s : State) (x : Task) : Prop := ∀ t ∈ x.goal?, s.isLocked t = false

instance (s : State) (x : Task) : Decidable (s.Unblocked x) :=
  inferInstanceAs (Decidable (∀ t ∈ x.goal?, s.isLocked t = false))

/-- The adapter that answers a task accepts what it was asked. -/
def Accepts (s : State) (x : Task) : Prop :=
  ∀ q ∈ x.question?,
    (s.gateway.request q.1.topic q.1.protocol (Errand.callFor q.1.topic q.2)).2.isOk = true

instance (s : State) (x : Task) : Decidable (s.Accepts x) :=
  inferInstanceAs (Decidable (∀ q ∈ x.question?,
    (s.gateway.request q.1.topic q.1.protocol (Errand.callFor q.1.topic q.2)).2.isOk = true))

/-- Nobody is evicted. -/
def Quiet (s : State) : Step → Prop
  | .closeSession _ => True
  | step => (s.next step).gateway.bus.departed.length = s.gateway.bus.departed.length

instance (s : State) (step : Step) : Decidable (s.Quiet step) := by
  cases step <;> unfold Quiet <;> infer_instance

/-- Something can happen: new sessions have new identifiers, what happens besides leaves interests
alone, and only tasks go on that can. -/
def Permits (s : State) : Step → Prop
  | .openSession id => id ∉ s.gateway.bus.ids
  | .meanwhile op => op.isCalm = true
  | .advance n => ∀ x ∈ s.tasks[n]?, s.Unblocked x ∧ s.Accepts x
  | _ => True

instance (s : State) (step : Step) : Decidable (s.Permits step) := by
  cases step <;> unfold Permits <;> infer_instance

/-- Everything that happens is of some kind where it happens. -/
def Along (K : State → Step → Prop) (s : State) : List Step → Prop
  | [] => True
  | step :: rest => K s step ∧ (s.next step).Along K rest

instance decidableAlong (K : State → Step → Prop) [∀ s step, Decidable (K s step)] (s : State) :
    (steps : List Step) → Decidable (s.Along K steps)
  | [] => isTrue trivial
  | step :: rest =>
    have := decidableAlong K (s.next step) rest
    inferInstanceAs (Decidable (K s step ∧ (s.next step).Along K rest))

theorem along_of_forall {K : State → Step → Prop} {s : State} {steps : List Step}
    (h : ∀ s, ∀ step ∈ steps, K s step) : s.Along K steps := by
  induction steps generalizing s with
  | nil => trivial
  | cons step rest ih =>
    exact ⟨h s step (by simp), ih fun s step' hmem => h s step' (List.mem_cons_of_mem step hmem)⟩

theorem Along.and {K L : State → Step → Prop} {s : State} {steps : List Step}
    (hK : s.Along K steps) (hL : s.Along L steps) :
    s.Along (fun s step => K s step ∧ L s step) steps := by
  induction steps generalizing s with
  | nil => trivial
  | cons step rest ih => exact ⟨⟨hK.1, hL.1⟩, ih hK.2 hL.2⟩

/-- Everything that happens, one after the other. -/
def after (s : State) (steps : List Step) : State := steps.foldl next s

end State

/-- Some steps of one task, one after the other. -/
def Step.times (n : Nat) (k : Nat) : List Step := List.replicate k (.advance n)

/-- Whether a call is for a topic only under one family. -/
def Step.KeepsTo (t : Topic) (p : Protocol) : Step → Prop
  | .subscribe _ t' p' _ => t' = t → p' = p
  | .unsubscribe _ t' p' => t' = t → p' = p
  | _ => True

instance (t : Topic) (p : Protocol) (step : Step) : Decidable (step.KeepsTo t p) := by
  cases step <;> unfold Step.KeepsTo <;> infer_instance

/-- Overlapping calls of an assembled gateway. -/
structure Run where
  config : Config
  clock : Clock
  /-- The adapters beside those of the settings. -/
  more : List Installation
  steps : List Step
  admissible : (State.start (.assemble config clock more)).Along
    (fun s step => s.Permits step ∧ s.Quiet step) steps

namespace Run

/-- Where overlapping calls begin. -/
def start (r : Run) : State := .start (.assemble r.config r.clock r.more)

/-- Where overlapping calls end. -/
def state (r : Run) : State := r.start.after r.steps

/-- The gateway in the end. -/
def gateway (r : Run) : Gateway := r.state.gateway

/-- What holds at first and is kept by everything of some kind holds in the end. -/
theorem induction {P : State → Prop} {K : State → Step → Prop}
    (fresh : ∀ g : Gateway, g.Fresh → P (State.start g))
    (keep : ∀ s step, P s → s.Permits step → s.Quiet step → K s step → P (s.next step)) (r : Run)
    (hkind : r.start.Along K r.steps) : P r.state := by
  -- by induction on what happens, from any state in which it can
  have along (steps : List Step) (s : State) (hs : P s)
      (hcan : s.Along (fun s step => s.Permits step ∧ s.Quiet step) steps)
      (hkind : s.Along K steps) : P (s.after steps) := by
    induction steps generalizing s with
    | nil => exact hs
    | cons step rest ih =>
      exact ih (s.next step) (keep s step hs hcan.1.1 hcan.1.2 hkind.1) hcan.2 hkind.2
  exact along r.steps r.start (fresh _ (Gateway.fresh_assemble r.config r.clock r.more))
    r.admissible hkind

end Run

end SensorGateway.Overlap
