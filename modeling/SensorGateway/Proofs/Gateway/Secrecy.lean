/-
# SensorGateway.Proofs.Gateway.Secrecy -- control tokens never leak

Tokens are kept in the arbiter, compared with each other and with the empty text, and looked up
among the allowed ones. `tokens_never_leak` says that nothing else is ever done with them. Let
two gateways be made from the same settings, but with other tokens in the second one, and let
the same things happen to both, again with the other tokens. As long as different tokens stay
different and the empty one stays empty (`Renaming`), nobody can tell the two apart: not by an
answer, not by what is put into a channel, not by a call of an adapter, a record, a session or a
server.

Both gateways see the same times and the same identifiers of sessions. A call about control may
be split there: its part under the lock of the arbiter, and the broadcast of the status that it
produced, with anything else in between.

The two gateways are the same but for the arbiter, and the arbiter of the second one is the renamed
arbiter of the first one. Most operations do not care about the arbiter at all
(`Gateway.IgnoresControl`), and the calls about control keep the renaming.
-/
import Mathlib.Logic.Function.Defs
import SensorGateway.Proofs.Gateway.Account

namespace SensorGateway

/-! ## Other tokens -/

/-- Other tokens in place of those in use. Different tokens stay different, and only the empty one
becomes the empty one. -/
structure Renaming where
  map : String → String
  injective : Function.Injective map
  map_empty : map "" = ""

namespace Renaming

variable (ρ : Renaming)

theorem map_eq_iff {s t : String} : ρ.map s = ρ.map t ↔ s = t := ρ.injective.eq_iff

theorem map_eq_empty_iff {t : String} : ρ.map t = "" ↔ t = "" := by
  rw [← ρ.map_empty]
  exact ρ.map_eq_iff.trans (by rw [ρ.map_empty])

end Renaming

/-- The settings with other allowed tokens. -/
def Config.rename (ρ : Renaming) (c : Config) : Config :=
  { c with control := { c.control with tokens := c.control.tokens.map ρ.map } }

namespace Arbiter

/-- An arbiter that knows everybody by another token. -/
def rename (ρ : Renaming) (a : Arbiter) : Arbiter :=
  { a with
    allowed := .ofList (a.allowed.toList.map ρ.map)
    holder := a.holder.map fun h => ⟨ρ.map h.token, h.lastActivity⟩ }

variable (ρ : Renaming) (a : Arbiter)

theorem mem_allowed_rename {t : String} : ρ.map t ∈ (a.rename ρ).allowed ↔ t ∈ a.allowed := by
  rw [rename, SortedSet.mem_ofList, List.mem_map]
  constructor
  · rintro ⟨s, hs, hst⟩
    exact ρ.map_eq_iff.mp hst ▸ hs
  · exact fun ht => ⟨t, ht, rfl⟩

theorem isEmpty_allowed_rename : (a.rename ρ).allowed.isEmpty = a.allowed.isEmpty := by
  rw [Bool.eq_iff_iff, SortedSet.isEmpty_iff, SortedSet.isEmpty_iff]
  constructor
  · exact fun h t ht => h (ρ.map t) ((a.mem_allowed_rename ρ).mpr ht)
  · intro h t ht
    rw [rename, SortedSet.mem_ofList, List.mem_map] at ht
    obtain ⟨s, hs, -⟩ := ht
    exact h s hs

theorem rename_new (c : Config.Control) :
    new { c with tokens := c.tokens.map ρ.map } = (new c).rename ρ := by
  have hallowed : SortedSet.ofList (c.tokens.map ρ.map) =
      .ofList ((SortedSet.ofList c.tokens).toList.map ρ.map) := by
    refine SortedSet.ext fun t => ?_
    simp only [SortedSet.mem_ofList, List.mem_map, ← SortedSet.mem_def]
  rw [new, hallowed]
  rfl

/-! ### What the arbiter answers -/

theorem accepts_rename (t : String) : (a.rename ρ).accepts (ρ.map t) = a.accepts t := by
  rw [Bool.eq_iff_iff, accepts_iff, accepts_iff, isEmpty_allowed_rename, mem_allowed_rename,
    ne_eq, ρ.map_eq_empty_iff]

theorem current_rename : (a.rename ρ).current = a.current := by
  simp only [current, rename, Option.isSome_map, timeoutSec]

theorem status_rename (token : Option String) :
    (a.rename ρ).status (token.map ρ.map) = a.status token := by
  unfold status
  cases hh : a.holder with
  | none => simp [rename, hh, timeoutSec]
  | some h =>
    cases token with
    | none => simp [rename, hh, timeoutSec]
    | some t => simp [rename, hh, timeoutSec, ρ.map_eq_iff, ρ.map_eq_empty_iff]

theorem take_rename (now : Nat) (t : String) :
    (a.rename ρ).take now (ρ.map t) = (a.take now t).map (rename ρ) := by
  have hblocked : ((a.rename ρ).holder.any fun h =>
      h.token ≠ ρ.map t && !(a.rename ρ).isIdle now h) =
      a.holder.any fun h => h.token ≠ t && !a.isIdle now h := by
    cases hh : a.holder with
    | none => simp [rename, hh]
    | some h => simp [rename, hh, isIdle, ρ.map_eq_iff]
  simp only [take, accepts_rename, hblocked]
  split
  · rfl
  · split
    · rfl
    · rfl

theorem expire?_rename (now : Nat) :
    (a.rename ρ).expire? now = (a.expire? now).map (rename ρ) := by
  have hidle : (a.rename ρ).holder.any ((a.rename ρ).isIdle now) =
      a.holder.any (a.isIdle now) := by
    simp only [rename, Option.any_map]
    rfl
  unfold expire?
  rw [hidle]
  split <;> rfl

theorem authorize_rename (now : Nat) (token : Option String) :
    (a.rename ρ).authorize now (token.map ρ.map) = (a.authorize now token).map (rename ρ) := by
  cases token with
  | none => rfl
  | some t =>
    have hholds : ((a.rename ρ).holder.any (·.token = ρ.map t)) = a.holder.any (·.token = t) := by
      simp only [rename, Option.any_map, ρ.map_eq_iff]
    simp only [authorize, Option.map_some, ρ.map_eq_empty_iff, hholds]
    split
    · rfl
    · split <;> rfl

end Arbiter

/-! ## Operations that do not care -/

namespace Gateway

/-- The gateway with another arbiter. -/
def withArbiter (g : Gateway) (a : Arbiter) : Gateway := { g with arbiter := a }

section

variable (g : Gateway) (a : Arbiter)

/-- Steps that do not care, one after the other. -/
theorem foldl_withArbiter {β : Type} {step : Gateway → β → Gateway}
    (h : ∀ g x, step (g.withArbiter a) x = (step g x).withArbiter a) (l : List β) :
    l.foldl step (g.withArbiter a) = (l.foldl step g).withArbiter a := by
  induction l generalizing g with
  | nil => rfl
  | cons x rest ih => rw [List.foldl_cons, h, ih, List.foldl_cons]

theorem publishFrom_withArbiter (b : Batch) :
    (g.withArbiter a).publishFrom b = ((g.publishFrom b).1.withArbiter a, (g.publishFrom b).2) := by
  unfold publishFrom
  split <;> rfl

theorem sendTo_withArbiter (id : SessionId) (e : Event) :
    (g.withArbiter a).sendTo id e = ((g.sendTo id e).1.withArbiter a, (g.sendTo id e).2) := by
  unfold sendTo
  rw [show (g.withArbiter a).bus = g.bus from rfl]
  cases g.bus.isRegistered id <;> rfl

theorem call_withArbiter (n : Nat) (c : Adapter.Call) :
    (g.withArbiter a).call n c = ((g.call n c).1.withArbiter a, (g.call n c).2) := by
  cases ha : g.adapters[n]? with
  | none =>
    unfold call
    rw [show (g.withArbiter a).adapters[n]? = none from ha, ha]
  | some adapter =>
    rw [call_eq ha, call_eq (g := g.withArbiter a) ha]
    have htold (g : Gateway) (bs : List Batch) :
        bs.foldl (fun g b => (g.publishFrom b).1) (g.withArbiter a) =
          (bs.foldl (fun g b => (g.publishFrom b).1) g).withArbiter a :=
      g.foldl_withArbiter a (fun g b => congrArg Prod.fst (g.publishFrom_withArbiter a b)) bs
    exact Prod.ext (htold (g.noting n c (adapter.ask g.clock.wall c)) _) rfl

theorem request_withArbiter (t : Topic) (p : Protocol) (c : Adapter.Call) :
    (g.withArbiter a).request t p c =
      ((g.request t p c).1.withArbiter a, (g.request t p c).2) := by
  unfold request
  rw [show (g.withArbiter a).adapterFor t p = g.adapterFor t p from rfl]
  cases g.adapterFor t p with
  | error e => rfl
  | ok n =>
    dsimp only
    rw [call_withArbiter]
    obtain ⟨g', r⟩ := g.call n c
    cases r <;> rfl

theorem reconcile_withArbiter (t : Topic) (p : Protocol) :
    (g.withArbiter a).reconcile t p =
      ((g.reconcile t p).1.withArbiter a, (g.reconcile t p).2) := by
  unfold reconcile
  rw [show (g.withArbiter a).adapterFor t p = g.adapterFor t p from rfl,
    show (g.withArbiter a).pointingCall t = g.pointingCall t from rfl]
  cases g.adapterFor t p with
  | error e => rfl
  | ok n =>
    cases g.pointingCall t with
    | none => rfl
    | some c => exact g.request_withArbiter a t p c

theorem releaseTopics_withArbiter (topics : List (Topic × Protocol)) :
    (g.withArbiter a).releaseTopics topics = (g.releaseTopics topics).withArbiter a :=
  g.foldl_withArbiter a (fun g e => congrArg Prod.fst (g.reconcile_withArbiter a e.1 e.2)) topics

theorem takeBack_withArbiter (id : SessionId) (t : Topic) (p : Protocol)
    (previous : Option Interest) (e : GatewayError) :
    (g.withArbiter a).takeBack id t p previous e =
      ((g.takeBack id t p previous e).1.withArbiter a, (g.takeBack id t p previous e).2) := by
  unfold takeBack
  rw [show (g.withArbiter a).bus = g.bus from rfl]
  cases g.bus.restore id t previous with
  | error e => rfl
  | ok bus =>
    have hpointed := reconcile_withArbiter { g with bus } a t p
    dsimp only [withArbiter] at hpointed ⊢
    rw [hpointed]

theorem subscribe_withArbiter (id : SessionId) (t : Topic) (p : Protocol) (keys : KeySet) :
    (g.withArbiter a).subscribe id t p keys =
      ((g.subscribe id t p keys).1.withArbiter a, (g.subscribe id t p keys).2) := by
  unfold subscribe
  rw [show (g.withArbiter a).adapterFor t p = g.adapterFor t p from rfl]
  cases g.adapterFor t p with
  | error e => rfl
  | ok n =>
    dsimp only
    rw [show (g.withArbiter a).bus = g.bus from rfl]
    cases g.bus.subscribe id t p keys with
    | error e => rfl
    | ok r =>
      obtain ⟨bus, count⟩ := r
      have hpointed := reconcile_withArbiter { g with bus } a t p
      dsimp only [withArbiter] at hpointed ⊢
      rw [hpointed]
      generalize reconcile { g with bus } t p = x
      obtain ⟨g', r⟩ := x
      cases r with
      | ok _ => rfl
      | error e =>
        have hback := g'.takeBack_withArbiter a id t p (g.bus.subscription? id t) e
        dsimp only [withArbiter] at hback ⊢
        rw [hback]

theorem unsubscribe_withArbiter (id : SessionId) (t : Topic) (p : Protocol) :
    (g.withArbiter a).unsubscribe id t p =
      ((g.unsubscribe id t p).1.withArbiter a, (g.unsubscribe id t p).2) := by
  unfold unsubscribe
  rw [show (g.withArbiter a).bus = g.bus from rfl]
  cases g.bus.unsubscribe id t with
  | error e => rfl
  | ok bus => exact reconcile_withArbiter { g with bus } a t p

theorem captureBaseline_withArbiter (topics : List (Topic × Interest)) :
    (g.withArbiter a).captureBaseline topics = (g.captureBaseline topics).withArbiter a :=
  g.foldl_withArbiter a (fun g e =>
    congrArg Prod.fst (g.request_withArbiter a e.1 e.2.protocol (.forceEmit e.1.object))) topics

theorem startRecording_withArbiter :
    (g.withArbiter a).startRecording =
      (g.startRecording.1.withArbiter a, g.startRecording.2) := by
  unfold startRecording
  rw [show (g.withArbiter a).recorder = g.recorder from rfl,
    show (g.withArbiter a).activeInterests = g.activeInterests from rfl,
    show (g.withArbiter a).clock = g.clock from rfl]
  cases g.recorder.start? g.clock.wall g.activeInterests with
  | none => rfl
  | some recorder =>
    have hcaptured := captureBaseline_withArbiter { g with recorder } a recorder.tracked.toList
    dsimp only [withArbiter] at hcaptured ⊢
    rw [hcaptured]
    rfl

theorem stopRecording_withArbiter :
    (g.withArbiter a).stopRecording =
      (g.stopRecording.1.withArbiter a, g.stopRecording.2) := by
  unfold stopRecording
  rw [show (g.withArbiter a).recorder = g.recorder from rfl,
    show (g.withArbiter a).clock = g.clock from rfl]
  cases g.recorder.stop? g.clock.wall with
  | none => rfl
  | some r =>
    obtain ⟨recorder, tracked⟩ := r
    have hreleased := releaseTopics_withArbiter { g with recorder } a
      (tracked.toList.map fun e => (e.1, e.2.protocol))
    dsimp only [withArbiter] at hreleased ⊢
    rw [hreleased]
    rfl

/-! ### Adapters -/

theorem register_withArbiter (server : ServerId) (n : Nat) :
    (g.withArbiter a).register server n = (g.register server n).withArbiter a := by
  unfold register
  rw [show (g.withArbiter a).adapters = g.adapters from rfl]
  cases g.adapters[n]? <;> rfl

theorem install_withArbiter (i : Installation) :
    (g.withArbiter a).install i = (g.install i).withArbiter a :=
  register_withArbiter (g.addAdapter i.adapter).1 a i.server _

theorem registerServer_withArbiter (s : Config.Server) :
    (g.withArbiter a).registerServer s =
      ((g.registerServer s).1.withArbiter a, (g.registerServer s).2) := by
  unfold registerServer
  cases loopbackFamilies s with
  | nil => rfl
  | cons p rest =>
    dsimp only
    rw [foldl_withArbiter _ _ fun g p => register_withArbiter (g.addAdapter _).1 a _ _]
    rfl

theorem registerLoopback_withArbiter (servers : List Config.Server) :
    (g.withArbiter a).registerLoopback servers =
      ((g.registerLoopback servers).1.withArbiter a, (g.registerLoopback servers).2) := by
  induction servers generalizing g with
  | nil => rfl
  | cons s rest ih => simp only [registerLoopback, registerServer_withArbiter, ih]

end

/-! ## Control with other tokens -/

/-- The gateway with an arbiter that knows everybody by another token. -/
def rename (ρ : Renaming) (g : Gateway) : Gateway := g.withArbiter (g.arbiter.rename ρ)

variable (ρ : Renaming)

/-- The adapters are installed whatever the arbiter is like. -/
theorem assemble_withArbiter (c : Config) (clock : Clock) (more : List Installation)
    (a : Arbiter) :
    more.foldl install (((new c clock).withArbiter a).registerLoopback c.servers).1 =
      (assemble c clock more).withArbiter a := by
  rw [registerLoopback_withArbiter]
  exact foldl_withArbiter _ a (fun g i => g.install_withArbiter a i) more

theorem assemble_rename (c : Config) (clock : Clock) (more : List Installation) :
    assemble (c.rename ρ) clock more = (assemble c clock more).rename ρ := by
  have hnew : new (c.rename ρ) clock =
      (new c clock).withArbiter ((Arbiter.new c.control).rename ρ) := by
    rw [← Arbiter.rename_new]
    rfl
  have harbiter : (assemble c clock more).arbiter = .new c.control :=
    congrArg Gateway.arbiter (assemble_withArbiter c clock more (.new c.control))
  rw [rename, harbiter, ← assemble_withArbiter, ← hnew]
  rfl

/-- An operation does not care about the arbiter. -/
def IgnoresControl {α : Type} (f : Gateway → Gateway × α) : Prop :=
  ∀ g a, f (g.withArbiter a) = ((f g).1.withArbiter a, (f g).2)

/-- What does not care about the arbiter leaves it alone, so it does not care about tokens. -/
theorem IgnoresControl.rename {α : Type} {f : Gateway → Gateway × α} (h : IgnoresControl f)
    (g : Gateway) : f (g.rename ρ) = ((f g).1.rename ρ, (f g).2) := by
  have hkept : (f g).1.arbiter = g.arbiter := by
    have hsame : f g = ((f g).1.withArbiter g.arbiter, (f g).2) := h g g.arbiter
    rw [hsame]
    rfl
  rw [Gateway.rename, h, Gateway.rename, hkept]

theorem announceControl_rename (g : Gateway) :
    (g.rename ρ).announceControl = g.announceControl.rename ρ := by
  unfold announceControl
  rw [show (g.rename ρ).arbiter.current = g.arbiter.current from g.arbiter.current_rename ρ]
  rfl

/-- Control in other hands is told to all sessions, whoever it is. -/
theorem announceControl_withArbiter_rename (g : Gateway) (a : Arbiter) :
    announceControl { g.rename ρ with arbiter := a.rename ρ } =
      (announceControl { g with arbiter := a }).rename ρ :=
  announceControl_rename ρ { g with arbiter := a }

theorem openSession_rename (g : Gateway) (id : SessionId) :
    (g.rename ρ).openSession id = ((g.openSession id).1.rename ρ, (g.openSession id).2) := by
  have hview : (g.arbiter.rename ρ).status none = g.arbiter.status none :=
    g.arbiter.status_rename ρ none
  simp only [openSession]
  rw [show (g.rename ρ).arbiter = g.arbiter.rename ρ from rfl, hview]
  rfl

theorem takeControl_rename (g : Gateway) (t : String) :
    (g.rename ρ).takeControl (ρ.map t) =
      ((g.takeControl t).1.rename ρ, (g.takeControl t).2) := by
  unfold takeControl
  rw [show (g.rename ρ).arbiter.take (g.rename ρ).clock.elapsed (ρ.map t) = _ from
    g.arbiter.take_rename ρ g.clock.elapsed t]
  cases g.arbiter.take g.clock.elapsed t with
  | error e => rfl
  | ok a => exact Prod.ext (g.announceControl_withArbiter_rename ρ a) rfl

theorem releaseControl_rename (g : Gateway) :
    (g.rename ρ).releaseControl = (g.releaseControl.1.rename ρ, g.releaseControl.2) :=
  Prod.ext (g.announceControl_withArbiter_rename ρ g.arbiter.release) rfl

theorem expireControl_rename (g : Gateway) :
    (g.rename ρ).expireControl = (g.expireControl.1.rename ρ, g.expireControl.2) := by
  unfold expireControl
  rw [show (g.rename ρ).arbiter.expire? (g.rename ρ).clock.elapsed = _ from
    g.arbiter.expire?_rename ρ g.clock.elapsed]
  cases g.arbiter.expire? g.clock.elapsed with
  | none => rfl
  | some a => exact Prod.ext (g.announceControl_withArbiter_rename ρ a) rfl

theorem authorize_rename (g : Gateway) (token : Option String) :
    (g.rename ρ).authorize (token.map ρ.map) =
      ((g.authorize token).1.rename ρ, (g.authorize token).2) := by
  unfold authorize
  rw [show (g.rename ρ).arbiter.authorize (g.rename ρ).clock.elapsed (token.map ρ.map) = _ from
    g.arbiter.authorize_rename ρ g.clock.elapsed token]
  cases g.arbiter.authorize g.clock.elapsed token <;> rfl

theorem setValue_rename (g : Gateway) (token : Option String) (t : Topic) (p : Protocol)
    (k : SensorKey) (v : SensorValue) :
    (g.rename ρ).setValue (token.map ρ.map) t p k v =
      ((g.setValue token t p k v).1.rename ρ, (g.setValue token t p k v).2) := by
  unfold setValue
  rw [authorize_rename]
  obtain ⟨g', r⟩ := g.authorize token
  cases r with
  | error e => rfl
  | ok _ =>
    have hignores : IgnoresControl (·.request t p (.setValue t.object k v)) :=
      fun g a => g.request_withArbiter a t p _
    exact hignores.rename ρ g'

end Gateway

/-! ## Everything that can happen -/

namespace Op

/-- The same operation with another token. -/
def rename (ρ : Renaming) : Op → Op
  | .setValue token t p k v => .setValue (token.map ρ.map) t p k v
  | .takeControl token => .takeControl (ρ.map token)
  | .authorize token => .authorize (token.map ρ.map)
  | op => op

/-- With other tokens everywhere, an operation does and answers the same. -/
theorem act_answer_rename (ρ : Renaming) (g : Gateway) (op : Op) :
    (op.rename ρ).act (g.rename ρ) = (op.act g).rename ρ ∧
      (op.rename ρ).answer (g.rename ρ) = op.answer g := by
  have same {α : Type} (as : α → Answer) {x y : Gateway × α} (h : x = (y.1.rename ρ, y.2)) :
      x.1 = y.1.rename ρ ∧ as x.2 = as y.2 := by
    rw [h]
    exact ⟨rfl, rfl⟩
  have careless {α : Type} (as : α → Answer) {f : Gateway → Gateway × α}
      (h : Gateway.IgnoresControl f) :
      (f (g.rename ρ)).1 = (f g).1.rename ρ ∧ as (f (g.rename ρ)).2 = as (f g).2 :=
    same as (h.rename ρ g)
  have released (topics : List (Topic × Protocol)) :
      (g.rename ρ).releaseTopics topics = (g.releaseTopics topics).rename ρ :=
    (careless (f := fun g => (g.releaseTopics topics, ())) (fun _ => .nothing) fun g a =>
      Prod.ext (g.releaseTopics_withArbiter a topics) rfl).1
  cases op with
  | openSession id => exact same .connected (g.openSession_rename ρ id)
  | closeSession id => exact ⟨rfl, rfl⟩
  | cleanUp t p => exact ⟨released [(t, p)], rfl⟩
  | subscribe id t p keys =>
    exact careless (f := (·.subscribe id t p keys)) .counted fun g a =>
      g.subscribe_withArbiter a id t p keys
  | unsubscribe id t p =>
    exact careless (f := (·.unsubscribe id t p)) .done fun g a => g.unsubscribe_withArbiter a id t p
  | releaseTopics topics => exact ⟨released topics, rfl⟩
  | startRecording => exact careless .recording fun g a => g.startRecording_withArbiter a
  | stopRecording => exact careless .recording fun g a => g.stopRecording_withArbiter a
  | clearRecording => exact ⟨rfl, rfl⟩
  | setValue token t p k v => exact same .done (g.setValue_rename ρ token t p k v)
  | takeControl token => exact same (fun r => .control (.taken r)) (g.takeControl_rename ρ token)
  | releaseControl => exact same (fun r => .control (.released r)) (g.releaseControl_rename ρ)
  | expireControl => exact same (fun r => .control (.expired r)) (g.expireControl_rename ρ)
  | authorize token => exact same .done (g.authorize_rename ρ token)
  | publish b => exact ⟨rfl, rfl⟩
  | broadcast e => exact ⟨rfl, rfl⟩
  | sendTo id e =>
    exact careless (f := (·.sendTo id e)) .done fun g a => g.sendTo_withArbiter a id e
  | receive id max => exact ⟨rfl, rfl⟩
  | hangUp id => exact ⟨rfl, rfl⟩
  | elapse ms wall => exact ⟨rfl, rfl⟩

theorem takes_rename (ρ : Renaming) (g : Gateway) (id : SessionId) (op : Op) :
    (op.rename ρ).takes (g.rename ρ) id = op.takes g id := by
  cases op <;> rfl

end Op

namespace ControlCall

/-- The same call about control with another token. -/
def rename (ρ : Renaming) : ControlCall → ControlCall
  | .take token => .take (ρ.map token)
  | .authorize token => .authorize (token.map ρ.map)
  | .status token => .status (token.map ρ.map)
  | c => c

variable (ρ : Renaming)

theorem answer_rename (g : Gateway) (c : ControlCall) :
    ((c.rename ρ).perform (g.rename ρ)).2 = (c.perform g).2 := by
  cases c with
  | take token =>
    exact congrArg (fun r => ControlAnswer.taken r.2) (g.takeControl_rename ρ token)
  | release => exact congrArg (fun r => ControlAnswer.released r.2) (g.releaseControl_rename ρ)
  | expire => exact congrArg (fun r => ControlAnswer.expired r.2) (g.expireControl_rename ρ)
  | authorize token =>
    exact congrArg (fun r => ControlAnswer.authorized r.2) (g.authorize_rename ρ token)
  | status token => exact congrArg ControlAnswer.seen (g.arbiter.status_rename ρ token)

theorem locked_rename (a : Arbiter) (now : Nat) (c : ControlCall) :
    (c.rename ρ).locked (a.rename ρ) now = ((c.locked a now).1.rename ρ, (c.locked a now).2) := by
  cases c with
  | take token =>
    simp only [rename, locked, a.take_rename]
    cases a.take now token with
    | error e => rfl
    | ok a' => exact Prod.ext rfl (congrArg some (a'.current_rename ρ))
  | release => exact Prod.ext rfl (congrArg some (a.release.current_rename ρ))
  | expire =>
    simp only [rename, locked, a.expire?_rename]
    cases a.expire? now with
    | none => rfl
    | some a' => exact Prod.ext rfl (congrArg some (a'.current_rename ρ))
  | authorize token =>
    simp only [rename, locked, a.authorize_rename]
    cases a.authorize now token <;> rfl
  | status token => rfl

end ControlCall

namespace Interaction

/-- The same interaction with another token. -/
def rename (ρ : Renaming) : Interaction → Interaction
  | .op o => .op (o.rename ρ)
  | .locked c => .locked (c.rename ρ)
  | .check server connected error => .check server connected error

variable (ρ : Renaming) (g : Gateway) (i : Interaction)

theorem perform_rename :
    (i.rename ρ).perform (g.rename ρ) = ((i.perform g).1.rename ρ, (i.perform g).2) := by
  cases i with
  | op o =>
    obtain ⟨hact, hanswer⟩ := o.act_answer_rename ρ g
    exact Prod.ext hact (congrArg Answer.op hanswer)
  | locked c =>
    have hlocked : (c.rename ρ).locked (g.rename ρ).arbiter (g.rename ρ).clock.elapsed = _ :=
      c.locked_rename ρ g.arbiter g.clock.elapsed
    simp only [rename, perform, hlocked, c.answer_rename]
    rfl
  | check server connected error => rfl

theorem takes_rename (id : SessionId) :
    (i.rename ρ).takes (g.rename ρ) id = i.takes g id := by
  cases i with
  | op o => exact o.takes_rename ρ g id
  | _ => rfl

end Interaction

/-! ## Histories -/

namespace Account

/-- Nobody who does not know the tokens can tell two accounts apart. -/
structure Alike (x y : Account) : Prop where
  answers : x.answers = y.answers
  mail : ∀ id, x.mail id = y.mail id
  calls : x.gateway.calls = y.gateway.calls
  recorder : x.gateway.recorder = y.gateway.recorder
  /-- The sessions, what they ask for, and their channels. -/
  bus : x.gateway.bus = y.gateway.bus
  registry : x.gateway.registry = y.gateway.registry
  adapters : x.gateway.adapters = y.gateway.adapters
  routes : x.gateway.routes = y.gateway.routes
  clock : x.gateway.clock = y.gateway.clock
  control : x.gateway.arbiter.current = y.gateway.arbiter.current

/-- The account of a gateway that knows everybody by another token. -/
def rename (ρ : Renaming) (x : Account) : Account := { x with gateway := x.gateway.rename ρ }

theorem alike_rename (ρ : Renaming) (x : Account) : (x.rename ρ).Alike x :=
  ⟨rfl, fun _ => rfl, rfl, rfl, rfl, rfl, rfl, rfl, rfl, x.gateway.arbiter.current_rename ρ⟩

theorem step_rename (ρ : Renaming) (x : Account) (i : Interaction) :
    (x.rename ρ).step (i.rename ρ) = (x.step i).rename ρ := by
  unfold step rename
  simp only [Interaction.perform_rename, Interaction.takes_rename]

theorem after_rename (ρ : Renaming) (x : Account) (h : List Interaction) :
    (x.rename ρ).after (h.map (.rename ρ)) = (x.after h).rename ρ := by
  induction h generalizing x with
  | nil => rfl
  | cons i rest ih =>
    show ((x.rename ρ).step (i.rename ρ)).after (rest.map (.rename ρ)) = _
    rw [step_rename]
    exact ih (x.step i)

end Account

/-- **Control tokens never leak.** Take any settings, adapters and interactions, and give everybody
another token, in the settings and in every interaction. Then the answers are the same, and so are
their errors; the same events are put into the channel of every session, in the same order, the
adapters get the same calls, the recorder has the same records, and the sessions and servers are
the same. -/
theorem tokens_never_leak (ρ : Renaming) (c : Config) (clock : Clock) (more : List Installation)
    (h : List Interaction) :
    ((Account.start (.assemble (c.rename ρ) clock more)).after (h.map (.rename ρ))).Alike
      ((Account.start (.assemble c clock more)).after h) := by
  rw [Gateway.assemble_rename]
  have hafter := (Account.start (.assemble c clock more)).after_rename ρ h
  exact hafter ▸ Account.alike_rename ρ _

/-- Everybody has a longer token. -/
def Renaming.longer : Renaming where
  map t := if t = "" then "" else "new " ++ t
  injective s t h := by
    have hlong (u : String) : "new " ++ u ≠ "" := by simp
    dsimp only at h
    split at h <;> split at h
    · next hs ht => rw [hs, ht]
    · exact absurd h.symm (hlong t)
    · exact absurd h (hlong s)
    · exact String.append_right_inj _ |>.mp h
  map_empty := rfl

/-- Only two tokens may take control, and lose it after a second. -/
def darkroom : Config where
  servers := [{
    id := some "lab"
    url := "http://lab"
    loopback := [⟨"lamp", .modbus, [⟨some 3, "level", .int 0⟩]⟩] }]
  control := { tokens := ["red", "blue"], idleTimeoutSeconds := 1 }

/-- Somebody without an allowed token is refused, one of the two writes, and the other one has to
wait until the first one is idle. -/
def developing : List Interaction :=
  [.op (.openSession ⟨1⟩),
    .op (.subscribe ⟨1⟩ ⟨"lab", "lamp"⟩ .modbus (.ofList [.id 3])),
    .op (.takeControl "green"), .op (.takeControl ""), .op (.takeControl "red"),
    .op (.setValue (some "blue") ⟨"lab", "lamp"⟩ .modbus (.id 3) (.int 5)),
    .op (.setValue none ⟨"lab", "lamp"⟩ .modbus (.id 3) (.int 6)),
    .op (.setValue (some "red") ⟨"lab", "lamp"⟩ .modbus (.id 3) (.int 7)),
    .op (.takeControl "blue"), .op (.elapse 1001 ⟨2, 0⟩), .locked (.take "blue"),
    .op (.authorize (some "red")), .op (.receive ⟨1⟩ 2)]

/-- Refusals, events and writes of the two runs are the same. -/
theorem developing_alike :
    let first := (Account.start (.assemble darkroom ⟨⟨0, 0⟩, 0⟩ [])).after developing
    first.answers.filterMap Interaction.Answer.refusal? =
        [.control .invalidToken, .control .invalidToken, .control .notController,
          .control .missingToken, .control .controlTaken, .control .notController] ∧
      first.gateway.arbiter.token? = some "blue" ∧
      (first.mail ⟨1⟩).length = 3 ∧ (first.gateway.calls.map (·.call)).length = 2 ∧
      ((Account.start (.assemble (darkroom.rename .longer) ⟨⟨0, 0⟩, 0⟩ [])).after
        (developing.map (.rename .longer))).Alike first :=
  ⟨by decide, by decide, by decide, by decide,
    tokens_never_leak .longer darkroom ⟨⟨0, 0⟩, 0⟩ [] developing⟩

end SensorGateway
