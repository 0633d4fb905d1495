/-
# SensorGateway.Proofs.Gateway.Quiet -- what is not a write

Of all operations only a write asks an adapter to change a value. Pointing an adapter at what is
wanted, releasing topics and asking for all values are calls of other kinds, so whatever such
calls keep is kept by every operation but a write (`QuietInductive.act`).

It is used for what a write is about: the values of sensors in memory, and the writes among all
calls of adapters (`Gateway.Unwritten`).
-/
import SensorGateway.Proofs.Adapter.Writing
import SensorGateway.Proofs.Gateway.Run

namespace SensorGateway

/-- Whether an operation writes. -/
def Op.isWrite : Op → Bool
  | .setValue .. => true
  | _ => false

/-- A property of the adapters, their routes and their calls that all calls but writes keep. -/
structure QuietInductive (P : Gateway → Prop) : Prop where
  call : ∀ {g}, P g → ∀ n c, c.kind ≠ .setValue → P (g.call n c).1
  /-- Nothing else matters to it. -/
  rest : ∀ {g g' : Gateway}, P g → g'.adapters = g.adapters → g'.routes = g.routes →
    g'.calls = g.calls → P g'

/-- An adapter is never pointed by a write. -/
theorem Gateway.kind_pointingCall {g : Gateway} {t : Topic} {c : Adapter.Call}
    (h : g.pointingCall t = some c) : c.kind ≠ .setValue := by
  unfold pointingCall at h
  split at h
  · cases h
    simp [Adapter.Call.kind]
  · split at h
    · cases h
    · cases h
      simp [Adapter.Call.kind]

namespace QuietInductive

variable {P : Gateway → Prop} {g : Gateway}

theorem request (hP : QuietInductive P) (h : P g) (t : Topic) (p : Protocol) {c : Adapter.Call}
    (hc : c.kind ≠ .setValue) : P (g.request t p c).1 :=
  Gateway.request_induction h (fun n => hP.call h n c hc) t p

theorem reconcile (hP : QuietInductive P) (h : P g) (t : Topic) (p : Protocol) :
    P (g.reconcile t p).1 := by
  rcases Gateway.reconcile_cases g t p with ⟨-, hsame, -⟩ | ⟨-, hsame⟩ | ⟨c, hc, hpointed⟩
  · rw [hsame]
    exact h
  · rw [hsame]
    exact h
  · rw [hpointed]
    exact hP.request h t p (Gateway.kind_pointingCall hc)

theorem releaseTopics (hP : QuietInductive P) (h : P g) (topics : List (Topic × Protocol)) :
    P (g.releaseTopics topics) :=
  Gateway.releaseTopics_induction (P := P) (fun _ t p hg => hP.reconcile hg t p) h topics

/-- Which sessions ask for what does not matter. -/
theorem reconcileWith (hP : QuietInductive P) (h : P g) (b : Bus) (t : Topic) (p : Protocol) :
    P ({ g with bus := b }.reconcile t p).1 := by
  have hsame : P { g with bus := b } := hP.rest h rfl rfl rfl
  exact hP.reconcile hsame t p

theorem subscribe (hP : QuietInductive P) (h : P g) (id : SessionId) (t : Topic) (p : Protocol)
    (keys : KeySet) : P (g.subscribe id t p keys).1 := by
  apply Gateway.subscribe_induction (P := P)
  case restored => exact fun g _ _ b _ h => hP.reconcileWith h b t p
  case tracked => exact fun g _ h => hP.rest h rfl rfl rfl
  case hg => exact h

theorem unsubscribe (hP : QuietInductive P) (h : P g) (id : SessionId) (t : Topic) (p : Protocol) :
    P (g.unsubscribe id t p).1 := by
  rcases Gateway.unsubscribe_cases g id t p with hsame | ⟨b, -, hrec⟩
  · rw [hsame]
    exact h
  · rw [hrec]
    exact hP.reconcileWith h b t p

theorem captureBaseline (hP : QuietInductive P) (h : P g) (topics : List (Topic × Interest)) :
    P (g.captureBaseline topics) :=
  Gateway.captureBaseline_induction (P := P)
    (fun _ t p hg => hP.request hg t p (c := .forceEmit t.object) nofun) h topics

theorem startRecording (hP : QuietInductive P) (h : P g) : P g.startRecording.1 := by
  unfold Gateway.startRecording
  split
  · exact h
  · next r _ =>
    have hstarted : P { g with recorder := r } := hP.rest h rfl rfl rfl
    exact hP.rest (hP.captureBaseline hstarted r.tracked.toList) rfl rfl rfl

theorem stopRecording (hP : QuietInductive P) (h : P g) : P g.stopRecording.1 := by
  unfold Gateway.stopRecording
  split
  · exact h
  · next r tracked _ =>
    have hstopped : P { g with recorder := r } := hP.rest h rfl rfl rfl
    exact hP.rest (hP.releaseTopics hstopped _) rfl rfl rfl

theorem takeControl (hP : QuietInductive P) (h : P g) (token : String) :
    P (g.takeControl token).1 := by
  unfold Gateway.takeControl
  split
  · exact h
  · exact hP.rest h rfl rfl rfl

theorem expireControl (hP : QuietInductive P) (h : P g) : P g.expireControl.1 := by
  unfold Gateway.expireControl
  split
  · exact hP.rest h rfl rfl rfl
  · exact h

theorem authorize (hP : QuietInductive P) (h : P g) (token : Option String) :
    P (g.authorize token).1 := by
  unfold Gateway.authorize
  split
  · exact h
  · exact hP.rest h rfl rfl rfl

theorem sendTo (hP : QuietInductive P) (h : P g) (id : SessionId) (e : Event) :
    P (g.sendTo id e).1 := by
  unfold Gateway.sendTo
  split
  · exact hP.rest h rfl rfl rfl
  · exact h

/-- What all calls but writes keep is kept by every operation but a write. -/
theorem act (hP : QuietInductive P) (h : P g) {op : Op} (hop : op.isWrite = false) :
    P (op.act g) := by
  cases op with
  | setValue token t p k v => cases hop
  | cleanUp t p => exact hP.releaseTopics h [(t, p)]
  | subscribe id t p keys => exact hP.subscribe h id t p keys
  | unsubscribe id t p => exact hP.unsubscribe h id t p
  | releaseTopics topics => exact hP.releaseTopics h topics
  | startRecording => exact hP.startRecording h
  | stopRecording => exact hP.stopRecording h
  | authorize token => exact hP.authorize h token
  | takeControl token => exact hP.takeControl h token
  | expireControl => exact hP.expireControl h
  | sendTo id e => exact hP.sendTo h id e
  | _ => exact hP.rest h rfl rfl rfl

end QuietInductive

/-! ## Values and writes -/

namespace Gateway

/-- The sensors of an object in memory with their values. -/
def sensors? (g : Gateway) (n : Nat) (object : String) : Option (List Adapter.MemorySensor) :=
  g.adapters[n]?.bind (·.sensors? object)

/-- All writes that adapters were asked for so far, with what came of them. -/
def writes (g : Gateway) : List Exchange := g.calls.filter (·.call.kind = .setValue)

/-- Every sensor has the value that it had, and no adapter was asked to write. -/
structure Unwritten (g g' : Gateway) : Prop where
  sensors : ∀ n object, g'.sensors? n object = g.sensors? n object
  writes : g'.writes = g.writes

theorem Unwritten.refl (g : Gateway) : Unwritten g g := ⟨fun _ _ => rfl, rfl⟩

/-- Only writes change values, and only they are writes. -/
theorem quietInductive_unwritten (g₀ : Gateway) : QuietInductive g₀.Unwritten where
  rest h hadapters _ hcalls := by
    refine ⟨fun n object => ?_, ?_⟩
    · rw [← h.sensors, sensors?, hadapters, sensors?]
    · rw [← h.writes, writes, hcalls, writes]
  call {g} h n c hc := by
    cases ha : g.adapters[n]? with
    | none =>
      rw [(call_of_absent ha c).1]
      exact h
    | some a =>
      have htells := (call_of_present ha c).2
      refine ⟨fun n' object => ?_, ?_⟩
      · have hlt : n < g.adapters.length := (List.getElem?_eq_some_iff.mp ha).1
        rw [← h.sensors, sensors?, sensors?, htells.adapters]
        by_cases hn : n = n'
        · subst hn
          rw [List.getElem?_set_self hlt, ha]
          exact a.sensors?_ask g.clock.wall hc object
        · rw [List.getElem?_set_ne hn]
      · rw [← h.writes, writes, htells.log, List.filter_append,
          List.filter_cons_of_neg (by simpa using hc), List.filter_nil, List.append_nil]
        rfl

end Gateway

end SensorGateway
