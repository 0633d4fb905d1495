/-
# SensorGateway.Proofs.Gateway.Holding -- what adapters hold

`Gateway.held` reads off the log of calls which keys an adapter accepted last for an
object, and `Gateway.heldOn` asks that of the adapter that serves a topic. Telling
sessions, waiting and calling adapters are `Gateway.Steady`: apart from evictions they
change neither what sessions ask for nor what the recorder tracks. Pointing an adapter at
what is wanted changes what that one adapter holds on that one object, to what is wanted
at the call (`Gateway.heldOn_reconcile`), or else nothing.
-/
import SensorGateway.Gateway.Recording
import SensorGateway.Gateway.Writing
import SensorGateway.Proofs.Adapter.Holding
import SensorGateway.Proofs.Bus.Interest
import SensorGateway.Proofs.Recorder.Tracking

namespace SensorGateway

/-! ## The log of calls -/

/-- What an adapter holds on an object after one more call in the log. -/
def Exchange.hold (e : Exchange) (n : Nat) (o : String) (before : Option KeySet) :
    Option KeySet :=
  if e.adapter = n ∧ e.result.isOk then e.call.hold o before else before

namespace Gateway

/-- The keys that an adapter accepted last for an object; `none` says unsubscribed. -/
def held (g : Gateway) (n : Nat) (o : String) : Option KeySet :=
  g.calls.foldl (fun h e => e.hold n o h) none

/-- The keys that the adapter of a topic's family accepted last for its object; `none` says that
it is unsubscribed, or that there is no adapter. -/
def heldOn (g : Gateway) (t : Topic) (p : Protocol) : Option KeySet :=
  (g.routes.get? ⟨t.server, p⟩).bind fun n => g.held n t.object

/-- The adapter of a topic's family. -/
def adapterOn? (g : Gateway) (t : Topic) (p : Protocol) : Option Adapter :=
  (g.routes.get? ⟨t.server, p⟩).bind fun n => g.adapters[n]?

/-- What the adapter of a topic should hold. -/
def demand (g : Gateway) (t : Topic) : Option KeySet :=
  if (g.wanted t).isEmpty then none else some (g.wanted t)

/-- Each adapter serves one route, and is there. -/
structure WellRouted (g : Gateway) : Prop where
  alone : ∀ {r r' n}, g.routes.get? r = some n → g.routes.get? r' = some n → r = r'
  present : ∀ {r n}, g.routes.get? r = some n → n < g.adapters.length

/-- Routes and the number of adapters are all that matters. -/
theorem WellRouted.of_same {g g' : Gateway} (h : g.WellRouted) (hroutes : g'.routes = g.routes)
    (hcount : g'.adapters.length = g.adapters.length) : g'.WellRouted where
  alone h₁ h₂ := h.alone (hroutes ▸ h₁) (hroutes ▸ h₂)
  present hr := hcount ▸ h.present (hroutes ▸ hr)

/-- Each adapter watches what the log says that it accepted last. -/
def Faithful (g : Gateway) : Prop :=
  ∀ n a, g.adapters[n]? = some a → ∀ o, a.watched o = (g.held n o).getD .empty

theorem Faithful.watched {g : Gateway} (h : g.Faithful) {t : Topic} {p : Protocol} {a : Adapter}
    (ha : g.adapterOn? t p = some a) : a.watched t.object = (g.heldOn t p).getD .empty := by
  obtain ⟨n, hn, hna⟩ := Option.bind_eq_some_iff.mp ha
  rw [heldOn, hn]
  exact h n a hna t.object

/-! ## Steady changes -/

/-- Apart from evictions the second gateway has the interests of the first one. -/
structure Steady (g g' : Gateway) : Prop where
  bus : g.bus.Thins g'.bus
  tracked : g'.recorder.tracked = g.recorder.tracked
  isRecording : g'.recorder.isRecording = g.recorder.isRecording
  routes : g'.routes = g.routes
  count : g'.adapters.length = g.adapters.length
  calls : g.calls <+: g'.calls

theorem Steady.refl (g : Gateway) : Steady g g :=
  ⟨.refl g.bus, rfl, rfl, rfl, rfl, List.prefix_refl g.calls⟩

theorem Steady.trans {a b c : Gateway} (hab : Steady a b) (hbc : Steady b c) : Steady a c where
  bus := hab.bus.trans hbc.bus
  tracked := hbc.tracked.trans hab.tracked
  isRecording := hbc.isRecording.trans hab.isRecording
  routes := hbc.routes.trans hab.routes
  count := hbc.count.trans hab.count
  calls := hab.calls.trans hbc.calls

theorem Steady.wellRouted {g g' : Gateway} (h : Steady g g') (hg : g.WellRouted) :
    g'.WellRouted := hg.of_same h.routes h.count

/-- Steady changes that do not ask any adapter. -/
structure Tells (g g' : Gateway) : Prop extends Steady g g' where
  adapters : g'.adapters = g.adapters
  log : g'.calls = g.calls

theorem Tells.refl (g : Gateway) : Tells g g := ⟨.refl g, rfl, rfl⟩

theorem Tells.trans {a b c : Gateway} (hab : Tells a b) (hbc : Tells b c) : Tells a c :=
  ⟨hab.toSteady.trans hbc.toSteady, hbc.adapters.trans hab.adapters, hbc.log.trans hab.log⟩

theorem Tells.faithful {g g' : Gateway} (h : Tells g g') (hg : g.Faithful) : g'.Faithful := by
  intro n a ha o
  have hheld : g'.held n o = g.held n o := by unfold held; rw [h.log]
  rw [hheld]
  exact hg n a (h.adapters ▸ ha) o

/-- Changes of the bus that only thin it, of the arbiter, of the records and of time. -/
theorem tells_of {g g' : Gateway} (hb : g.bus.Thins g'.bus)
    (ht : g'.recorder.tracked = g.recorder.tracked)
    (hr : g'.recorder.isRecording = g.recorder.isRecording) (hroutes : g'.routes = g.routes)
    (ha : g'.adapters = g.adapters) (hc : g'.calls = g.calls) : Tells g g' :=
  ⟨⟨hb, ht, hr, hroutes, by rw [ha], hc ▸ List.prefix_refl g.calls⟩, ha, hc⟩

theorem tells_publish (g : Gateway) (b : Batch) : Tells g (g.publish b).1 :=
  tells_of (Bus.thins_deliver g.bus _) (Recorder.tracked_recordBatch g.recorder b)
    (Recorder.isRecording_recordBatch g.recorder b) rfl rfl rfl

theorem tells_publishFrom (g : Gateway) (b : Batch) : Tells g (g.publishFrom b).1 := by
  unfold publishFrom
  split
  · exact .refl g
  · exact tells_publish g b

theorem tells_foldl_publishFrom (bs : List Batch) (g : Gateway) :
    Tells g (bs.foldl (fun g b => (g.publishFrom b).1) g) := by
  induction bs generalizing g with
  | nil => exact .refl g
  | cons b rest ih => exact (tells_publishFrom g b).trans (ih _)

theorem tells_broadcast (g : Gateway) (e : Event) : Tells g (g.broadcast e).1 :=
  tells_of (Bus.thins_deliver g.bus _) rfl rfl rfl rfl rfl

theorem tells_sendTo (g : Gateway) (id : SessionId) (e : Event) : Tells g (g.sendTo id e).1 := by
  unfold sendTo
  split
  · exact tells_of (Bus.thins_deliver g.bus _) rfl rfl rfl rfl rfl
  · exact .refl g

/-! ## Asking an adapter -/

/-- The gateway when an adapter has answered, before it hands on what the adapter tells. -/
def noting (g : Gateway) (n : Nat) (c : Adapter.Call) (a : Adapter.Answer) : Gateway :=
  { g with
    adapters := g.adapters.set n a.adapter
    calls := g.calls ++ [Exchange.mk n c a.result] }.wait a.delay

theorem call_eq {g : Gateway} {n : Nat} {a : Adapter} (h : g.adapters[n]? = some a)
    (c : Adapter.Call) :
    g.call n c = ((a.ask g.clock.wall c).batches.foldl (fun g b => (g.publishFrom b).1)
      (g.noting n c (a.ask g.clock.wall c)), (a.ask g.clock.wall c).result) := by
  unfold call
  rw [h]
  rfl

/-- Asking an adapter that is there: its answer, and that it is noted. -/
theorem call_of_present {g : Gateway} {n : Nat} {a : Adapter} (h : g.adapters[n]? = some a)
    (c : Adapter.Call) :
    (g.call n c).2 = (a.ask g.clock.wall c).result ∧
      Tells { g with
        adapters := g.adapters.set n (a.ask g.clock.wall c).adapter
        calls := g.calls ++ [Exchange.mk n c (a.ask g.clock.wall c).result] } (g.call n c).1 := by
  unfold call
  rw [h]
  refine ⟨rfl, .trans ?_ (tells_foldl_publishFrom _ _)⟩
  exact tells_of (.refl g.bus) rfl rfl rfl rfl rfl

theorem call_of_absent {g : Gateway} {n : Nat} (h : g.adapters[n]? = none) (c : Adapter.Call) :
    (g.call n c).1 = g ∧ (g.call n c).2.isOk = false := by
  unfold call
  rw [h]
  exact ⟨rfl, rfl⟩

/-- What holds of the gateway as it is and when an adapter has answered, and goes on to hold when a
batch is handed on, holds after a call. -/
theorem call_induction {P : Gateway → Prop} {g : Gateway} {n : Nat} {c : Adapter.Call} (hg : P g)
    (hnoted : ∀ a : Adapter, P (g.noting n c (a.ask g.clock.wall c)))
    (htold : ∀ (g' : Gateway) (b : Batch), P g' → P (g'.publishFrom b).1) : P (g.call n c).1 := by
  cases ha : g.adapters[n]? with
  | none =>
    rw [(call_of_absent ha c).1]
    exact hg
  | some a =>
    rw [call_eq ha]
    have hstart : P (g.noting n c (a.ask g.clock.wall c)) := hnoted a
    generalize g.noting n c (a.ask g.clock.wall c) = noted at hstart ⊢
    induction (a.ask g.clock.wall c).batches generalizing noted with
    | nil => exact hstart
    | cons b rest ih => exact ih _ (htold noted b hstart)

theorem steady_call (g : Gateway) (n : Nat) (c : Adapter.Call) : Steady g (g.call n c).1 := by
  cases h : g.adapters[n]? with
  | none => rw [(call_of_absent h c).1]; exact .refl g
  | some a =>
    refine .trans ?_ (call_of_present h c).2.toSteady
    exact ⟨.refl g.bus, rfl, rfl, rfl, List.length_set, List.prefix_append _ _⟩

/-- A call changes what is held only at the adapter that accepts it. -/
theorem held_call (g : Gateway) (n n' : Nat) (c : Adapter.Call) (o : String) :
    (g.call n c).1.held n' o =
      if n = n' ∧ (g.call n c).2.isOk then c.hold o (g.held n' o) else g.held n' o := by
  cases h : g.adapters[n]? with
  | none =>
    obtain ⟨hg, hr⟩ := call_of_absent h c
    rw [hg, hr, if_neg (by simp)]
  | some a =>
    obtain ⟨hr, htells⟩ := call_of_present h c
    have hheld : (g.call n c).1.held n' o =
        (Exchange.mk n c (a.ask g.clock.wall c).result).hold n' o (g.held n' o) := by
      unfold held
      rw [htells.log, List.foldl_append]
      rfl
    rw [hheld, hr]
    rfl

theorem faithful_call {g : Gateway} (hg : g.Faithful) (n : Nat) (c : Adapter.Call) :
    (g.call n c).1.Faithful := by
  intro n' a' ha' o
  rw [held_call]
  cases h : g.adapters[n]? with
  | none =>
    obtain ⟨hsame, hr⟩ := call_of_absent h c
    rw [hsame] at ha'
    rw [hr, if_neg (by simp)]
    exact hg n' a' ha' o
  | some a =>
    obtain ⟨hr, htells⟩ := call_of_present h c
    rw [htells.adapters] at ha'
    simp only at ha'
    by_cases hn : n = n'
    · subst hn
      have hlt : n < g.adapters.length := (List.getElem?_eq_some_iff.mp h).1
      rw [List.getElem?_set_self hlt] at ha'
      obtain rfl := Option.some.inj ha'
      rw [Adapter.watched_ask a g.clock.wall c o (hg n a h o), hr]
      simp
    · rw [List.getElem?_set_ne hn] at ha'
      rw [if_neg fun hc => hn hc.1]
      exact hg n' a' ha' o

/-! ## Asking the adapter of a topic -/

theorem adapterFor_eq_ok {g : Gateway} {t : Topic} {p : Protocol} {n : Nat} :
    g.adapterFor t p = .ok n ↔ g.routes.get? ⟨t.server, p⟩ = some n := by
  unfold adapterFor
  cases g.routes.get? ⟨t.server, p⟩ <;> simp

theorem adapterFor_eq_error {g : Gateway} {t : Topic} {p : Protocol} {e : GatewayError}
    (h : g.adapterFor t p = .error e) :
    g.routes.get? ⟨t.server, p⟩ = none ∧ e = .noAdapter t.server p := by
  unfold adapterFor at h
  cases hr : g.routes.get? ⟨t.server, p⟩ with
  | some n => rw [hr] at h; cases h
  | none =>
    rw [hr] at h
    exact ⟨rfl, (Except.error.inj h).symm⟩

/-- A request either finds no adapter, or is a call of the adapter that it finds. -/
theorem request_cases (g : Gateway) (t : Topic) (p : Protocol) (c : Adapter.Call) :
    (g.routes.get? ⟨t.server, p⟩ = none ∧ (g.request t p c).1 = g ∧
      (g.request t p c).2.isOk = false) ∨
    ∃ n, g.routes.get? ⟨t.server, p⟩ = some n ∧ (g.request t p c).1 = (g.call n c).1 ∧
      (g.request t p c).2.isOk = (g.call n c).2.isOk := by
  unfold request adapterFor
  cases hr : g.routes.get? ⟨t.server, p⟩ with
  | none => exact Or.inl ⟨rfl, rfl, rfl⟩
  | some n =>
    refine Or.inr ⟨n, rfl, ?_⟩
    simp only
    split <;> next hc => simp [hc, Except.isOk, Except.toBool]

/-- What holds of the gateway as it is, and after a call of any adapter, holds after a request. -/
theorem request_induction {P : Gateway → Prop} {g : Gateway} {c : Adapter.Call} (hg : P g)
    (hcall : ∀ n, P (g.call n c).1) (t : Topic) (p : Protocol) : P (g.request t p c).1 := by
  rcases request_cases g t p c with ⟨-, hsame, -⟩ | ⟨n, -, hn, -⟩
  · rw [hsame]; exact hg
  · rw [hn]; exact hcall n

theorem steady_request (g : Gateway) (t : Topic) (p : Protocol) (c : Adapter.Call) :
    Steady g (g.request t p c).1 :=
  request_induction (P := Steady g) (.refl g) (fun n => steady_call g n c) t p

theorem faithful_request {g : Gateway} (hg : g.Faithful) (t : Topic) (p : Protocol)
    (c : Adapter.Call) : (g.request t p c).1.Faithful :=
  request_induction (P := Faithful) hg (fun n => faithful_call hg n c) t p

/-- A request for one topic changes what is held on that topic under that family, and only when
it is accepted. -/
theorem heldOn_request {g : Gateway} (hg : g.WellRouted) (t t' : Topic) (p p' : Protocol)
    (c : Adapter.Call) :
    (g.request t p c).1.heldOn t' p' =
      if t'.server = t.server ∧ p' = p ∧ (g.request t p c).2.isOk then
        c.hold t'.object (g.heldOn t' p')
      else g.heldOn t' p' := by
  rcases request_cases g t p c with ⟨-, hsame, hr⟩ | ⟨n, hn, hcall, hr⟩
  · rw [hsame, if_neg (by simp [hr])]
  · have hroutes : (g.call n c).1.routes = g.routes := (steady_call g n c).routes
    unfold heldOn
    rw [hcall, hroutes, hr]
    -- adapters serve one route each, so the asked one serves `t'` only if the routes agree
    cases hn' : g.routes.get? ⟨t'.server, p'⟩ with
    | none =>
      split
      · next h =>
        obtain ⟨hs, rfl, -⟩ := h
        rw [hs, hn] at hn'
        cases hn'
      · rfl
    | some n' =>
      simp only [Option.bind_some, held_call]
      by_cases hnn : n = n'
      · subst hnn
        obtain ⟨hs, rfl⟩ := Route.mk.inj (hg.alone hn' hn)
        simp [hs]
      · have hother : ¬ (t'.server = t.server ∧ p' = p ∧ (g.call n c).2.isOk) := by
          rintro ⟨hs, rfl, -⟩
          rw [hs, hn] at hn'
          exact hnn (Option.some.inj hn')
        rw [if_neg hother, if_neg fun hc => hnn hc.1]

/-! ## Pointing an adapter at what is wanted -/

/-- The call that points an adapter at a topic leaves what is wanted there, and nothing else. -/
theorem hold_pointingCall {g : Gateway} {t : Topic} {c : Adapter.Call}
    (h : g.pointingCall t = some c) (o : String) (before : Option KeySet) :
    c.hold o before = if o = t.object then g.demand t else before := by
  unfold pointingCall at h
  unfold demand
  cases he : (g.wanted t).isEmpty with
  | false =>
    rw [he] at h
    obtain rfl := Option.some.inj h
    simp [Adapter.Call.hold, eq_comm]
  | true =>
    rw [he] at h
    cases hk : g.recorder.isTracking t with
    | true => simp [hk] at h
    | false =>
      rw [hk] at h
      obtain rfl := Option.some.inj h
      simp [Adapter.Call.hold, eq_comm]

theorem points_pointingCall {g : Gateway} {t : Topic} {c : Adapter.Call}
    (h : g.pointingCall t = some c) : c.Points t.object := by
  unfold pointingCall at h
  split at h
  · exact Or.inl ⟨g.wanted t, (Option.some.inj h).symm⟩
  · split at h
    · cases h
    · exact Or.inr (Option.some.inj h).symm

/-- Pointing an adapter does nothing where there is no adapter, succeeds without a call where a
topic is recorded without sensors, and is a request otherwise. -/
theorem reconcile_cases (g : Gateway) (t : Topic) (p : Protocol) :
    (g.routes.get? ⟨t.server, p⟩ = none ∧ (g.reconcile t p).1 = g ∧
      (g.reconcile t p).2.isOk = false) ∨
    (g.pointingCall t = none ∧ g.reconcile t p = (g, .ok ())) ∨
    ∃ c, g.pointingCall t = some c ∧ g.reconcile t p = g.request t p c := by
  unfold reconcile adapterFor
  cases hr : g.routes.get? ⟨t.server, p⟩ with
  | none => exact Or.inl ⟨rfl, rfl, rfl⟩
  | some n =>
    cases hc : g.pointingCall t with
    | none => exact Or.inr (Or.inl ⟨rfl, rfl⟩)
    | some c => exact Or.inr (Or.inr ⟨c, rfl, rfl⟩)

/-- What holds of the gateway as it is, and after any request, holds after an adapter was
pointed. -/
theorem reconcile_induction {P : Gateway → Prop} {g : Gateway} {t : Topic} {p : Protocol}
    (hg : P g) (hreq : ∀ c, P (g.request t p c).1) : P (g.reconcile t p).1 := by
  rcases reconcile_cases g t p with ⟨-, hsame, -⟩ | ⟨-, hsame⟩ | ⟨c, -, hc⟩
  · rw [hsame]; exact hg
  · rw [hsame]; exact hg
  · rw [hc]; exact hreq c

theorem steady_reconcile (g : Gateway) (t : Topic) (p : Protocol) :
    Steady g (g.reconcile t p).1 :=
  reconcile_induction (P := Steady g) (.refl g) (steady_request g t p)

theorem faithful_reconcile {g : Gateway} (hg : g.Faithful) (t : Topic) (p : Protocol) :
    (g.reconcile t p).1.Faithful :=
  reconcile_induction (P := Faithful) hg (faithful_request hg t p)

/-- Pointing an adapter at a topic makes it hold what is wanted at the call, when it accepts a
call at all; nothing else that is held changes. -/
theorem heldOn_reconcile {g : Gateway} (hg : g.WellRouted) (t t' : Topic) (p p' : Protocol) :
    (g.reconcile t p).1.heldOn t' p' =
      if t' = t ∧ p' = p ∧ (g.reconcile t p).2.isOk ∧ (g.pointingCall t).isSome then g.demand t
      else g.heldOn t' p' := by
  rcases reconcile_cases g t p with ⟨-, hsame, hr⟩ | ⟨hc, hsame⟩ | ⟨c, hc, hreq⟩
  · rw [hsame, if_neg (by simp [hr])]
  · rw [hsame, if_neg (by simp [hc])]
  · rw [hreq, heldOn_request hg, hold_pointingCall hc, hc]
    -- a topic is a server and an object; the request is for the one, its call names the other
    cases t
    cases t'
    simp only [Topic.mk.injEq, Option.isSome_some]
    split
    · next h => split <;> simp_all
    · next h => exact (if_neg fun h' => h ⟨h'.1.1, h'.2.1, h'.2.2.1⟩).symm

/-- After it was pointed at a topic an adapter holds what it held before, or what was wanted. -/
theorem heldOn_reconcile_or {g : Gateway} (hg : g.WellRouted) (t t' : Topic) (p p' : Protocol) :
    (g.reconcile t p).1.heldOn t' p' = g.heldOn t' p' ∨
      (t' = t ∧ p' = p ∧ (g.reconcile t p).1.heldOn t' p' = g.demand t) := by
  rw [heldOn_reconcile hg]
  split
  · next h => exact Or.inr ⟨h.1, h.2.1, rfl⟩
  · exact Or.inl rfl

/-- An adapter that accepts to be pointed at a topic holds what was wanted, unless the topic is
recorded without sensors. -/
theorem heldOn_reconcile_of_ok {g : Gateway} (hg : g.WellRouted) {t : Topic} {p : Protocol}
    (hok : (g.reconcile t p).2.isOk) (hc : (g.pointingCall t).isSome) :
    (g.reconcile t p).1.heldOn t p = g.demand t := by
  rw [heldOn_reconcile hg, if_pos ⟨rfl, rfl, hok, hc⟩]

/-! ## Refusals -/

/-- The adapter of a topic's family has refused a call that says what to watch there. -/
def Refused (g : Gateway) (t : Topic) (p : Protocol) : Prop :=
  ∃ e ∈ g.calls, g.routes.get? ⟨t.server, p⟩ = some e.adapter ∧ e.call.Points t.object ∧
    e.result.isOk = false

instance (g : Gateway) (t : Topic) (p : Protocol) : Decidable (g.Refused t p) :=
  inferInstanceAs (Decidable (∃ e ∈ g.calls, g.routes.get? ⟨t.server, p⟩ = some e.adapter ∧
    e.call.Points t.object ∧ e.result.isOk = false))

theorem Refused.of_steady {g g' : Gateway} (h : Steady g g') {t : Topic} {p : Protocol}
    (hr : g.Refused t p) : g'.Refused t p := by
  obtain ⟨e, he, hroute, hrest⟩ := hr
  exact ⟨e, h.calls.subset he, h.routes ▸ hroute, hrest⟩

/-- Pointing an adapter fails only where there is none, or where it refuses. -/
theorem refused_of_reconcile {g : Gateway} (hg : g.WellRouted) {t : Topic} {p : Protocol}
    (h : (g.reconcile t p).2.isOk = false) :
    g.routes.get? ⟨t.server, p⟩ = none ∨ (g.reconcile t p).1.Refused t p := by
  rcases reconcile_cases g t p with ⟨hnone, -, -⟩ | ⟨-, hsame⟩ | ⟨c, hc, hreq⟩
  · exact Or.inl hnone
  · rw [hsame] at h; cases h
  · rcases request_cases g t p c with ⟨hnone, -, -⟩ | ⟨n, hn, hcall, hok⟩
    · exact Or.inl hnone
    · right
      rw [hreq, hcall]
      rw [hreq, hok] at h
      have hlt : n < g.adapters.length := hg.present hn
      obtain ⟨hr, htells⟩ := call_of_present (List.getElem?_eq_getElem hlt) c
      refine ⟨Exchange.mk n c _, htells.log ▸ List.mem_append_right _ (List.mem_singleton.mpr rfl),
        htells.routes ▸ hn, points_pointingCall hc, hr ▸ h⟩

end Gateway

end SensorGateway
