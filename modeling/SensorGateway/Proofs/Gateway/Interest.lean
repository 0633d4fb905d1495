/-
# SensorGateway.Proofs.Gateway.Interest -- what asking and giving up can do

Each operation on subscriptions is taken apart once, into changes of the bus, pointing
the adapter, and tracking. Whoever reasons about these operations goes through the cases
here and not through their definitions.
-/
import SensorGateway.Proofs.Gateway.Holding

namespace SensorGateway.Gateway

/-- What a session asks for after it has asked for some keys; for no keys that is nothing. -/
def asked (p : Protocol) (keys : KeySet) : Option Interest :=
  if keys.isEmpty then none else some ⟨p, keys⟩

theorem asked_eq_some {p : Protocol} {keys : KeySet} {i : Interest} (h : asked p keys = some i) :
    keys.isEmpty = false ∧ i = ⟨p, keys⟩ := by
  unfold asked at h
  split at h
  · cases h
  · next he => exact ⟨by simpa using he, (Option.some.inj h).symm⟩

/-- A session that has asked for some keys asks for them. -/
theorem asks_of_asked {b b' : Bus} {id : SessionId} {t : Topic} {p : Protocol} {keys : KeySet}
    (hb : b.restore id t (asked p keys) = .ok b') (hne : keys.isEmpty = false) :
    b'.Asks id t ⟨p, keys⟩ := by
  rw [Bus.asks_restore hb, if_pos ⟨rfl, rfl⟩, asked, if_neg (by simp [hne])]

/-- A request for keys finds no adapter or no session, says so, and nothing happens; or the adapter is
pointed at what is wanted with the new keys. If it refuses, the keys are taken back, and else a
running recording tracks them. -/
theorem subscribe_cases (g : Gateway) (id : SessionId) (t : Topic) (p : Protocol)
    (keys : KeySet) :
    ((g.subscribe id t p keys).1 = g ∧
      ((g.routes.get? ⟨t.server, p⟩ = none ∧
          (g.subscribe id t p keys).2 = .error (.noAdapter t.server p)) ∨
        (g.bus.isRegistered id = false ∧
          (g.subscribe id t p keys).2 = .error (.bus (.unknownSession id))))) ∨
    ∃ n b, g.routes.get? ⟨t.server, p⟩ = some n ∧ g.bus.restore id t (asked p keys) = .ok b ∧
      ((∃ e, ({ g with bus := b }.reconcile t p).2 = .error e ∧
        (g.subscribe id t p keys).1 =
          (({ g with bus := b }.reconcile t p).1.takeBack id t p (g.bus.subscription? id t) e).1 ∧
        (g.subscribe id t p keys).2 = .error
          (({ g with bus := b }.reconcile t p).1.takeBack id t p (g.bus.subscription? id t) e).2) ∨
      (({ g with bus := b }.reconcile t p).2 = .ok () ∧
        (g.subscribe id t p keys).1 = { ({ g with bus := b }.reconcile t p).1 with
          recorder := (({ g with bus := b }.reconcile t p).1.recorder.track t p keys).1 } ∧
        (g.subscribe id t p keys).2 = .ok keys.size)) := by
  unfold subscribe
  cases hn : g.adapterFor t p with
  | error e =>
    obtain ⟨hnone, rfl⟩ := adapterFor_eq_error hn
    exact Or.inl ⟨rfl, Or.inl ⟨hnone, rfl⟩⟩
  | ok n =>
    simp only
    cases hb : g.bus.subscribe id t p keys with
    | error e =>
      obtain ⟨hunknown, rfl⟩ := Bus.subscribe_eq_error hb
      exact Or.inl ⟨rfl, Or.inr ⟨hunknown, rfl⟩⟩
    | ok r =>
      obtain ⟨b, count⟩ := r
      obtain ⟨hrestore, rfl⟩ := Bus.subscribe_eq_ok hb
      refine Or.inr ⟨n, b, adapterFor_eq_ok.mp hn, hrestore, ?_⟩
      simp only
      generalize ({ g with bus := b } : Gateway).reconcile t p = pointed
      obtain ⟨g₁, e | u⟩ := pointed
      · exact Or.inl ⟨e, rfl, rfl, rfl⟩
      · exact Or.inr ⟨rfl, rfl, rfl⟩

/-- Keys are taken back only from a session that is still there; the adapter is then pointed at
what is wanted without them. -/
theorem takeBack_cases (g : Gateway) (id : SessionId) (t : Topic) (p : Protocol)
    (previous : Option Interest) (e : GatewayError) :
    (g.bus.isRegistered id = false ∧ (g.takeBack id t p previous e).1 = g) ∨
    ∃ b, g.bus.restore id t previous = .ok b ∧
      (g.takeBack id t p previous e).1 = ({ g with bus := b }.reconcile t p).1 := by
  unfold takeBack
  cases hb : g.bus.restore id t previous with
  | error e' =>
    refine Or.inl ⟨?_, rfl⟩
    unfold Bus.restore at hb
    split at hb
    · cases hb
    · next h => simpa using h
  | ok b => exact Or.inr ⟨b, rfl, rfl⟩

/-- Giving up a topic finds no session, and nothing happens; or the adapter is pointed at what is
wanted then. -/
theorem unsubscribe_cases (g : Gateway) (id : SessionId) (t : Topic) (p : Protocol) :
    (g.unsubscribe id t p).1 = g ∨
    ∃ b, g.bus.restore id t none = .ok b ∧
      g.unsubscribe id t p = { g with bus := b }.reconcile t p := by
  unfold unsubscribe Bus.unsubscribe
  cases hb : g.bus.restore id t none with
  | error e => exact Or.inl rfl
  | ok b => exact Or.inr ⟨b, rfl, rfl⟩

/-- What is kept when a session gets other keys and the adapter is pointed at what is wanted then,
and when keys are tracked, is kept by a request for keys, whatever comes of it. -/
theorem subscribe_induction {P : Gateway → Prop} {t : Topic} {p : Protocol}
    (restored : ∀ g id i b, g.bus.restore id t i = .ok b → P g →
      P ({ g with bus := b }.reconcile t p).1)
    (tracked : ∀ g keys, P g → P { g with recorder := (g.recorder.track t p keys).1 })
    {g : Gateway} (hg : P g) (id : SessionId) (keys : KeySet) : P (g.subscribe id t p keys).1 := by
  rcases subscribe_cases g id t p keys with
    ⟨hsame, -⟩ | ⟨n, b, -, hb, ⟨e, -, hback, -⟩ | ⟨-, hnew, -⟩⟩
  · rw [hsame]
    exact hg
  · have hpointed := restored g id _ b hb hg
    rw [hback]
    rcases takeBack_cases ({ g with bus := b }.reconcile t p).1 id t p (g.bus.subscription? id t) e
      with ⟨-, hsame⟩ | ⟨b', hb', hrec⟩
    · rw [hsame]
      exact hpointed
    · rw [hrec]
      exact restored _ id _ b' hb' hpointed
  · rw [hnew]
    exact tracked _ keys (restored g id _ b hb hg)

/-- What is kept by pointing adapters is kept by releasing topics. -/
theorem releaseTopics_induction {P : Gateway → Prop}
    (keep : ∀ g t p, P g → P (g.reconcile t p).1) {g : Gateway} (hg : P g)
    (topics : List (Topic × Protocol)) : P (g.releaseTopics topics) := by
  unfold releaseTopics
  induction topics generalizing g with
  | nil => exact hg
  | cons e rest ih => exact ih (keep g e.1 e.2 hg)

/-- Topics are released one after the other. -/
theorem releaseTopics_append_cons (g : Gateway) (before after : List (Topic × Protocol)) (t : Topic)
    (p : Protocol) :
    g.releaseTopics (before ++ (t, p) :: after) =
      ((g.releaseTopics before).reconcile t p).1.releaseTopics after := by
  simp [releaseTopics]

/-! ## Adapters go on watching what they accepted -/

theorem faithful_releaseTopics {g : Gateway} (h : g.Faithful) (topics : List (Topic × Protocol)) :
    (g.releaseTopics topics).Faithful :=
  releaseTopics_induction (P := Faithful) (fun _ t p hg => faithful_reconcile hg t p) h topics

/-- Which sessions ask for what does not matter to what adapters watch. -/
theorem faithful_reconcileWith {g : Gateway} (h : g.Faithful) (b : Bus) (t : Topic)
    (p : Protocol) : ({ g with bus := b }.reconcile t p).1.Faithful :=
  faithful_reconcile (g := { g with bus := b }) h t p

theorem faithful_takeBack {g : Gateway} (h : g.Faithful) (id : SessionId) (t : Topic)
    (p : Protocol) (previous : Option Interest) (e : GatewayError) :
    (g.takeBack id t p previous e).1.Faithful := by
  rcases takeBack_cases g id t p previous e with ⟨-, hsame⟩ | ⟨b, -, hrec⟩
  · rw [hsame]; exact h
  · rw [hrec]; exact faithful_reconcileWith h b t p

theorem faithful_subscribe {g : Gateway} (h : g.Faithful) (id : SessionId) (t : Topic)
    (p : Protocol) (keys : KeySet) : (g.subscribe id t p keys).1.Faithful := by
  rcases subscribe_cases g id t p keys with
    ⟨hsame, -⟩ | ⟨n, b, -, -, ⟨e, -, hback, -⟩ | ⟨-, hnew, -⟩⟩
  · rw [hsame]; exact h
  · rw [hback]; exact faithful_takeBack (faithful_reconcileWith h b t p) id t p _ e
  · rw [hnew]; exact faithful_reconcileWith h b t p

theorem faithful_unsubscribe {g : Gateway} (h : g.Faithful) (id : SessionId) (t : Topic)
    (p : Protocol) : (g.unsubscribe id t p).1.Faithful := by
  rcases unsubscribe_cases g id t p with hsame | ⟨b, -, hrec⟩
  · rw [hsame]; exact h
  · rw [hrec]; exact faithful_reconcileWith h b t p

end SensorGateway.Gateway
