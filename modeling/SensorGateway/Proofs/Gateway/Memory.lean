/-
# SensorGateway.Proofs.Gateway.Memory -- gateways that serve objects in memory

Adapters change by calls, and by nothing else (`CallInductive.act`). So after any run each
adapter descends from the one that was there at first, and in a gateway whose adapters all
hold objects in memory every route leads to objects of its own server and family, with the
sensors of the settings (`Run.inMemory`).
-/
import SensorGateway.Proofs.Adapter.Writing
import SensorGateway.Proofs.Gateway.Books
import SensorGateway.Proofs.Gateway.Quiet

namespace SensorGateway

/-! ## Adapters change by calls -/

/-- A property of adapters and routes that calls keep. -/
structure CallInductive (P : Gateway → Prop) : Prop where
  call : ∀ {g}, P g → ∀ n c, P (g.call n c).1
  /-- Nothing else matters to it. -/
  rest : ∀ {g g' : Gateway}, P g → g'.adapters = g.adapters → g'.routes = g.routes → P g'

namespace CallInductive

variable {P : Gateway → Prop} {g : Gateway}

/-- Calls that do not write are calls. -/
theorem quiet (hP : CallInductive P) : QuietInductive P where
  call h n c _ := hP.call h n c
  rest h hadapters hroutes _ := hP.rest h hadapters hroutes

theorem setValue (hP : CallInductive P) (h : P g) (token : Option String) (t : Topic)
    (p : Protocol) (k : SensorKey) (v : SensorValue) : P (g.setValue token t p k v).1 := by
  have hallowed := hP.quiet.authorize h token
  unfold Gateway.setValue
  split
  · next heq =>
    rw [heq] at hallowed
    exact hallowed
  · next heq =>
    rw [heq] at hallowed
    exact Gateway.request_induction hallowed (fun n => hP.call hallowed n _) t p

/-- What calls keep is kept by every operation. -/
theorem act (hP : CallInductive P) (h : P g) (op : Op) : P (op.act g) := by
  by_cases hop : op.isWrite = true
  · cases op with
    | setValue token t p k v => exact hP.setValue h token t p k v
    | _ => cases hop
  · exact hP.quiet.act h (by simpa using hop)

/-- What calls keep is kept by every run. -/
theorem after (hP : CallInductive P) (ops : List Op) {w : World} (h : P w.gateway) :
    P (w.after ops).gateway := by
  induction ops generalizing w with
  | nil => exact h
  | cons op ops ih => exact ih (w := w.step op) (hP.act h op)

end CallInductive

namespace Gateway

/-- The second gateway has the routes of the first one, and its adapters come from those of the first
one by calls. -/
def Descends (g₀ g : Gateway) : Prop :=
  g.routes = g₀.routes ∧ ∀ (n : Nat) a, g.adapters[n]? = some a →
    ∃ a₀, g₀.adapters[n]? = some a₀ ∧ a₀.Descends a

theorem descends_refl (g : Gateway) : g.Descends g :=
  ⟨rfl, fun _ a ha => ⟨a, ha, .refl a⟩⟩

theorem callInductive_descends (g₀ : Gateway) : CallInductive g₀.Descends where
  rest h hadapters hroutes :=
    ⟨hroutes.trans h.1, fun n a ha => h.2 n a (hadapters ▸ ha)⟩
  call {g} h n c := by
    cases ha : g.adapters[n]? with
    | none =>
      rw [(call_of_absent ha c).1]
      exact h
    | some a =>
      have htells := (call_of_present ha c).2
      refine ⟨htells.routes.trans h.1, ?_⟩
      intro n' a' ha'
      rw [htells.adapters] at ha'
      have hlt : n < g.adapters.length := (List.getElem?_eq_some_iff.mp ha).1
      by_cases hn : n = n'
      · subst hn
        rw [List.getElem?_set_self hlt] at ha'
        obtain rfl := Option.some.inj ha'
        obtain ⟨a₀, ha₀, hdescends⟩ := h.2 n a ha
        exact ⟨a₀, ha₀, hdescends.ask g.clock.wall c⟩
      · rw [List.getElem?_set_ne hn] at ha'
        exact h.2 n' a' ha'

/-! ## Objects in memory -/

/-- Every route leads to objects in memory of its own server and family. -/
def Stocked (g : Gateway) : Prop :=
  ∀ server p n, g.routes.get? ⟨server, p⟩ = some n →
    ∃ l, g.adapters[n]? = some (.loopback l) ∧ l.server = server ∧ l.protocol = p

end Gateway

/-- An adapter for objects in memory of the server that it is to serve. -/
def Installation.InMemory (i : Installation) : Prop :=
  ∃ l, i.adapter = .loopback l ∧ l.server = i.server

namespace Gateway

variable {g : Gateway}

theorem Stocked.install (h : g.Stocked) (hg : g.WellRouted) {i : Installation}
    (hi : i.InMemory) : (g.install i).Stocked := by
  obtain ⟨l, hl, hserver⟩ := hi
  rw [install_eq]
  intro server p n hn
  simp only [SortedMap.get?_insert] at hn ⊢
  split at hn
  · next hroute =>
    obtain rfl := Option.some.inj hn
    obtain ⟨rfl, rfl⟩ := Route.mk.inj hroute
    refine ⟨l, ?_, hserver, ?_⟩
    · rw [List.getElem?_concat_length, hl]
    · rw [hl]
      rfl
  · obtain ⟨l', hl', hrest⟩ := h server p n hn
    refine ⟨l', ?_, hrest⟩
    rw [List.getElem?_append_left (hg.present hn)]
    exact hl'

theorem Stocked.foldl_install (h : g.Stocked) (hg : g.WellRouted) {is : List Installation}
    (his : ∀ i ∈ is, i.InMemory) : (is.foldl Gateway.install g).Stocked := by
  induction is generalizing g with
  | nil => exact h
  | cons i rest ih =>
    exact ih (h.install hg (his i (by simp))) (wellRouted_install hg i)
      fun i' hi' => his i' (List.mem_cons_of_mem i hi')

theorem Stocked.registerServer (h : g.Stocked) (hg : g.WellRouted) (s : Config.Server) :
    (g.registerServer s).1.Stocked := by
  unfold Gateway.registerServer
  split
  · exact h
  · have hmemory : ∀ i ∈ (loopbackFamilies s).map (memoryInstallation s), i.InMemory := by
      intro i hi
      obtain ⟨p, -, rfl⟩ := List.mem_map.mp hi
      exact ⟨_, rfl, rfl⟩
    have hinstalled := h.foldl_install hg hmemory
    rw [List.foldl_map] at hinstalled
    exact hinstalled

theorem Stocked.registerLoopback (h : g.Stocked) (hg : Fresh g) (servers : List Config.Server) :
    (g.registerLoopback servers).1.Stocked := by
  induction servers generalizing g with
  | nil => exact h
  | cons s rest ih => exact ih (h.registerServer hg.routed s) (hg.registerServer s)

/-- An assembled gateway serves objects in memory, if all further adapters do. -/
theorem stocked_assemble (c : Config) (clock : Clock) {more : List Installation}
    (hmore : ∀ i ∈ more, i.InMemory) : (assemble c clock more).Stocked := by
  have hnew : (new c clock).Stocked := fun _ _ _ hn => by cases hn
  have hfresh := fresh_new c clock
  exact (hnew.registerLoopback hfresh c.servers).foldl_install
    (hfresh.registerLoopback c.servers).routed hmore

end Gateway

/-- After any run of a gateway whose adapters all hold objects in memory, every route leads to objects
of its own server and family, with the sensors that they had at first. -/
theorem Run.inMemory (r : Run) (hmore : ∀ i ∈ r.more, i.InMemory) {server : ServerId}
    {p : Protocol} {n : Nat} (hn : r.gateway.routes.get? ⟨server, p⟩ = some n) :
    ∃ l₀ l, (Gateway.assemble r.config r.clock r.more).adapters[n]? = some (.loopback l₀) ∧
      r.gateway.adapters[n]? = some (.loopback l) ∧ l.server = server ∧ l.protocol = p ∧
      ∀ o, l.labels o = l₀.labels o := by
  let g₀ := Gateway.assemble r.config r.clock r.more
  have hdescends : g₀.Descends r.gateway :=
    (Gateway.callInductive_descends g₀).after r.ops (Gateway.descends_refl g₀)
  obtain ⟨l₀, hl₀, hserver, hprotocol⟩ :=
    Gateway.stocked_assemble r.config r.clock hmore server p n (hdescends.1 ▸ hn)
  have hlt : n < r.gateway.adapters.length := (Gateway.ready_run r ⟨server, ""⟩).routed.present hn
  obtain ⟨a₀, ha₀, hfrom⟩ := hdescends.2 n _ (List.getElem?_eq_getElem hlt)
  obtain rfl := Option.some.inj (hl₀.symm.trans ha₀)
  cases ha : r.gateway.adapters[n] with
  | scripted s => rw [ha] at hfrom; cases hfrom
  | loopback l =>
    rw [ha] at hfrom
    obtain ⟨hserver', hprotocol', hlabels⟩ := hfrom
    refine ⟨l₀, l, hl₀, ?_, hserver'.trans hserver, hprotocol'.trans hprotocol, hlabels⟩
    rw [List.getElem?_eq_getElem hlt, ha]

theorem Run.stocked (r : Run) (hmore : ∀ i ∈ r.more, i.InMemory) : r.gateway.Stocked := by
  intro server p n hn
  obtain ⟨-, l, -, hl, hserver, hprotocol, -⟩ := r.inMemory hmore hn
  exact ⟨l, hl, hserver, hprotocol⟩

end SensorGateway
