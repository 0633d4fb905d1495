/-
# SensorGateway.Proofs.Gateway.Assembly -- a gateway before it is used

A gateway is made from its settings; it gets an adapter for every family of objects in
memory, and then any number of other adapters. Each adapter serves one family of one
server. `Gateway.fresh_assemble` says what that comes to: nobody asks for anything, no
adapter was called, and no two routes share an adapter.
-/
import SensorGateway.Proofs.Gateway.Holding

namespace SensorGateway

/-- An adapter on its way into a gateway: the server that it serves, and that it watches nothing
yet. -/
structure Installation where
  server : ServerId
  adapter : Adapter
  unwatched : ∀ o, adapter.watched o = .empty

/-- An adapter for one family that accepts whatever it is asked, at once. -/
def Installation.accepting (server : ServerId) (p : Protocol) : Installation where
  server
  adapter := .scripted (.new p { delay := fun _ _ => 0, refusal := fun _ _ => none })
  unwatched _ := rfl

namespace Gateway

/-- Adds an adapter that serves its server from then on. -/
def install (g : Gateway) (i : Installation) : Gateway :=
  (g.addAdapter i.adapter).1.register i.server (g.addAdapter i.adapter).2

/-- A gateway with the adapters of its settings, and more. -/
def assemble (c : Config) (clock : Clock) (more : List Installation) : Gateway :=
  more.foldl install ((new c clock).registerLoopback c.servers).1

/-- Nothing has happened yet. -/
structure Fresh (g : Gateway) : Prop where
  sessions : g.bus.sessions = []
  departed : g.bus.departed = []
  tracked : g.recorder.tracked = .empty
  isRecording : g.recorder.isRecording = false
  calls : g.calls = []
  routed : g.WellRouted
  unwatched : ∀ a ∈ g.adapters, ∀ o, a.watched o = .empty

theorem fresh_new (c : Config) (clock : Clock) : Fresh (new c clock) where
  sessions := rfl
  departed := rfl
  tracked := rfl
  isRecording := rfl
  calls := rfl
  routed := ⟨fun h _ => absurd h (by simp [new]), fun h => absurd h (by simp [new])⟩
  unwatched := fun a ha => by cases ha

theorem install_eq (g : Gateway) (i : Installation) :
    g.install i = { g with
      adapters := g.adapters ++ [i.adapter]
      routes := g.routes.insert ⟨i.server, i.adapter.protocol⟩ g.adapters.length } := by
  simp [install, addAdapter, register]

/-- A new adapter gets a number that no route has, so routes go on being apart. -/
theorem wellRouted_install {g : Gateway} (h : g.WellRouted) (i : Installation) :
    (g.install i).WellRouted := by
  rw [install_eq]
  constructor
  · intro r r' n hr hr'
    simp only [SortedMap.get?_insert] at hr hr'
    -- the new number is greater than those of all other routes
    split at hr
    · next he =>
      split at hr'
      · next he' => rw [he, he']
      · cases hr; exact absurd (h.present hr') (Nat.lt_irrefl _)
    · split at hr'
      · cases hr'; exact absurd (h.present hr) (Nat.lt_irrefl _)
      · exact h.alone hr hr'
  · intro r n hr
    simp only [SortedMap.get?_insert, List.length_append, List.length_singleton] at hr ⊢
    split at hr
    · cases hr; exact Nat.lt_succ_self _
    · exact Nat.lt_succ_of_lt (h.present hr)

theorem Fresh.install {g : Gateway} (h : Fresh g) (i : Installation) : Fresh (g.install i) := by
  have routed := wellRouted_install h.routed i
  rw [install_eq] at routed ⊢
  refine ⟨h.sessions, h.departed, h.tracked, h.isRecording, h.calls, routed, ?_⟩
  intro a ha
  rcases List.mem_append.mp ha with ha | ha
  · exact h.unwatched a ha
  · rw [List.mem_singleton.mp ha]; exact i.unwatched

theorem Fresh.foldl_install {g : Gateway} (h : Fresh g) (l : List Installation) :
    Fresh (l.foldl Gateway.install g) := by
  induction l generalizing g with
  | nil => exact h
  | cons i rest ih => exact ih (h.install i)

/-! ## The adapters of the settings -/

/-- Objects in memory are not watched at first. -/
theorem watched_ofConfig (server : ServerId) (p : Protocol)
    (objects : List Config.LoopbackObject) (o : String) :
    (Adapter.loopback (.ofConfig server p objects)).watched o = .empty := by
  show (Adapter.Loopback.ofConfig server p objects).watched o = .empty
  unfold Adapter.Loopback.watched
  split
  · next ob hob =>
    obtain ⟨c, -, hc⟩ := List.mem_map.mp (SortedMap.mem_of_get?_ofList hob)
    obtain ⟨-, rfl⟩ := Prod.mk.inj hc
    rfl
  · rfl

/-- The adapter for the objects of one family of a server. -/
def memoryInstallation (s : Config.Server) (p : Protocol) : Installation :=
  ⟨s.serverId, .loopback (.ofConfig s.serverId p s.loopback),
    watched_ofConfig s.serverId p s.loopback⟩

theorem Fresh.registerServer {g : Gateway} (h : Fresh g) (s : Config.Server) :
    Fresh (g.registerServer s).1 := by
  unfold Gateway.registerServer
  split
  · exact h
  · have hf := h.foldl_install ((loopbackFamilies s).map (memoryInstallation s))
    rw [List.foldl_map] at hf
    exact ⟨hf.sessions, hf.departed, hf.tracked, hf.isRecording, hf.calls,
      hf.routed.of_same rfl rfl, hf.unwatched⟩

theorem Fresh.registerLoopback {g : Gateway} (h : Fresh g) (servers : List Config.Server) :
    Fresh (g.registerLoopback servers).1 := by
  induction servers generalizing g with
  | nil => exact h
  | cons s rest ih => exact ih (h.registerServer s)

/-- An assembled gateway is fresh. -/
theorem fresh_assemble (c : Config) (clock : Clock) (more : List Installation) :
    Fresh (assemble c clock more) :=
  ((fresh_new c clock).registerLoopback c.servers).foldl_install more

theorem recorder_foldl_install (l : List Installation) (g : Gateway) :
    (l.foldl Gateway.install g).recorder = g.recorder := by
  induction l generalizing g with
  | nil => rfl
  | cons i rest ih =>
    rw [List.foldl_cons, ih, install_eq]

theorem recorder_registerLoopback (servers : List Config.Server) (g : Gateway) :
    (g.registerLoopback servers).1.recorder = g.recorder := by
  induction servers generalizing g with
  | nil => rfl
  | cons s rest ih =>
    have hserver : (g.registerServer s).1.recorder = g.recorder := by
      unfold Gateway.registerServer
      split
      · rfl
      · have hf := recorder_foldl_install ((loopbackFamilies s).map (memoryInstallation s)) g
        rw [List.foldl_map] at hf
        exact hf
    exact (ih (g.registerServer s).1).trans hserver

/-- Adapters do not matter to the recorder. -/
theorem recorder_assemble (c : Config) (clock : Clock) (more : List Installation) :
    (assemble c clock more).recorder = .new c.recording :=
  (recorder_foldl_install more _).trans (recorder_registerLoopback c.servers _)

theorem Fresh.held {g : Gateway} (h : Fresh g) (n : Nat) (o : String) : g.held n o = none := by
  unfold Gateway.held
  rw [h.calls]
  rfl

theorem Fresh.heldOn {g : Gateway} (h : Fresh g) (t : Topic) (p : Protocol) :
    g.heldOn t p = none := by
  unfold Gateway.heldOn
  cases g.routes.get? ⟨t.server, p⟩ with
  | none => rfl
  | some n => exact h.held n t.object

theorem Fresh.not_asks {g : Gateway} (h : Fresh g) {id : SessionId} {t : Topic} {i : Interest} :
    ¬ g.bus.Asks id t i := by
  intro ha
  obtain ⟨s, hs, -⟩ := Bus.asks_iff.mp ha
  rw [h.sessions] at hs
  cases hs

theorem Fresh.not_tracked {g : Gateway} (h : Fresh g) {t : Topic} {i : Interest} :
    g.recorder.tracked.get? t ≠ some i := by
  intro hi
  rw [h.tracked] at hi
  cases hi

theorem Fresh.faithful {g : Gateway} (h : Fresh g) : g.Faithful := by
  intro n a ha o
  rw [h.held]
  exact h.unwatched a (List.mem_of_getElem? ha) o

end Gateway

end SensorGateway
