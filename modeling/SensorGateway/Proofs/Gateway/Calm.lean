/-
# SensorGateway.Proofs.Gateway.Calm -- what leaves interests alone

Writing values, control, telling sessions, reading browsers and clearing the recording
are `Gateway.Calm`: apart from evictions nobody's interest changes, and adapters hold
what they held. Starting a recording is calm from the moment on at which the recorder
tracks its topics.
-/
import SensorGateway.Proofs.Gateway.Interest

namespace SensorGateway.Gateway

/-- Steady changes under which adapters hold what they held. -/
structure Calm (g g' : Gateway) : Prop extends Steady g g' where
  held : ∀ n o, g'.held n o = g.held n o
  faithful : g.Faithful → g'.Faithful

theorem Calm.refl (g : Gateway) : Calm g g := ⟨.refl g, fun _ _ => rfl, id⟩

theorem Calm.trans {a b c : Gateway} (hab : Calm a b) (hbc : Calm b c) : Calm a c where
  toSteady := hab.toSteady.trans hbc.toSteady
  held n o := (hbc.held n o).trans (hab.held n o)
  faithful h := hbc.faithful (hab.faithful h)

theorem Calm.heldOn {g g' : Gateway} (h : Calm g g') (t : Topic) (p : Protocol) :
    g'.heldOn t p = g.heldOn t p := by
  unfold Gateway.heldOn
  simp only [h.routes, h.held]

theorem Tells.calm {g g' : Gateway} (h : Tells g g') : Calm g g' where
  toSteady := h.toSteady
  held n o := by unfold Gateway.held; rw [h.log]
  faithful := h.faithful

/-! ## Asking for values and writing them -/

theorem calm_call {g : Gateway} {c : Adapter.Call} (hc : ∀ o, ¬ c.Points o) (n : Nat) :
    Calm g (g.call n c).1 where
  toSteady := steady_call g n c
  held n' o := by rw [held_call, Adapter.Call.hold_of_not_points (hc o), ite_self]
  faithful h := faithful_call h n c

theorem calm_request {g : Gateway} {c : Adapter.Call} (hc : ∀ o, ¬ c.Points o) (t : Topic)
    (p : Protocol) : Calm g (g.request t p c).1 :=
  request_induction (P := Calm g) (.refl g) (calm_call hc) t p

theorem not_points_forceEmit (o' o : String) : ¬ (Adapter.Call.forceEmit o').Points o := by
  rintro (⟨_, h⟩ | h) <;> cases h

theorem not_points_setValue (o' o : String) (k : SensorKey) (v : SensorValue) :
    ¬ (Adapter.Call.setValue o' k v).Points o := by
  rintro (⟨_, h⟩ | h) <;> cases h

theorem calm_authorize (g : Gateway) (token : Option String) : Calm g (g.authorize token).1 := by
  unfold authorize
  split
  · exact .refl g
  · exact Tells.calm (tells_of (.refl g.bus) rfl rfl rfl rfl rfl)

theorem calm_setValue (g : Gateway) (token : Option String) (t : Topic) (p : Protocol)
    (k : SensorKey) (v : SensorValue) : Calm g (g.setValue token t p k v).1 := by
  have ha := calm_authorize g token
  unfold setValue
  split
  · next h => rw [h] at ha; exact ha
  · next h =>
    rw [h] at ha
    exact ha.trans (calm_request (fun o => not_points_setValue t.object o k v) t p)

/-! ## Control -/

theorem calm_announceControl (g : Gateway) (arbiter : Arbiter) :
    Calm g { g with arbiter }.announceControl := by
  refine .trans ?_ (tells_broadcast { g with arbiter } _).calm
  exact Tells.calm (tells_of (.refl g.bus) rfl rfl rfl rfl rfl)

theorem calm_takeControl (g : Gateway) (token : String) : Calm g (g.takeControl token).1 := by
  unfold takeControl
  split
  · exact .refl g
  · exact calm_announceControl g _

theorem calm_expireControl (g : Gateway) : Calm g g.expireControl.1 := by
  unfold expireControl
  split
  · exact calm_announceControl g _
  · exact .refl g

/-! ## Recordings -/

theorem calm_announceRecording (g : Gateway) : Calm g g.announceRecording.1 :=
  (tells_broadcast g _).calm

theorem calm_clearRecording (g : Gateway) : Calm g g.clearRecording.1 := by
  refine .trans ?_ (calm_announceRecording { g with recorder := g.recorder.clear })
  exact Tells.calm (tells_of (.refl g.bus) rfl rfl rfl rfl rfl)

/-- What is kept by asking one adapter for all values is kept by asking several. -/
theorem captureBaseline_induction {P : Gateway → Prop}
    (asked : ∀ g t p, P g → P (g.request t p (.forceEmit t.object)).1) {g : Gateway} (hg : P g)
    (topics : List (Topic × Interest)) : P (g.captureBaseline topics) := by
  unfold captureBaseline
  induction topics generalizing g with
  | nil => exact hg
  | cons e rest ih => exact ih (asked g e.1 e.2.protocol hg)

theorem calm_captureBaseline (topics : List (Topic × Interest)) (g : Gateway) :
    Calm g (g.captureBaseline topics) :=
  captureBaseline_induction (P := Calm g)
    (fun _ t p h => h.trans (calm_request (not_points_forceEmit t.object) t p)) (.refl g) topics

/-- A recording that starts tracks what sessions ask for; the rest of it is calm. -/
theorem startRecording_cases (g : Gateway) :
    g.startRecording.1 = g ∨
      ∃ r, g.recorder.start? g.clock.wall g.activeInterests = some r ∧
        Calm { g with recorder := r } g.startRecording.1 := by
  unfold startRecording
  split
  · exact Or.inl rfl
  · next r h =>
    exact Or.inr ⟨r, h, (calm_captureBaseline _ _).trans (calm_announceRecording _)⟩

/-- A recording that stops releases the topics that it tracked. -/
theorem stopRecording_cases (g : Gateway) :
    g.stopRecording.1 = g ∨
      ∃ r tracked, g.recorder.stop? g.clock.wall = some (r, tracked) ∧
        Calm ({ g with recorder := r }.releaseTopics
          (tracked.toList.map fun e : Topic × Interest => (e.1, e.2.protocol)))
        g.stopRecording.1 := by
  unfold stopRecording
  split
  · exact Or.inl rfl
  · next r tracked h => exact Or.inr ⟨r, tracked, h, calm_announceRecording _⟩

theorem faithful_startRecording {g : Gateway} (h : g.Faithful) : g.startRecording.1.Faithful := by
  rcases startRecording_cases g with hsame | ⟨r, -, hcalm⟩
  · rw [hsame]; exact h
  · exact hcalm.faithful h

theorem faithful_stopRecording {g : Gateway} (h : g.Faithful) : g.stopRecording.1.Faithful := by
  rcases stopRecording_cases g with hsame | ⟨r, tracked, -, hcalm⟩
  · rw [hsame]; exact h
  · exact hcalm.faithful (faithful_releaseTopics (g := { g with recorder := r }) h _)

end SensorGateway.Gateway
