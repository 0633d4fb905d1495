/-
# SensorGateway.Proofs.Gateway.Tenure -- how long control stays with a token

A token acts when it takes control or is allowed to write. Whoever reads the transcript of the calls
about control knows when a token acted last, if control was not released since
(`Control.LastActed`), and from that alone, the time and the timeout in the settings follows what
other tokens can do (`Control.tenure`). Until the timeout is over, nobody can take control from
the token. Afterwards anybody can who may have it at all, and somebody who looks for idle
holders makes control free. Without a timeout only a release ends it.

What a call does to the holder is said once, in `Control.perform_cases`. The invariant
(`Control.Tenant`) is that a token either still holds control since it acted last, or has lost
it to others, and then the timeout was over. It says nothing about which token has control after
that: a token that has lost it has the rights of any other one.
-/
import SensorGateway.Proofs.Gateway.Control
import SensorGateway.Proofs.Gateway.Holding

namespace SensorGateway

/-! ## Time passes, and nobody asks for control -/

namespace Gateway

/-- Nobody asked for control, and the clock did not go back. -/
structure Later (g g' : Gateway) : Prop where
  arbiter : g'.arbiter = g.arbiter
  elapsed : g.clock.elapsed ≤ g'.clock.elapsed

namespace Later

theorem refl (g : Gateway) : Later g g := ⟨rfl, Nat.le_refl _⟩

theorem trans {a b c : Gateway} (h : Later a b) (h' : Later b c) : Later a c :=
  ⟨h'.arbiter.trans h.arbiter, Nat.le_trans h.elapsed h'.elapsed⟩

theorem publishFrom (g : Gateway) (b : Batch) : Later g (g.publishFrom b).1 := by
  unfold Gateway.publishFrom
  split
  · exact refl g
  · exact ⟨rfl, Nat.le_add_right _ _⟩

theorem call (g : Gateway) (n : Nat) (c : Adapter.Call) : Later g (g.call n c).1 :=
  call_induction (P := Later g) (refl g) (fun _ => ⟨rfl, Nat.le_add_right _ _⟩)
    fun g' b h => h.trans (publishFrom g' b)

theorem request (g : Gateway) (t : Topic) (p : Protocol) (c : Adapter.Call) :
    Later g (g.request t p c).1 :=
  request_induction (P := Later g) (refl g) (fun n => call g n c) t p

end Later

/-- A write asks for control once, and what the adapter does with it comes after that. -/
theorem later_setValue (g : Gateway) (token : Option String) (t : Topic) (p : Protocol)
    (k : SensorKey) (v : SensorValue) :
    Later (g.authorize token).1 (g.setValue token t p k v).1 := by
  unfold setValue
  split
  · next heq =>
    rw [heq]
    exact .refl _
  · next heq =>
    rw [heq]
    exact .request _ t p _

end Gateway

/-! ## Taking control from somebody else -/

namespace Arbiter

theorem take_of_active {a : Arbiter} {now : Nat} {t : String} {k : Holder}
    (hk : a.holder = some k) (hne : k.token ≠ t) (hactive : a.isIdle now k = false) :
    a.take now t = .error (if a.accepts t = true then .controlTaken else .invalidToken) := by
  unfold take
  cases hacc : a.accepts t with
  | false => rfl
  | true => simp [hk, hne, hactive]

theorem take_of_idle {a : Arbiter} {now : Nat} {t : String} (hacc : a.accepts t = true)
    (hidle : ∀ k, a.holder = some k → a.isIdle now k = true) :
    a.take now t = .ok (a.pass (some ⟨t, now⟩)) := by
  unfold take
  cases hk : a.holder with
  | none => simp [hacc]
  | some k => simp [hacc, hidle k hk]

/-- Control is taken from somebody else only if that one is idle. -/
theorem idle_of_take {a a' : Arbiter} {now : Nat} {t : String}
    (h : a.take now t = .ok a') {k : Holder} (hk : a.holder = some k) :
    k.token = t ∨ a.isIdle now k = true := by
  unfold take at h
  split at h
  · cases h
  · rw [hk] at h
    dsimp only at h
    split at h
    · cases h
    · next hfree =>
      by_cases ht : k.token = t
      · exact .inl ht
      · exact .inr (by simpa [ht] using hfree)

end Arbiter

namespace Control

/-! ## What a call does to the holder -/

/-- A gateway with control in new hands, or free, and the sessions told. -/
def handing (g : Gateway) (holder : Option Holder) : Gateway :=
  { g with arbiter := g.arbiter.pass holder }.announceControl

/-- A gateway whose holder has just written. -/
def noticing (g : Gateway) (token : String) : Gateway :=
  { g with arbiter := { g.arbiter with holder := some ⟨token, g.clock.elapsed⟩ } }

/-- How a call about control ends. -/
inductive Outcome (g : Gateway) (call : ControlCall) : Prop
  /-- A token takes control, and nobody else who holds it is active. -/
  | takes (token : String) (v : ControlView) : call = .take token →
      (∀ k, g.arbiter.holder = some k →
        k.token = token ∨ g.arbiter.isIdle g.clock.elapsed k = true) →
      call.perform g = (handing g (some ⟨token, g.clock.elapsed⟩), .taken (.ok v)) → Outcome g call
  | releases (s : ControlStatus) : call = .release →
      call.perform g = (handing g none, .released s) → Outcome g call
  | expires (k : Holder) : call = .expire → g.arbiter.holder = some k →
      g.arbiter.isIdle g.clock.elapsed k = true →
      call.perform g = (handing g none, .expired true) → Outcome g call
  /-- The token that holds control writes. -/
  | writes (token : String) : call = .authorize (some token) → g.arbiter.token? = some token →
      call.perform g = (noticing g token, .authorized (.ok ())) → Outcome g call
  /-- Nothing happens, and nobody has acted. -/
  | nothing (answer : ControlAnswer) : call ≠ .release → (∀ v, answer ≠ .taken (.ok v)) →
      answer ≠ .authorized (.ok ()) → call.perform g = (g, answer) → Outcome g call

theorem outcome_take (g : Gateway) (token : String) : Outcome g (.take token) := by
  cases hr : g.arbiter.take g.clock.elapsed token with
  | error e =>
    refine .nothing (.taken (.error (.control e))) nofun nofun nofun ?_
    simp only [ControlCall.perform, Gateway.takeControl, hr]
  | ok a =>
    obtain ⟨-, rfl⟩ := Arbiter.take_eq_ok hr
    refine .takes token ⟨true, true, g.arbiter.timeoutSec⟩ rfl
      (fun k => Arbiter.idle_of_take hr) ?_
    simp only [ControlCall.perform, Gateway.takeControl, hr]
    rfl

theorem outcome_expire (g : Gateway) : Outcome g .expire := by
  cases hr : g.arbiter.expire? g.clock.elapsed with
  | none =>
    refine .nothing (.expired false) nofun nofun nofun ?_
    simp only [ControlCall.perform, Gateway.expireControl, hr]
  | some a =>
    obtain rfl := Arbiter.expire?_eq_some hr
    have hidle : g.arbiter.holder.any (g.arbiter.isIdle g.clock.elapsed) = true := by
      unfold Arbiter.expire? at hr
      split at hr
      · assumption
      · cases hr
    obtain ⟨k, hk, hidle⟩ := (Option.any_eq_true _ _).mp hidle
    refine .expires k rfl hk hidle ?_
    simp only [ControlCall.perform, Gateway.expireControl, hr]
    rfl

theorem outcome_authorize (g : Gateway) (token : Option String) :
    Outcome g (.authorize token) := by
  have hr := Arbiter.authorize_eq g.arbiter g.clock.elapsed token
  split at hr
  · refine .nothing (.authorized (.error (.control .missingToken))) nofun nofun nofun ?_
    simp only [ControlCall.perform, Gateway.authorize, hr]
  · next hnamed =>
    split at hr
    · next hholds =>
      cases token with
      | none => exact absurd rfl hnamed
      | some t =>
        refine .writes t rfl hholds ?_
        simp only [ControlCall.perform, Gateway.authorize, hr]
        rfl
    · refine .nothing (.authorized (.error (.control .notController))) nofun nofun nofun ?_
      simp only [ControlCall.perform, Gateway.authorize, hr]

/-- Every call ends in one of these ways. -/
theorem outcome (g : Gateway) (call : ControlCall) : Outcome g call := by
  cases call with
  | take token => exact outcome_take g token
  | release => exact .releases _ rfl rfl
  | expire => exact outcome_expire g
  | authorize token => exact outcome_authorize g token
  | status token => exact .nothing (.seen (g.arbiter.status token)) nofun nofun nofun rfl

theorem elapsed_handing (g : Gateway) (holder : Option Holder) :
    g.clock.elapsed ≤ (handing g holder).clock.elapsed := Nat.le_add_right _ _

/-- A call about control does not turn the clock back, and the timeout stays what it is. -/
theorem perform_frame (g : Gateway) (call : ControlCall) :
    g.clock.elapsed ≤ (call.perform g).1.clock.elapsed ∧
      (call.perform g).1.arbiter.idleTimeout = g.arbiter.idleTimeout := by
  cases outcome g call with
  | takes token v _ _ heq => rw [heq]; exact ⟨elapsed_handing g _, rfl⟩
  | releases s _ heq => rw [heq]; exact ⟨elapsed_handing g _, rfl⟩
  | expires k _ _ _ heq => rw [heq]; exact ⟨elapsed_handing g _, rfl⟩
  | writes token _ _ heq => rw [heq]; exact ⟨Nat.le_refl _, rfl⟩
  | nothing answer _ _ _ heq => rw [heq]; exact ⟨Nat.le_refl _, rfl⟩

/-! ## The last activity of a token -/

/-- A call by which a token acts: it takes control, or is allowed to write. -/
def Acts (e : ControlEntry) (token : String) : Prop :=
  Gives e token ∨ e.call = .authorize (some token) ∧ e.answer = .authorized (.ok ())

theorem not_acts_of_answer {e : ControlEntry} {token : String}
    (htaken : ∀ v, e.answer ≠ .taken (.ok v)) (hauthorized : e.answer ≠ .authorized (.ok ())) :
    ¬ Acts e token := by
  rintro (⟨-, v, hv⟩ | ⟨-, hv⟩)
  · exact htaken v hv
  · exact hauthorized hv

/-- A token acted last at some time, and control was not released since. -/
inductive LastActed : List ControlEntry → String → Nat → Prop
  | acts {h : List ControlEntry} {e : ControlEntry} {token : String} :
      Acts e token → LastActed (h ++ [e]) token e.time
  | waits {h : List ControlEntry} {e : ControlEntry} {token : String} {time : Nat} :
      LastActed h token time → ¬ Acts e token → e.call ≠ .release →
      LastActed (h ++ [e]) token time

theorem not_lastActed_nil {token : String} {time : Nat} : ¬ LastActed [] token time := by
  intro hl
  generalize heq : ([] : List ControlEntry) = l at hl
  cases hl <;> simp at heq

theorem lastActed_concat {h : List ControlEntry} {e : ControlEntry} {token : String} {time : Nat} :
    LastActed (h ++ [e]) token time ↔
      Acts e token ∧ e.time = time ∨
        LastActed h token time ∧ ¬ Acts e token ∧ e.call ≠ .release := by
  constructor
  · intro hl
    generalize heq : h ++ [e] = l at hl
    cases hl with
    | acts hacts =>
      obtain ⟨-, rfl⟩ := List.append_singleton_inj.mp heq
      exact .inl ⟨hacts, rfl⟩
    | waits hl hacts hrelease =>
      obtain ⟨rfl, rfl⟩ := List.append_singleton_inj.mp heq
      exact .inr ⟨hl, hacts, hrelease⟩
  · rintro (⟨hacts, rfl⟩ | ⟨hl, hacts, hrelease⟩)
    · exact .acts hacts
    · exact .waits hl hacts hrelease

theorem LastActed.unique {h : List ControlEntry} {token : String} {time time' : Nat}
    (hl : LastActed h token time) (hl' : LastActed h token time') : time' = time := by
  induction hl with
  | acts hacts =>
    rcases lastActed_concat.mp hl' with ⟨-, htime⟩ | ⟨-, hnot, -⟩
    · exact htime.symm
    · exact absurd hacts hnot
  | waits _ hnot _ ih =>
    rcases lastActed_concat.mp hl' with ⟨hacts, -⟩ | ⟨hl', -, -⟩
    · exact absurd hacts hnot
    · exact ih hl'

theorem LastActed.append {h : List ControlEntry} {token : String} {time : Nat}
    (hl : LastActed h token time) {after : List ControlEntry}
    (hafter : ∀ e ∈ after, e.call ≠ .release) : ∃ time', LastActed (h ++ after) token time' := by
  induction after generalizing h time with
  | nil => exact ⟨time, (List.append_nil h).symm ▸ hl⟩
  | cons e after ih =>
    obtain ⟨he, hafter⟩ := List.forall_mem_cons.mp hafter
    rw [List.append_cons]
    by_cases hacts : Acts e token
    · exact ih (.acts hacts) hafter
    · exact ih (.waits hl hacts he) hafter

/-- Whoever owns control has acted, and control was not released since. -/
theorem exists_lastActed {h : List ControlEntry} {token : String} (ho : owner h = some token) :
    ∃ time, LastActed h token time := by
  obtain ⟨before, e, after, rfl, hgives, hquiet⟩ := owner_eq_some_iff.mp ho
  have hacted : LastActed (before ++ [e]) token e.time := .acts (.inl hgives)
  obtain ⟨time, hl⟩ := hacted.append fun d hd hrelease => (hquiet d hd).1 (.inl hrelease)
  rw [← List.append_cons] at hl
  exact ⟨time, hl⟩

/-- The timeout of the settings has passed since some time. Without a timeout it never has. -/
def IsOverdue (c : Config) (since now : Nat) : Prop :=
  c.control.idleTimeoutSeconds ≠ 0 ∧ since + c.control.idleTimeoutSeconds.toNat * 1000 < now

instance (c : Config) (since now : Nat) : Decidable (IsOverdue c since now) :=
  inferInstanceAs (Decidable (_ ∧ _))

/-- Whether a token may have control at all. -/
def IsAdmissible (c : Config) (token : String) : Prop :=
  token ≠ "" ∧ (c.control.tokens = [] ∨ token ∈ c.control.tokens)

instance (c : Config) (token : String) : Decidable (IsAdmissible c token) :=
  inferInstanceAs (Decidable (_ ∧ _))

theorem IsOverdue.later {c : Config} {since now now' : Nat} (h : IsOverdue c since now)
    (hle : now ≤ now') : IsOverdue c since now' := ⟨h.1, Nat.lt_of_lt_of_le h.2 hle⟩

theorem isIdle_iff {c : Config} {a : Arbiter} (h : a.idleTimeout = c.control.idleTimeout?)
    (now : Nat) (k : Holder) : a.isIdle now k = true ↔ IsOverdue c k.lastActivity now := by
  unfold Arbiter.isIdle IsOverdue
  rw [h]
  unfold Config.Control.idleTimeout?
  split
  · next hzero => simp [hzero]
  · next hsome =>
    simp only [Option.any_some, decide_eq_true_eq]
    exact ⟨fun hlt => ⟨hsome, by omega⟩, fun hlt => by omega⟩

theorem accepts_iff_isAdmissible {c : Config} {a : Arbiter}
    (h : a.allowed = .ofList c.control.tokens) (token : String) :
    a.accepts token = true ↔ IsAdmissible c token := by
  rw [Arbiter.accepts_iff, h, IsAdmissible]
  have hempty : (SortedSet.ofList c.control.tokens).isEmpty = true ↔ c.control.tokens = [] := by
    rw [SortedSet.isEmpty_iff, List.eq_nil_iff_forall_not_mem]
    exact forall_congr' fun t => not_congr SortedSet.mem_ofList
  rw [hempty, SortedSet.mem_ofList]

/-! ## The invariant -/

/-- Since a token acted last, it either holds control, or others have taken it away, and then the
timeout was over. -/
def Tenant (c : Config) (g : Gateway) (token : String) (time : Nat) : Prop :=
  g.arbiter.holder = some ⟨token, time⟩ ∨
    g.arbiter.token? ≠ some token ∧ IsOverdue c time g.clock.elapsed

/-- Whoever acts holds control from then on. -/
theorem tenant_of_acts {c : Config} {g : Gateway} {call : ControlCall} {token : String}
    (hacts : Acts ⟨g.clock.elapsed, call, (call.perform g).2⟩ token) :
    Tenant c (call.perform g).1 token g.clock.elapsed := by
  refine .inl ?_
  rcases hacts with ⟨hcall, v, hanswer⟩ | ⟨hcall, hanswer⟩
  · obtain rfl : call = .take token := hcall
    have hanswer : ((ControlCall.take token).perform g).2 = .taken (.ok v) := hanswer
    cases outcome g (.take token) with
    | takes _ _ hsame _ heq =>
      obtain rfl := ControlCall.take.inj hsame
      rw [heq]
      rfl
    | nothing answer _ hnot _ heq =>
      rw [heq] at hanswer
      exact absurd hanswer (hnot v)
    | _ => contradiction
  · obtain rfl : call = .authorize (some token) := hcall
    have hanswer : ((ControlCall.authorize (some token)).perform g).2 = .authorized (.ok ()) :=
      hanswer
    cases outcome g (.authorize (some token)) with
    | writes _ hsame _ heq =>
      obtain rfl := Option.some.inj (ControlCall.authorize.inj hsame)
      rw [heq]
      rfl
    | nothing answer _ _ hnot heq =>
      rw [heq] at hanswer
      exact absurd hanswer hnot
    | _ => contradiction

/-- What others do does not end the hold of a token before the timeout is over. -/
theorem Tenant.perform {c : Config} {g : Gateway} {token : String} {time : Nat}
    (ht : Tenant c g token time) (htimeout : g.arbiter.idleTimeout = c.control.idleTimeout?)
    {call : ControlCall} (hnot : ¬ Acts ⟨g.clock.elapsed, call, (call.perform g).2⟩ token)
    (hrelease : call ≠ .release) : Tenant c (call.perform g).1 token time := by
  have hclock := (perform_frame g call).1
  cases outcome g call with
  | releases _ hcall _ => exact absurd hcall hrelease
  | nothing _ _ _ _ heq => rw [heq]; exact ht
  | takes other v hcall hidle heq =>
    have hother : other ≠ token := by
      rintro rfl
      exact hnot (.inl ⟨hcall, v, congrArg Prod.snd heq⟩)
    refine .inr ⟨?_, ?_⟩
    · rw [heq]
      exact fun h => hother (Option.some.inj h)
    · -- the token still held control, and was idle, or had lost it before
      rcases ht with hholds | ⟨-, hover⟩
      · rcases hidle _ hholds with hsame | hover
        · exact absurd hsame.symm hother
        · exact ((isIdle_iff htimeout _ _).mp hover).later hclock
      · exact hover.later hclock
  | expires k _ hk hidle heq =>
    refine .inr ⟨?_, ?_⟩
    · rw [heq]
      exact nofun
    · rcases ht with hholds | ⟨-, hover⟩
      · obtain rfl := Option.some.inj (hk.symm.trans hholds)
        exact ((isIdle_iff htimeout _ _).mp hidle).later hclock
      · exact hover.later hclock
  | writes other hcall hheld heq =>
    have hother : other ≠ token := by
      rintro rfl
      exact hnot (.inr ⟨hcall, congrArg Prod.snd heq⟩)
    rcases ht with hholds | ⟨-, hover⟩
    · have htoken : g.arbiter.token? = some token := congrArg (Option.map Holder.token) hholds
      exact absurd (Option.some.inj (hheld.symm.trans htoken)) hother
    · refine .inr ⟨?_, hover.later hclock⟩
      rw [heq]
      exact fun h => hother (Option.some.inj h)

theorem idleTimeout_of_history {c : Config} {h : List ControlEntry} {g : Gateway}
    (hist : History c h g) : g.arbiter.idleTimeout = c.control.idleTimeout? := by
  induction hist with
  | start clock => rfl
  | @call h g call _ ih => exact (perform_frame g call).2.trans ih
  | meanwhile _ ha _ ih => rw [ha]; exact ih

theorem tenant_of_history {c : Config} {h : List ControlEntry} {g : Gateway}
    (hist : History c h g) {token : String} {time : Nat} (hl : LastActed h token time) :
    Tenant c g token time := by
  induction hist generalizing time with
  | start clock => exact absurd hl not_lastActed_nil
  | call call hist ih =>
    rcases lastActed_concat.mp hl with ⟨hacts, rfl⟩ | ⟨hl, hnot, hrelease⟩
    · exact tenant_of_acts hacts
    · exact (ih hl).perform (idleTimeout_of_history hist) hnot hrelease
  | meanwhile _ ha hclock ih =>
    rcases ih hl with hholds | ⟨hlost, hover⟩
    · exact .inl (ha ▸ hholds)
    · exact .inr ⟨by rw [Arbiter.token?, ha]; exact hlost, hover.later hclock⟩

/-! ## The law -/

/-- A write belongs to the transcript as the question whether it is allowed. -/
theorem history_setValue {c : Config} {h : List ControlEntry} {g : Gateway}
    (hist : History c h g) (x : Option String) (t : Topic) (p : Protocol) (k : SensorKey)
    (v : SensorValue) :
    History c (h ++ [⟨g.clock.elapsed, .authorize x, .authorized (g.authorize x).2⟩])
      (g.setValue x t p k v).1 := by
  have hlater := g.later_setValue x t p k v
  exact (hist.call (.authorize x)).meanwhile hlater.arbiter hlater.elapsed

theorem takeControl_of_active {g : Gateway} {token : String} {k : Holder}
    (hk : g.arbiter.holder = some k) (hne : k.token ≠ token)
    (hactive : g.arbiter.isIdle g.clock.elapsed k = false) :
    g.takeControl token =
      (g, .error (.control (if g.arbiter.accepts token then .controlTaken else .invalidToken))) := by
  unfold Gateway.takeControl
  rw [Arbiter.take_of_active hk hne hactive]

theorem expireControl_of_active {g : Gateway} {k : Holder} (hk : g.arbiter.holder = some k)
    (hactive : g.arbiter.isIdle g.clock.elapsed k = false) : g.expireControl = (g, false) := by
  have hnone : g.arbiter.expire? g.clock.elapsed = none := by
    unfold Arbiter.expire?
    rw [hk]
    exact if_neg (by simpa using hactive)
  unfold Gateway.expireControl
  rw [hnone]

theorem frees_of_idle {g : Gateway} {k : Holder} (hk : g.arbiter.holder = some k)
    (hidle : g.arbiter.isIdle g.clock.elapsed k = true) :
    g.expireControl.2 = true ∧ g.expireControl.1.arbiter.holder = none := by
  have hsome : g.arbiter.expire? g.clock.elapsed = some (g.arbiter.pass none) := by
    unfold Arbiter.expire?
    rw [hk]
    exact if_pos hidle
  unfold Gateway.expireControl
  rw [hsome]
  exact ⟨rfl, rfl⟩

theorem takeControl_of_idle {g : Gateway} {token : String}
    (hacc : g.arbiter.accepts token = true)
    (hidle : ∀ k, g.arbiter.holder = some k → g.arbiter.isIdle g.clock.elapsed k = true) :
    (∃ v, (g.takeControl token).2 = .ok v) ∧
      (g.takeControl token).1.arbiter.token? = some token := by
  unfold Gateway.takeControl
  rw [Arbiter.take_of_idle hacc hidle]
  exact ⟨⟨_, rfl⟩, rfl⟩

/-- Looking at control and calls that are refused are no activity. -/
theorem LastActed.unmoved {h : List ControlEntry} {token : String} {time : Nat}
    (hl : LastActed h token time) (g : Gateway) {call : ControlCall}
    (hcall : (∃ x, call = .status x) ∨ ∃ e, (call.perform g).2.refusal? = some e) :
    (call.perform g).1 = g ∧
      LastActed (h ++ [⟨g.clock.elapsed, call, (call.perform g).2⟩]) token time := by
  rcases hcall with ⟨x, rfl⟩ | ⟨e, he⟩
  · exact ⟨rfl, .waits hl (not_acts_of_answer nofun nofun) nofun⟩
  · refine ⟨perform_of_refusal he, .waits hl (not_acts_of_answer ?_ ?_) ?_⟩
    · rintro v hv
      rw [show (call.perform g).2 = .taken (.ok v) from hv] at he
      cases he
    · intro hv
      rw [show (call.perform g).2 = .authorized (.ok ()) from hv] at he
      cases he
    · rintro rfl
      cases he

/-- What holds after a history of calls when a token acted last at some time. -/
structure Tenure (c : Config) (h : List ControlEntry) (g : Gateway) (token : String)
    (time : Nat) : Prop where
  /-- Until the timeout is over, the token has control and may write. -/
  holds : ¬ IsOverdue c time g.clock.elapsed →
    owner h = some token ∧ (g.authorize (some token)).2 = .ok ()
  /-- Until then nobody else can take control. -/
  refuses : ¬ IsOverdue c time g.clock.elapsed → ∀ other, other ≠ token →
    g.takeControl other =
      (g, .error (.control (if IsAdmissible c other then .controlTaken else .invalidToken)))
  stays : ¬ IsOverdue c time g.clock.elapsed → g.expireControl = (g, false)
  /-- Afterwards, if the token still has control, it loses it to whoever looks for idle holders,
  and to anybody who may have control at all. -/
  frees : IsOverdue c time g.clock.elapsed → owner h = some token →
    g.expireControl.2 = true ∧ g.expireControl.1.arbiter.holder = none
  yields : IsOverdue c time g.clock.elapsed → owner h = some token →
    ∀ other, IsAdmissible c other → ∀ g', g' = g ∨ g' = g.expireControl.1 →
      (∃ v, (g'.takeControl other).2 = .ok v) ∧
        (g'.takeControl other).1.arbiter.token? = some other
  /-- Looking at control and calls that are refused do not count as activity. -/
  unmoved : ∀ call, (∃ x, call = .status x) ∨ (∃ e, (call.perform g).2.refusal? = some e) →
    (call.perform g).1 = g ∧
      LastActed (h ++ [⟨g.clock.elapsed, call, (call.perform g).2⟩]) token time
  /-- A write that is allowed counts, whatever the adapter makes of it. -/
  writes : (g.authorize (some token)).2 = .ok () → ∀ t p k v, ∃ h',
    History c h' (g.setValue (some token) t p k v).1 ∧ LastActed h' token g.clock.elapsed

/-- **An active holder cannot be displaced, and an idle one always can.** Whoever owns control
after a history of calls acted last at one time, and what anybody can do about control follows
from that time. Without a timeout it never becomes overdue, and control stays with the token
until a release. -/
theorem tenure {c : Config} {h : List ControlEntry} {g : Gateway} (hist : History c h g)
    (token : String) :
    (owner h = some token → ∃ time, LastActed h token time ∧
      ∀ time', LastActed h token time' → time' = time) ∧
      ∀ time, LastActed h token time → Tenure c h g token time := by
  refine ⟨fun ho => ?_, fun time hl => ?_⟩
  · obtain ⟨time, hl⟩ := exists_lastActed ho
    exact ⟨time, hl, fun time' hl' => hl.unique hl'⟩
  have hf : Follows c h g.arbiter := follows_of_history hist
  have hidle := isIdle_iff (idleTimeout_of_history hist) g.clock.elapsed ⟨token, time⟩
  have hacc := accepts_iff_isAdmissible hf.allowed
  have hheld : ¬ IsOverdue c time g.clock.elapsed ∨ owner h = some token →
      g.arbiter.holder = some ⟨token, time⟩ := by
    rcases tenant_of_history hist hl with hholds | ⟨hlost, hover⟩
    · exact fun _ => hholds
    · rintro (hactive | howner)
      · exact absurd hover hactive
      · exact absurd (hf.owner.trans howner) hlost
  have howns : ¬ IsOverdue c time g.clock.elapsed → owner h = some token := fun hactive =>
    hf.owner.symm.trans (congrArg (Option.map Holder.token) (hheld (.inl hactive)))
  have hnot (hactive : ¬ IsOverdue c time g.clock.elapsed) :
      g.arbiter.isIdle g.clock.elapsed ⟨token, time⟩ = false :=
    Bool.eq_false_iff.mpr fun h => hactive (hidle.mp h)
  constructor
  case holds =>
    intro hactive
    have ho := howns hactive
    have hne := ((single_writer hist).allowed token ho).1
    exact ⟨ho, ((single_writer hist).authorized _).mpr ⟨token, rfl, hne, ho⟩⟩
  case refuses =>
    intro hactive other hother
    rw [takeControl_of_active (hheld (.inl hactive)) (Ne.symm hother) (hnot hactive)]
    simp only [hacc other]
  case stays =>
    exact fun hactive => expireControl_of_active (hheld (.inl hactive)) (hnot hactive)
  case frees => exact fun hover ho => frees_of_idle (hheld (.inr ho)) (hidle.mpr hover)
  case yields =>
    intro hover ho other hother g' hg'
    rcases hg' with rfl | rfl
    · refine takeControl_of_idle ((hacc other).mpr hother) fun k hk => ?_
      obtain rfl := Option.some.inj (hk.symm.trans (hheld (.inr ho)))
      exact hidle.mpr hover
    · have hfree := (frees_of_idle (hheld (.inr ho)) (hidle.mpr hover)).2
      have hallowed := (follows_of_history (hist.call .expire)).allowed
      have haccepts := (accepts_iff_isAdmissible hallowed other).mpr hother
      exact takeControl_of_idle haccepts fun k hk => absurd (hk.symm.trans hfree) nofun
  case unmoved => exact fun _ => hl.unmoved g
  case writes =>
    intro hallowed t p k v
    have hwritten := history_setValue hist (some token) t p k v
    rw [hallowed] at hwritten
    exact ⟨_, hwritten, .acts (.inr ⟨rfl, rfl⟩)⟩

/-- An operator takes control, and writes half a minute later to a server without adapter. The
timeout of a minute runs from the write. -/
theorem a_minute_after_the_write :
    let settings : Config :=
      { control := { tokens := ["ann", "bob"], idleTimeoutSeconds := 60 } }
    let taken := ((ControlCall.take "ann").perform (.new settings ⟨⟨0, 0⟩, 0⟩)).1
    let later : Gateway := { taken with clock := ⟨⟨30, 0⟩, 30000⟩ }
    let write := later.setValue (some "ann") ⟨"srv", "furnace"⟩ .modbus (.name "fan") (.bool true)
    let last : Gateway := { write.1 with clock := ⟨⟨90, 0⟩, 90000⟩ }
    let past : Gateway := { write.1 with clock := ⟨⟨90, 1000000⟩, 90001⟩ }
    write.2 = .error (.noAdapter "srv" .modbus) ∧
      last.takeControl "bob" = (last, .error (.control .controlTaken)) ∧
      last.takeControl "eve" = (last, .error (.control .invalidToken)) ∧
      last.expireControl = (last, false) ∧ past.expireControl.2 = true ∧
      (past.takeControl "bob").1.arbiter.token? = some "bob" := by
  intro settings taken later write last past
  have started : History settings [] (.new settings ⟨⟨0, 0⟩, 0⟩) := .start _
  have waited : History settings _ later :=
    (started.call (.take "ann")).meanwhile rfl (Nat.zero_le _)
  have written := history_setValue waited (some "ann") ⟨"srv", "furnace"⟩ .modbus (.name "fan")
    (.bool true)
  have atLast : History settings _ last := written.meanwhile rfl (by decide)
  have atPast : History settings _ past := written.meanwhile rfl (by decide)
  have hlast := (tenure atLast "ann").2 30000 (.acts (.inr ⟨rfl, rfl⟩))
  have hover := (tenure atPast "ann").2 30000 (.acts (.inr ⟨rfl, rfl⟩))
  refine ⟨rfl, ?_, ?_, ?_, ?_, ?_⟩
  · exact hlast.refuses (by decide) "bob" (by decide)
  · exact hlast.refuses (by decide) "eve" (by decide)
  · exact hlast.stays (by decide)
  · exact (hover.frees (by decide) (by decide)).1
  · exact (hover.yields (by decide) (by decide) "bob" (by decide) past (.inl rfl)).2

/-- Without a list of allowed tokens any text may have control but the empty one, which is refused
for itself even while somebody else is active. And who was superseded for being idle cannot lose
control again: nobody finds anything to expire while the new holder is active. -/
theorem displacement_by_others :
    let settings : Config := { control := { tokens := [], idleTimeoutSeconds := 60 } }
    let taken := (ControlCall.take "ann").perform (.new settings ⟨⟨0, 0⟩, 0⟩)
    let first : ControlEntry := ⟨0, .take "ann", taken.2⟩
    let later : Gateway := { taken.1 with clock := ⟨⟨61, 0⟩, 61000⟩ }
    let superseding := (ControlCall.take "bob").perform later
    let second : ControlEntry := ⟨61000, .take "bob", superseding.2⟩
    (History settings [first] taken.1 ∧ LastActed [first] "ann" 0 ∧
      ¬ IsOverdue settings 0 taken.1.clock.elapsed ∧
      (taken.1.takeControl "").2 = .error (.control .invalidToken)) ∧
    (History settings [first, second] superseding.1 ∧ LastActed [first, second] "ann" 0 ∧
      IsOverdue settings 0 superseding.1.clock.elapsed ∧
      superseding.1.expireControl.2 = false ∧
      (superseding.1.takeControl "cid").2 = .error (.control .controlTaken)) := by
  intro settings taken first later superseding second
  have started : History settings [] (.new settings ⟨⟨0, 0⟩, 0⟩) := .start _
  have atFirst : History settings [first] taken.1 := started.call (.take "ann")
  have waited : History settings [first] later := atFirst.meanwhile rfl (Nat.zero_le _)
  have acted : LastActed [first] "ann" 0 := .acts (h := []) (.inl ⟨rfl, _, rfl⟩)
  have others : ¬ Acts second "ann" := by
    rintro (⟨hcall, -⟩ | ⟨hcall, -⟩)
    · exact absurd (ControlCall.take.inj hcall) (by decide)
    · cases hcall
  have holds : superseding.1.arbiter.holder = some ⟨"bob", 61000⟩ := by decide
  have active : superseding.1.arbiter.take superseding.1.clock.elapsed "cid" =
      .error .controlTaken :=
    (Arbiter.take_of_active holds (by decide) (by decide)).trans
      (congrArg Except.error (if_pos (by decide)))
  refine ⟨⟨atFirst, acted, by decide, rfl⟩, waited.call (.take "bob"),
    .waits (h := [first]) acted others nofun, by decide, by decide, ?_⟩
  unfold Gateway.takeControl
  rw [active]

end Control

end SensorGateway
