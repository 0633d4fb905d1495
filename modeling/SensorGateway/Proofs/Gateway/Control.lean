/-
# SensorGateway.Proofs.Gateway.Control -- at most one token may write

Calls about control and their answers make a transcript. Whoever reads it knows who may
write: the owner is the token of the last take that succeeded, unless a release or an
expiry came after it (`Control.owner`). `Control.single_writer` says that the gateway goes
by exactly that, after every history of calls, whatever else happens to the gateway between
them.

The invariant ties the holder that the arbiter keeps to the owner that the transcript
tells (`Control.Follows`). Refused calls return the gateway that they were given, so they
cannot break it.
-/
import SensorGateway.Gateway.Writing

namespace SensorGateway

/-! ## The arbiter -/

namespace Arbiter

/-- The token that holds control. -/
def token? (a : Arbiter) : Option String := a.holder.map (·.token)

@[simp] theorem token?_pass (a : Arbiter) (h : Option Holder) :
    (a.pass h).token? = h.map (·.token) := rfl

theorem accepts_iff {a : Arbiter} {t : String} :
    a.accepts t = true ↔ t ≠ "" ∧ (a.allowed.isEmpty = true ∨ t ∈ a.allowed) := by
  simp [accepts]

/-- Control goes only to tokens that may have it. -/
theorem take_eq_ok {a a' : Arbiter} {now : Nat} {t : String} (h : a.take now t = .ok a') :
    a.accepts t = true ∧ a' = a.pass (some ⟨t, now⟩) := by
  unfold take at h
  split at h
  · cases h
  · next hacc =>
    simp only at h
    split at h
    · cases h
    · exact ⟨by simpa using hacc, (Except.ok.inj h).symm⟩

theorem expire?_eq_some {a a' : Arbiter} {now : Nat} (h : a.expire? now = some a') :
    a' = a.pass none := by
  unfold expire? at h
  split at h
  · exact (Option.some.inj h).symm
  · cases h

/-- What comes of a request to write depends on the token and on who holds control. -/
theorem authorize_eq (a : Arbiter) (now : Nat) (x : Option String) :
    a.authorize now x =
      if x.getD "" = "" then .error .missingToken
      else if a.token? = x then .ok { a with holder := some ⟨x.getD "", now⟩ }
      else .error .notController := by
  unfold authorize token?
  cases x with
  | none => rfl
  | some t =>
    simp only [Option.getD_some]
    by_cases ht : t = ""
    · rw [if_pos ht, if_pos ht]
    · rw [if_neg ht, if_neg ht]
      cases a.holder with
      | none => rfl
      | some h => by_cases hh : h.token = t <;> simp [hh]

/-- The owner of a token sees that it may write when it holds control. -/
theorem isController_iff {a : Arbiter} {x : Option String} :
    (a.status x).isController = true ↔ x.getD "" ≠ "" ∧ a.token? = x := by
  unfold status token?
  cases a.holder with
  | none => cases x <;> simp
  | some h =>
    cases x with
    | none => simp
    | some t =>
      have hsym : t = h.token ↔ h.token = t := eq_comm
      simp [hsym]

end Arbiter

/-! ## Calls and answers -/

/-- A call about control. -/
inductive ControlCall where
  | take (token : String)
  | release
  | expire
  | authorize (token : Option String)
  | status (token : Option String)

/-- What a call about control answers. -/
inductive ControlAnswer where
  | taken (r : Except GatewayError ControlView)
  | released (s : ControlStatus)
  | expired (done : Bool)
  | authorized (r : Except GatewayError Unit)
  | seen (v : ControlView)

/-- Why a call was refused, if it was. -/
def ControlAnswer.refusal? : ControlAnswer → Option GatewayError
  | .taken (.error e) => some e
  | .authorized (.error e) => some e
  | _ => none

/-- What a gateway makes of a call about control. -/
def ControlCall.perform (g : Gateway) : ControlCall → Gateway × ControlAnswer
  | .take token => ((g.takeControl token).1, .taken (g.takeControl token).2)
  | .release => (g.releaseControl.1, .released g.releaseControl.2)
  | .expire => (g.expireControl.1, .expired g.expireControl.2)
  | .authorize token => ((g.authorize token).1, .authorized (g.authorize token).2)
  | .status token => (g, .seen (g.arbiter.status token))

/-- A call about control with its answer. -/
structure ControlEntry where
  /-- When it was made, in milliseconds since the start. -/
  time : Nat
  call : ControlCall
  answer : ControlAnswer

namespace Control

/-! ## Who owns control -/

/-- A take that succeeded gives control to its token. -/
def Gives (e : ControlEntry) (t : String) : Prop :=
  e.call = .take t ∧ ∃ v, e.answer = .taken (.ok v)

/-- A release, and an expiry that found somebody idle, end ownership. -/
def Ends (e : ControlEntry) : Prop := e.call = .release ∨ e.answer = .expired true

/-- The owner after one more call. -/
def ownerAfter (owner : Option String) (e : ControlEntry) : Option String :=
  match e.call, e.answer with
  | .take t, .taken (.ok _) => some t
  | .release, _ => none
  | _, .expired true => none
  | _, _ => owner

/-- The owner as a transcript tells, oldest call first. -/
def owner (h : List ControlEntry) : Option String := h.foldl ownerAfter none

/-- An entry that leaves ownership alone. -/
def Quiet (e : ControlEntry) : Prop := ¬ Ends e ∧ ∀ t, ¬ Gives e t

theorem ownerAfter_of_gives {e : ControlEntry} {t : String} (he : Gives e t)
    (o : Option String) : ownerAfter o e = some t := by
  obtain ⟨hcall, v, hanswer⟩ := he
  unfold ownerAfter
  rw [hcall, hanswer]

theorem ownerAfter_of_not_gives {e : ControlEntry} (hne : ∀ t, ¬ Gives e t) (o : Option String) :
    (Ends e ∧ ownerAfter o e = none) ∨ (Quiet e ∧ ownerAfter o e = o) := by
  have hquiet : Ends e ∧ ownerAfter o e = none ∨ ¬ Ends e ∧ ownerAfter o e = o := by
    obtain ⟨time, call, answer⟩ := e
    unfold ownerAfter Ends
    cases call with
    | take t =>
      cases answer with
      | taken r =>
        cases r with
        | ok v => exact absurd ⟨rfl, v, rfl⟩ (hne t)
        | error e => simp
      | expired done => cases done <;> simp
      | _ => simp
    | release => simp
    | _ =>
      cases answer with
      | expired done => cases done <;> simp
      | _ => simp
  exact hquiet.imp_right fun h => ⟨⟨h.1, hne⟩, h.2⟩

theorem foldl_ownerAfter_eq_some_iff {h : List ControlEntry} {o : Option String} {t : String} :
    h.foldl ownerAfter o = some t ↔
      (o = some t ∧ ∀ e ∈ h, Quiet e) ∨
      ∃ before e after, h = before ++ e :: after ∧ Gives e t ∧ ∀ e' ∈ after, Quiet e' := by
  induction h generalizing o with
  | nil => simp
  | cons d h ih =>
    rw [List.foldl_cons, ih]
    constructor
    · rintro (⟨ho, hquiet⟩ | ⟨before, e, after, rfl, he, hafter⟩)
      · -- the first entry decides: it gave control to `t`, or `t` had it before
        by_cases hd : ∃ t', Gives d t'
        · obtain ⟨t', hgives⟩ := hd
          obtain rfl : t' = t := Option.some.inj ((ownerAfter_of_gives hgives o).symm.trans ho)
          exact Or.inr ⟨[], d, h, rfl, hgives, hquiet⟩
        · rcases ownerAfter_of_not_gives (not_exists.mp hd) o with ⟨-, hnone⟩ | ⟨hd, hsame⟩
          · exact absurd (hnone.symm.trans ho) (by simp)
          · exact Or.inl ⟨hsame.symm.trans ho, List.forall_mem_cons.mpr ⟨hd, hquiet⟩⟩
      · exact Or.inr ⟨d :: before, e, after, rfl, he, hafter⟩
    · rintro (⟨ho, hquiet⟩ | ⟨before, e, after, heq, he, hafter⟩)
      · obtain ⟨hd, hh⟩ := List.forall_mem_cons.mp hquiet
        rcases ownerAfter_of_not_gives hd.2 o with ⟨hends, -⟩ | ⟨-, hsame⟩
        · exact absurd hends hd.1
        · exact Or.inl ⟨hsame.trans ho, hh⟩
      · cases before with
        | nil =>
          obtain ⟨rfl, rfl⟩ := List.cons.inj heq
          exact Or.inl ⟨ownerAfter_of_gives he o, hafter⟩
        | cons d' before =>
          obtain ⟨-, rfl⟩ := List.cons.inj heq
          exact Or.inr ⟨before, e, after, rfl, he, hafter⟩

/-- The owner is the token of the last take that succeeded, if nothing ended that since. -/
theorem owner_eq_some_iff {h : List ControlEntry} {t : String} :
    owner h = some t ↔ ∃ before e after, h = before ++ e :: after ∧ Gives e t ∧
      ∀ e' ∈ after, Quiet e' := by
  rw [owner, foldl_ownerAfter_eq_some_iff]
  simp

theorem owner_concat (h : List ControlEntry) (e : ControlEntry) :
    owner (h ++ [e]) = ownerAfter (owner h) e := by
  simp [owner]

/-! ## Histories -/

/-- The histories of calls about control, each with its transcript and the gateway that it ends
with. A history begins with a new gateway. Between calls the clock does not go back, and
anything may happen to the gateway that leaves the arbiter alone. -/
inductive History (c : Config) : List ControlEntry → Gateway → Prop
  | start (clock : Clock) : History c [] (.new c clock)
  | call {h : List ControlEntry} {g : Gateway} (call : ControlCall) :
      History c h g →
      History c (h ++ [⟨g.clock.elapsed, call, (call.perform g).2⟩]) (call.perform g).1
  | meanwhile {h : List ControlEntry} {g g' : Gateway} :
      History c h g → g'.arbiter = g.arbiter → g.clock.elapsed ≤ g'.clock.elapsed →
      History c h g'

/-- The arbiter keeps what the transcript tells: it knows the allowed tokens of the settings, and
its holder is the owner, who was accepted. -/
structure Follows (c : Config) (h : List ControlEntry) (a : Arbiter) : Prop where
  allowed : a.allowed = .ofList c.control.tokens
  owner : a.token? = owner h
  accepted : ∀ t, a.token? = some t → a.accepts t = true

theorem Follows.pass {c : Config} {h : List ControlEntry} {a : Arbiter} (hf : Follows c h a)
    {e : ControlEntry} {holder : Option Holder}
    (ho : holder.map (·.token) = ownerAfter (Control.owner h) e)
    (hacc : ∀ t, holder.map (·.token) = some t → a.accepts t = true) :
    Follows c (h ++ [e]) (a.pass holder) where
  allowed := hf.allowed
  owner := by rw [owner_concat, ← ho, Arbiter.token?_pass]
  accepted := hacc

/-- A call that leaves the holder's token alone, when the transcript says the same. -/
theorem Follows.keep {c : Config} {h : List ControlEntry} {a a' : Arbiter} (hf : Follows c h a)
    {e : ControlEntry} (hallowed : a'.allowed = a.allowed) (htoken : a'.token? = a.token?)
    (he : ownerAfter (Control.owner h) e = Control.owner h) : Follows c (h ++ [e]) a' where
  allowed := hallowed.trans hf.allowed
  owner := by rw [owner_concat, he, htoken, hf.owner]
  accepted t ht := by
    have hacc := hf.accepted t (htoken ▸ ht)
    rw [Arbiter.accepts_iff] at hacc ⊢
    rwa [hallowed]

theorem Follows.take {c : Config} {h : List ControlEntry} {g : Gateway}
    (hf : Follows c h g.arbiter) (time : Nat) (token : String) :
    Follows c (h ++ [⟨time, .take token, .taken (g.takeControl token).2⟩])
      (g.takeControl token).1.arbiter := by
  unfold Gateway.takeControl
  cases hr : g.arbiter.take g.clock.elapsed token with
  | error e => exact hf.keep rfl rfl rfl
  | ok a =>
    obtain ⟨hacc, rfl⟩ := Arbiter.take_eq_ok hr
    apply hf.pass rfl
    intro t ht
    obtain rfl : token = t := Option.some.inj ht
    exact hacc

theorem Follows.expire {c : Config} {h : List ControlEntry} {g : Gateway}
    (hf : Follows c h g.arbiter) (time : Nat) :
    Follows c (h ++ [⟨time, .expire, .expired g.expireControl.2⟩]) g.expireControl.1.arbiter := by
  unfold Gateway.expireControl
  cases hr : g.arbiter.expire? g.clock.elapsed with
  | none => exact hf.keep rfl rfl rfl
  | some a =>
    obtain rfl := Arbiter.expire?_eq_some hr
    exact hf.pass rfl fun t ht => by cases ht

/-- A write that is allowed counts as activity of the same holder. -/
theorem Follows.authorize {c : Config} {h : List ControlEntry} {g : Gateway}
    (hf : Follows c h g.arbiter) (time : Nat) (token : Option String) :
    Follows c (h ++ [⟨time, .authorize token, .authorized (g.authorize token).2⟩])
      (g.authorize token).1.arbiter := by
  unfold Gateway.authorize
  cases hr : g.arbiter.authorize g.clock.elapsed token with
  | error e => exact hf.keep rfl rfl rfl
  | ok a =>
    rw [Arbiter.authorize_eq] at hr
    split at hr
    · cases hr
    · next hne =>
      split at hr
      · next heq =>
        obtain rfl := Except.ok.inj hr
        refine hf.keep rfl ?_ rfl
        show some (token.getD "") = g.arbiter.token?
        rw [heq]
        cases token with
        | none => exact absurd rfl hne
        | some t => rfl
      · cases hr

/-- Every call keeps the arbiter and the transcript together. -/
theorem Follows.perform {c : Config} {h : List ControlEntry} {g : Gateway}
    (hf : Follows c h g.arbiter) (call : ControlCall) :
    Follows c (h ++ [⟨g.clock.elapsed, call, (call.perform g).2⟩]) (call.perform g).1.arbiter := by
  cases call with
  | take token => exact hf.take g.clock.elapsed token
  | release => exact hf.pass rfl fun t ht => by cases ht
  | expire => exact hf.expire g.clock.elapsed
  | authorize token => exact hf.authorize g.clock.elapsed token
  | status token => exact hf.keep rfl rfl rfl

theorem follows_of_history {c : Config} {h : List ControlEntry} {g : Gateway}
    (hist : History c h g) : Follows c h g.arbiter := by
  induction hist with
  | start clock => exact ⟨rfl, rfl, fun t ht => by cases ht⟩
  | call call _ ih => exact ih.perform call
  | meanwhile _ ha _ ih => rw [ha]; exact ih

/-! ## The law -/

/-- A refused call does nothing. -/
theorem perform_of_refusal {g : Gateway} {call : ControlCall} {e : GatewayError}
    (h : (call.perform g).2.refusal? = some e) : (call.perform g).1 = g := by
  cases call with
  | take token =>
    show (g.takeControl token).1 = g
    have hr : (ControlAnswer.taken (g.takeControl token).2).refusal? = some e := h
    unfold Gateway.takeControl at hr ⊢
    split at hr
    · rfl
    · cases hr
  | authorize token =>
    show (g.authorize token).1 = g
    have hr : (ControlAnswer.authorized (g.authorize token).2).refusal? = some e := h
    unfold Gateway.authorize at hr ⊢
    split at hr
    · rfl
    · cases hr
  | _ => cases h

/-- What a gateway answers to a request to write. -/
theorem authorize_answer (g : Gateway) (x : Option String) :
    (g.authorize x).2 =
      if x.getD "" = "" then .error (.control .missingToken)
      else if g.arbiter.token? = x then .ok () else .error (.control .notController) := by
  unfold Gateway.authorize
  rw [Arbiter.authorize_eq]
  by_cases hx : x.getD "" = ""
  · rw [if_pos hx, if_pos hx]
  · rw [if_neg hx, if_neg hx]
    by_cases ho : g.arbiter.token? = x
    · rw [if_pos ho, if_pos ho]
    · rw [if_neg ho, if_neg ho]

/-- At most one token may write: what a gateway says about control when `owner` is the owner. -/
structure SingleWriter (c : Config) (owner : Option String) (g : Gateway) : Prop where
  /-- The owner may write, and nobody else. -/
  authorized : ∀ x, (g.authorize x).2 = .ok () ↔ ∃ t, x = some t ∧ t ≠ "" ∧ owner = some t
  missing : ∀ x, (g.authorize x).2 = .error (.control .missingToken) ↔ x = none ∨ x = some ""
  refused : ∀ x, (g.authorize x).2 = .error (.control .notController) ↔
    ∃ t, x = some t ∧ t ≠ "" ∧ owner ≠ some t
  /-- Who would be allowed to write sees that. -/
  isController : ∀ x, (g.arbiter.status x).isController = true ↔ (g.authorize x).2 = .ok ()
  hasController : ∀ x, (g.arbiter.status x).hasController = owner.isSome
  /-- The owner's token is one that may take control. -/
  allowed : ∀ t, owner = some t → t ≠ "" ∧ (c.control.tokens = [] ∨ t ∈ c.control.tokens)
  /-- Refused calls change nothing, and so nobody is told anything. -/
  unchanged : ∀ call e, (ControlCall.perform g call).2.refusal? = some e →
    (ControlCall.perform g call).1 = g
  alone : ∀ t t', (g.authorize (some t)).2 = .ok () → (g.authorize (some t')).2 = .ok () → t = t'

/-- A request to write succeeds exactly for the token that holds control. Otherwise it names no
token, or one that does not hold control. -/
theorem authorize_spec (g : Gateway) (x : Option String) :
    ((g.authorize x).2 = .ok () ↔ ∃ t, x = some t ∧ t ≠ "" ∧ g.arbiter.token? = some t) ∧
      ((g.authorize x).2 = .error (.control .missingToken) ↔ x = none ∨ x = some "") ∧
      ((g.authorize x).2 = .error (.control .notController) ↔
        ∃ t, x = some t ∧ t ≠ "" ∧ g.arbiter.token? ≠ some t) := by
  rw [authorize_answer]
  cases x with
  | none => simp
  | some t =>
    by_cases ht : t = ""
    · simp [ht]
    · by_cases ho : g.arbiter.token? = some t
      · simp [ht, ho]
      · simp [ht, ho]

/-- **At most one token may write**, and who may is told by the transcript alone: after every
history of calls, under any settings, it is the owner. -/
theorem single_writer {c : Config} {h : List ControlEntry} {g : Gateway}
    (hist : History c h g) : SingleWriter c (owner h) g := by
  have hf : Follows c h g.arbiter := follows_of_history hist
  have howner : owner h = g.arbiter.token? := hf.owner.symm
  rw [howner]
  constructor
  case authorized => exact fun x => (authorize_spec g x).1
  case missing => exact fun x => (authorize_spec g x).2.1
  case refused => exact fun x => (authorize_spec g x).2.2
  case isController =>
    intro x
    rw [Arbiter.isController_iff, (authorize_spec g x).1]
    cases x with
    | none => simp
    | some t => simp
  case hasController =>
    intro x
    show g.arbiter.holder.isSome = (g.arbiter.holder.map (·.token)).isSome
    rw [Option.isSome_map]
  case allowed =>
    intro t ht
    obtain ⟨hne, hallowed⟩ := Arbiter.accepts_iff.mp (hf.accepted t ht)
    rw [hf.allowed] at hallowed
    refine ⟨hne, hallowed.imp ?_ SortedSet.mem_ofList.mp⟩
    -- the set of allowed tokens is empty only if the settings list none
    intro hempty
    apply List.eq_nil_iff_forall_not_mem.mpr
    intro token htoken
    exact SortedSet.isEmpty_iff.mp hempty token (SortedSet.mem_ofList.mpr htoken)
  case unchanged => exact fun call e he => perform_of_refusal he
  case alone =>
    intro t t' ht ht'
    obtain ⟨s, hs, -, hholds⟩ := (authorize_spec g _).1.mp ht
    obtain ⟨s', hs', -, hholds'⟩ := (authorize_spec g _).1.mp ht'
    cases hs
    cases hs'
    exact Option.some.inj (hholds.symm.trans hholds')

/-- Two operators ask for control, an hour apart; the first one was idle for too long. -/
theorem superseded_writer :
    let settings : Config := { control := { tokens := ["ann", "bob"], idleTimeoutSeconds := 60 } }
    let first := ((ControlCall.take "ann").perform (.new settings ⟨⟨0, 0⟩, 0⟩)).1
    let later : Gateway := { first with clock := ⟨⟨3600, 0⟩, 3600000⟩ }
    let second := ((ControlCall.take "bob").perform later).1
    (first.authorize (some "ann")).2 = .ok () ∧ (second.authorize (some "bob")).2 = .ok () ∧
      (second.authorize (some "ann")).2 = .error (.control .notController) := by
  intro settings first later second
  have started : History settings [] (.new settings ⟨⟨0, 0⟩, 0⟩) := .start _
  have taken := started.call (.take "ann")
  have waited : History settings _ later := taken.meanwhile rfl (Nat.zero_le _)
  have superseded := waited.call (.take "bob")
  refine ⟨?_, ?_, ?_⟩
  · exact ((single_writer taken).authorized (some "ann")).mpr ⟨"ann", rfl, by decide, by decide⟩
  · exact ((single_writer superseded).authorized (some "bob")).mpr
      ⟨"bob", rfl, by decide, by decide⟩
  · exact ((single_writer superseded).refused (some "ann")).mpr ⟨"ann", rfl, by decide, by decide⟩

end Control

end SensorGateway
