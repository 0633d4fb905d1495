/-
# SensorGateway.Proofs.Http.Writing -- who writes over HTTP

A value can be changed by one endpoint only, and only by whoever shows the token that holds
control at that moment. `only_the_controller_writes` says so of every sequence of requests, with
any methods, paths, queries, headers and bodies, and it says that a refused request to write is as
if it had never come: it is answered with an error, and the gateway is the same as before.

Between requests anything else may happen to the gateway (`Visit.meanwhile`): browsers read and go
away, closed sessions are cleaned up, control expires, adapters tell values, servers are checked,
and time passes. One request is handled after the other; two that overlap are not covered.

A request is `Request.IsSet` when the router takes it for a request to write, and it
`Request.Carries` a token as a header or, without such a header, in the query. That the handler
reads just this token is `carries_iff`.
-/
import SensorGateway.Http.Handler
import SensorGateway.Proofs.Gateway.Account
import SensorGateway.Proofs.General.Lists

namespace SensorGateway

namespace Http

/-! ## Requests to write -/

namespace Request

/-- A request to write, whatever the object and its family are called. -/
def IsSet (r : Request) : Prop :=
  r.method = .post ∧ ∃ name family, Endpoint.ofPath? r.path = some (.object name family .set)

/-- The control token of a request: the header without blanks around it, if it is readable and
anything is left, or else the token in the query. -/
inductive Carries (r : Request) : String → Prop
  | header {v : String} (readable : r.rawHeader? "x-control-token" = some v)
      (present : Text.trim v ≠ "") : Carries r (Text.trim v)
  | query {t : String}
      (absent : ∀ v, r.rawHeader? "x-control-token" = some v → Text.trim v = "")
      (field : r.form.get? "token" = .ok (some t)) : Carries r t

/-- A request carries the token that holds control. -/
def Controls (r : Request) (g : Gateway) : Prop :=
  ∃ t, r.Carries t ∧ t ≠ "" ∧ g.arbiter.token? = some t

end Request

theorem header?_eq_some_iff {r : Request} {name t : String} :
    r.header? name = some t ↔ ∃ v, r.rawHeader? name = some v ∧ Text.trim v = t ∧ t ≠ "" := by
  unfold Request.header?
  rw [Option.filter_eq_some_iff, Option.map_eq_some_iff]
  simp only [decide_eq_true_eq]
  constructor
  · rintro ⟨⟨v, hv, ht⟩, hne⟩
    exact ⟨v, hv, ht, hne⟩
  · rintro ⟨v, hv, ht, hne⟩
    exact ⟨⟨v, hv, ht⟩, hne⟩

theorem header?_eq_none_iff {r : Request} {name : String} :
    r.header? name = none ↔ ∀ v, r.rawHeader? name = some v → Text.trim v = "" := by
  rw [Option.eq_none_iff_forall_ne_some]
  constructor
  · intro h v hv
    by_cases hne : Text.trim v = ""
    · exact hne
    · exact absurd (header?_eq_some_iff.mpr ⟨v, hv, rfl, hne⟩) (h _)
  · intro h t ht
    obtain ⟨v, hv, rfl, hne⟩ := header?_eq_some_iff.mp ht
    exact hne (h v hv)

/-- The token in the query, when the query can be read. -/
theorem token_readQuery {r : Request} {q : Query} (h : readQuery r = .ok q) :
    r.form.get? "token" = .ok q.token := by
  have hform : Query.ofForm r.form = .ok q := by
    unfold readQuery at h
    split at h
    · next hq =>
      rw [hq, Except.ok.inj h]
    · cases h
  obtain ⟨session, -, hform⟩ := General.exists_of_bind_eq_ok hform
  obtain ⟨server, -, hform⟩ := General.exists_of_bind_eq_ok hform
  obtain ⟨token, htoken, hform⟩ := General.exists_of_bind_eq_ok hform
  obtain rfl := Except.ok.inj hform
  exact htoken

/-- The handler reads the token that the request carries. -/
theorem carries_iff {r : Request} {q : Query} (hq : readQuery r = .ok q) {t : String} :
    r.Carries t ↔ tokenOf r q = some t := by
  have hfield := token_readQuery hq
  unfold tokenOf
  cases hh : r.header? "x-control-token" with
  | none =>
    have habsent := header?_eq_none_iff.mp hh
    simp only [Option.orElse_eq_orElse, Option.orElse_eq_or, Option.none_or]
    constructor
    · rintro (⟨hv, hne⟩ | ⟨-, hf⟩)
      · exact absurd (habsent _ hv) hne
      · exact Except.ok.inj (hfield.symm.trans hf)
    · intro ht
      exact .query habsent (ht ▸ hfield)
  | some s =>
    obtain ⟨v, hv, rfl, hne⟩ := header?_eq_some_iff.mp hh
    simp only [Option.orElse_eq_orElse, Option.orElse_eq_or, Option.some_or, Option.some.injEq]
    constructor
    · rintro (⟨hv', -⟩ | ⟨habsent, -⟩)
      · rw [hv] at hv'
        rw [Option.some.inj hv']
      · exact absurd (habsent v hv) hne
    · rintro rfl
      exact .header hv hne

/-! ## Errors -/

/-- Whatever is not read is answered with an error. -/
def Complains {α : Type} (x : Except Response α) : Prop := ∀ a, x = .error a → 400 ≤ a.status

theorem Complains.ok {α : Type} (a : α) : Complains (.ok a) := by
  intro r h
  cases h

theorem Complains.error {α : Type} {a : Response} (h : 400 ≤ a.status) :
    Complains (.error a : Except Response α) := by
  rintro _ ⟨⟩
  exact h

theorem Complains.bind {α β : Type} {x : Except Response α} {f : α → Except Response β}
    (hx : Complains x) (hf : ∀ a, Complains (f a)) : Complains (x >>= f) := by
  cases x with
  | error e => exact .error (hx e rfl)
  | ok a => exact hf a

theorem complains_readPart (s : String) : Complains (readPart s) := by
  unfold readPart
  split
  · exact .ok _
  · exact .error (by decide)

theorem complains_readQuery (r : Request) : Complains (readQuery r) := by
  unfold readQuery
  split
  · exact .ok _
  · exact .error (by decide)

theorem complains_readBody (α : Type) [Json.Wire α] (r : Request) : Complains (readBody α r) := by
  unfold readBody
  split
  · exact .error (by decide)
  · split
    · exact .ok _
    · exact .error (by decide)
    · exact .error (by decide)

theorem ApiError.le_status (e : ApiError) : 400 ≤ e.response.status := by
  have hcontrol (e : ControlError) : 400 ≤ controlStatus e := by cases e <;> decide
  have hadapter (e : AdapterError) : 400 ≤ adapterStatus e := by cases e <;> simp [adapterStatus]
  show 400 ≤ e.status
  cases e with
  | gateway e =>
    cases e with
    | control e => exact hcontrol e
    | adapter e => exact hadapter e
    | bus e => simp [status]
    | noAdapter server p => simp [status]
  | badRequest m => simp [status]
  | notFound what => simp [status]

theorem complains_readFamily (s : String) : Complains (readFamily s) := by
  unfold readFamily
  split
  · exact .ok _
  · exact .error (ApiError.le_status _)

theorem complains_readServer (g : Gateway) (q : Query) : Complains (readServer g q) := by
  unfold readServer
  split
  · split
    · exact .ok _
    · exact .error (ApiError.le_status _)
  · split
    · exact .ok _
    · exact .error (ApiError.le_status _)

theorem complains_readSet (g : Gateway) (r : Request) (name family : String) :
    Complains (readSet g r name family) :=
  .bind (complains_readPart name) fun _ => .bind (complains_readPart family) fun _ =>
    .bind (complains_readQuery r) fun q => .bind (complains_readBody SetRequest r) fun _ =>
      .bind (complains_readFamily _) fun _ =>
        .bind (.bind (complains_readServer g q) fun _ => .ok _) fun _ => .ok _

/-- A request to write is read with the token that it carries. -/
theorem token_readSet {g : Gateway} {r : Request} {name family : String} {c : SetCall}
    (h : readSet g r name family = .ok c) {t : String} : r.Carries t ↔ c.token = some t := by
  unfold readSet at h
  obtain ⟨object, -, h⟩ := General.exists_of_bind_eq_ok h
  obtain ⟨part, -, h⟩ := General.exists_of_bind_eq_ok h
  obtain ⟨q, hq, h⟩ := General.exists_of_bind_eq_ok h
  obtain ⟨request, -, h⟩ := General.exists_of_bind_eq_ok h
  obtain ⟨protocol, -, h⟩ := General.exists_of_bind_eq_ok h
  obtain ⟨topic, -, h⟩ := General.exists_of_bind_eq_ok h
  obtain rfl := Except.ok.inj h
  exact carries_iff hq

/-! ## Handling one request -/

theorem handle_of_isSet (g : Gateway) (id : SessionId) {r : Request} (h : r.IsSet) :
    ∃ name family, handle g id r = set g r name family := by
  obtain ⟨hmethod, name, family, hpath⟩ := h
  refine ⟨name, family, ?_⟩
  simp [handle, hmethod, hpath, Endpoint.isRead, run]

/-- A write without the token that holds control is refused, and nothing happens. -/
theorem setValue_of_not_token {g : Gateway} {token : Option String}
    (h : ¬ ∃ t, token = some t ∧ t ≠ "" ∧ g.arbiter.token? = some t) (t : Topic) (p : Protocol)
    (k : SensorKey) (v : SensorValue) :
    ∃ e, g.setValue token t p k v = (g, .error (.control e)) := by
  have hrefused : ∃ e, g.arbiter.authorize g.clock.elapsed token = .error e := by
    rw [Arbiter.authorize_eq]
    split
    · exact ⟨_, rfl⟩
    · next hne =>
      split
      · next htoken =>
        cases token with
        | none => exact absurd rfl hne
        | some s => exact absurd ⟨s, rfl, hne, htoken⟩ h
      · exact ⟨_, rfl⟩
  obtain ⟨e, he⟩ := hrefused
  exact ⟨e, by simp only [Gateway.setValue, Gateway.authorize, he]⟩

/-- A request to write that does not carry the token that holds control is answered with an error,
and the gateway stays as it is. -/
theorem handle_of_not_controls {g : Gateway} (id : SessionId) {r : Request} (hset : r.IsSet)
    (h : ¬ r.Controls g) :
    (handle g id r).1 = g ∧ 400 ≤ (handle g id r).2.status := by
  obtain ⟨name, family, hhandle⟩ := handle_of_isSet g id hset
  rw [hhandle, set]
  cases hread : readSet g r name family with
  | error answer => exact ⟨rfl, complains_readSet g r name family answer hread⟩
  | ok c =>
    have htoken : ¬ ∃ t, c.token = some t ∧ t ≠ "" ∧ g.arbiter.token? = some t := by
      rintro ⟨t, ht, hrest⟩
      exact h ⟨t, (token_readSet hread).mpr ht, hrest⟩
    obtain ⟨e, he⟩ :=
      setValue_of_not_token htoken c.topic c.protocol c.request.key c.request.value
    simp only [he]
    exact ⟨trivial, ApiError.le_status _⟩

section

variable {P : Gateway → Prop} {g : Gateway}

/-- A client that goes away does not write. -/
theorem quiet_closeStream (hP : QuietInductive P) (h : P g) (id : SessionId) :
    P (closeStream g id) := by
  have hclosed : P ({ g with bus := (g.bus.hangUp id).1 }.closeSession id).1 :=
    hP.rest h rfl rfl rfl
  exact hP.releaseTopics hclosed _

/-- No endpoint writes but the one for that. -/
theorem quiet_run (hP : QuietInductive P) (h : P g) (id : SessionId) (r : Request) {e : Endpoint}
    (he : ∀ name family, e ≠ .object name family .set) : P (run g id r e).1 := by
  cases e with
  | object name family action =>
    cases action with
    | subscribe =>
      show P (subscribe g r name family).1
      unfold subscribe
      split
      · exact h
      · exact hP.subscribe h _ _ _ _
    | unsubscribe =>
      show P (unsubscribe g r name family).1
      unfold unsubscribe
      split
      · exact h
      · exact hP.unsubscribe h _ _ _
    | set => exact absurd rfl (he name family)
  | takeControl =>
    show P (takeControl g r).1
    unfold takeControl
    split
    · exact h
    · exact hP.takeControl h _
  | startRecording => exact hP.startRecording h
  | stopRecording => exact hP.stopRecording h
  | events => exact hP.rest h rfl rfl rfl
  | releaseControl => exact hP.rest h rfl rfl rfl
  | clearRecording => exact hP.rest h rfl rfl rfl
  | _ => exact h

/-- What all calls but writes keep is kept by every request but one to write. -/
theorem quiet_handle (hP : QuietInductive P) (h : P g) (id : SessionId) {r : Request}
    (hr : ¬ r.IsSet) : P (handle g id r).1 := by
  unfold handle
  split
  · exact h
  · cases hpath : Endpoint.ofPath? r.path with
    | none => exact h
    | some e =>
      by_cases hhead : e.isRead = true ∧ r.method = .head
      · -- what can be read is not the endpoint for writing
        have hrun : P (run g id r e).1 := quiet_run hP h id r fun name family heq => by
          rw [heq] at hhead
          cases hhead.1
        dsimp only
        rw [if_pos hhead]
        show P (if e = .events then closeStream (run g id r e).1 id else (run g id r e).1)
        split
        · exact quiet_closeStream hP hrun id
        · exact hrun
      · dsimp only
        rw [if_neg hhead]
        by_cases hmethod : r.method = (if e.isRead then .get else .post)
        · rw [if_pos hmethod]
          refine quiet_run hP h id r fun name family heq => hr ⟨?_, name, family, heq ▸ hpath⟩
          rw [heq] at hmethod
          exact hmethod
        · rw [if_neg hmethod]
          exact h

/-- Only a request to write that carries the token that holds control can write. -/
theorem unwritten_handle (id : SessionId) {r : Request} (hr : ¬ (r.IsSet ∧ r.Controls g)) :
    g.Unwritten (handle g id r).1 := by
  by_cases hset : r.IsSet
  · rw [(handle_of_not_controls id hset fun hcontrols => hr ⟨hset, hcontrols⟩).1]
    exact .refl g
  · exact quiet_handle (Gateway.quietInductive_unwritten g) (.refl g) id hset

end

/-! ## A server in use -/

/-- Something that happens to a gateway behind the router. -/
inductive Visit where
  /-- A request comes. An event stream gets the identifier `id`. -/
  | request (id : SessionId) (r : Request)
  /-- Something else happens, which is not a write. -/
  | meanwhile (i : Interaction) (quiet : i.isWrite = false)

namespace Visit

/-- An answer to a request, or to somebody else. -/
inductive Answer where
  | response (a : Response)
  | other (a : Interaction.Answer)

/-- The status of an answer to a request. -/
def Answer.status? : Answer → Option Nat
  | .response a => some a.status
  | .other _ => none

/-- What comes of a visit. -/
def perform (g : Gateway) : Visit → Gateway × Answer
  | .request id r => ((handle g id r).1, .response (handle g id r).2)
  | .meanwhile i _ => ((i.perform g).1, .other (i.perform g).2)

/-- The gateway after some visits, one after the other. -/
def after (g : Gateway) (vs : List Visit) : Gateway := vs.foldl (fun g v => (v.perform g).1) g

/-- The answers to some visits. -/
def answers (g : Gateway) : List Visit → List Answer
  | [] => []
  | v :: vs => (v.perform g).2 :: answers (v.perform g).1 vs

theorem after_append (g : Gateway) (vs vs' : List Visit) :
    after g (vs ++ vs') = after (after g vs) vs' :=
  List.foldl_append

theorem answers_append (g : Gateway) (vs vs' : List Visit) :
    answers g (vs ++ vs') = answers g vs ++ answers (after g vs) vs' := by
  induction vs generalizing g with
  | nil => rfl
  | cons v vs ih => exact congrArg _ (ih (v.perform g).1)

/-- A visit writes only when it is a request to write that carries the token that holds control. -/
theorem unwritten_perform {g : Gateway} {v : Visit}
    (h : ∀ id r, v = .request id r → ¬ (r.IsSet ∧ r.Controls g)) :
    g.Unwritten (v.perform g).1 := by
  have hquiet := Gateway.quietInductive_unwritten g
  cases v with
  | request id r => exact unwritten_handle id (h id r rfl)
  | meanwhile i quiet =>
    cases i with
    | op o => exact hquiet.act (.refl g) quiet
    | locked c => exact hquiet.rest (.refl g) rfl rfl rfl
    | check server connected error => exact hquiet.rest (.refl g) rfl rfl rfl

end Visit

/-- **Over HTTP only the controller writes.** Take any gateway and any visits, and look at one of
them. If a value changes there, or an adapter is asked to write, it is a request to write that
carries a token, and this token is not empty and holds control at that moment. And a request to
write without such a token is answered with an error and leaves everything as it is, so the
answers to all other visits are what they are without it. -/
theorem only_the_controller_writes (g : Gateway) (before after : List Visit) (v : Visit) :
    let now := Visit.after g before
    (¬ now.Unwritten (v.perform now).1 →
      ∃ id r, v = .request id r ∧ r.IsSet ∧ r.Controls now) ∧
    (∀ id r, v = .request id r → r.IsSet → ¬ r.Controls now →
      ∃ a, v.perform now = (now, .response a) ∧ 400 ≤ a.status ∧
        Visit.answers g (before ++ v :: after) =
          Visit.answers g before ++ .response a :: Visit.answers now after ∧
        Visit.answers g (before ++ after) =
          Visit.answers g before ++ Visit.answers now after ∧
        Visit.after g (before ++ v :: after) = Visit.after g (before ++ after)) := by
  intro now
  constructor
  · intro hwritten
    refine Classical.byContradiction fun hnone => ?_
    refine hwritten (Visit.unwritten_perform fun id r hv hcontrols => ?_)
    exact hnone ⟨id, r, hv, hcontrols⟩
  · rintro id r rfl hset hcontrols
    obtain ⟨hsame, hstatus⟩ := handle_of_not_controls id hset hcontrols
    have hperform : (Visit.request id r).perform now = (now, .response (handle now id r).2) :=
      Prod.ext hsame rfl
    refine ⟨(handle now id r).2, hperform, hstatus, ?_, Visit.answers_append g before after, ?_⟩
    · rw [Visit.answers_append]
      show _ ++ ((Visit.request id r).perform now).2 ::
        Visit.answers ((Visit.request id r).perform now).1 after = _
      rw [hperform]
    · rw [Visit.after_append, Visit.after_append]
      show Visit.after ((Visit.request id r).perform now).1 after = _
      rw [hperform]

/-- One server with one pump. Everybody may take control. -/
def pumpHouse : Gateway :=
  .assemble
    { servers := [{
        id := some "plant"
        url := "http://plant"
        loopback := [⟨"pump", .modbus, [⟨some 4, "speed", .int 1⟩]⟩] }] }
    ⟨⟨0, 0⟩, 0⟩ []

/-- A request to run the pump at a speed of one digit. -/
def pumping (digit : UInt8) (query : String) (headers : List (String × String)) : Visit :=
  .request ⟨0⟩
    { method := .post
      path := "/api/objects/pump/modbus/set"
      query
      headers := ("Content-Type", "application/json") :: headers
      body := ("\x7b\"sensor_id\":4,\"value\":".toList.map fun c => UInt8.ofNat c.toNat) ++
        [48 + digit, 125] }

/-- The captain takes control. -/
def boarding : Visit := .request ⟨0⟩ ⟨.post, "/api/control/take", "token=captain", [], []⟩

/-- The captain writes, with a token in the header that counts more than the one in the query. -/
def steering : Visit := pumping 5 "token=mate" [("X-Control-Token", " captain ")]

/-- The mate writes, too. -/
def meddling : Visit := pumping 6 "token=mate" []

/-- Requests without a token, with a blank header and the captain's token in the query, and with a
header in front of the captain's token. -/
def sailing : List Visit :=
  [pumping 7 "" [], pumping 8 "token=captain" [("X-Control-Token", "  ")],
    pumping 9 "token=captain" [("X-Control-Token", "mate")]]

/-- The captain's request writes, so it carries the token that holds control. The mate's is refused,
and all others are answered as if it had not come. -/
theorem mate_refused :
    let free := Visit.after pumpHouse [boarding]
    let steered := Visit.after pumpHouse [boarding, steering]
    (Visit.answers pumpHouse (boarding :: steering :: meddling :: sailing)).map (·.status?) =
        [some 200, some 200, some 403, some 401, some 200, some 403] ∧
      ¬ free.Unwritten (steering.perform free).1 ∧
      (∃ id r, steering = .request id r ∧ r.IsSet ∧ r.Controls free) ∧
      ∃ a, meddling.perform steered = (steered, .response a) ∧ 400 ≤ a.status ∧
        Visit.answers pumpHouse ([boarding, steering] ++ meddling :: sailing) =
          Visit.answers pumpHouse [boarding, steering] ++
            .response a :: Visit.answers steered sailing ∧
        Visit.answers pumpHouse ([boarding, steering] ++ sailing) =
          Visit.answers pumpHouse [boarding, steering] ++ Visit.answers steered sailing ∧
        Visit.after pumpHouse ([boarding, steering] ++ meddling :: sailing) =
          Visit.after pumpHouse ([boarding, steering] ++ sailing) := by
  intro free steered
  have hwritten : ¬ free.Unwritten (steering.perform free).1 := fun h =>
    absurd (h.sensors 0 "pump") (by decide +kernel)
  have hsteering := only_the_controller_writes pumpHouse [boarding] [] steering
  have hmeddling := only_the_controller_writes pumpHouse [boarding, steering] sailing meddling
  refine ⟨by decide +kernel, hwritten, hsteering.1 hwritten, ?_⟩
  refine hmeddling.2 _ _ rfl ⟨rfl, "pump", "modbus", by decide +kernel⟩ ?_
  rintro ⟨t, ht, -, hholds⟩
  have hcaptain : t = "captain" := Option.some.inj (hholds.symm.trans (by decide +kernel))
  -- the mate's request has no header, and another token in its query
  cases ht with
  | query _ field =>
    rw [hcaptain] at field
    exact absurd field (by decide +kernel)
  | header readable _ =>
    refine absurd (readable.symm.trans ?_) (Option.some_ne_none _)
    decide +kernel

end Http

end SensorGateway
