/-
# SensorGateway.Proofs.Bus.Place -- one session among the others

What an operation makes of one session depends on that session and on what the operation has
to do with it, and on nothing else: not on who else is registered, asks, reads, is full or
goes away. A `Move` is what an operation has to do with one session, `Place.act` is what a
session makes of it alone, and `Bus.place_act` says that the bus does the same to it.

Identifiers are never used twice; that is what keeps the sessions apart.
-/
import SensorGateway.Proofs.Bus.Run

namespace SensorGateway

/-! ## One session alone -/

/-- What an operation has to do with one session. -/
inductive Move where
  | register
  /-- It asks for something else on a topic, or for nothing. -/
  | ask (t : Topic) (i : Option Interest)
  | close
  | publish (b : Batch) (pulled : Nat)
  | broadcast (e : Event) (pulled : Nat)
  | read (max : Nat)
  | hangUp

/-- What an operation has to do with a session, if anything. -/
def BusOp.toward (id : SessionId) : BusOp → Option Move
  | .register id' => if id' = id then some .register else none
  | .subscribe id' t p keys =>
    if id' = id then some (.ask t (if keys.isEmpty then none else some ⟨p, keys⟩)) else none
  | .unsubscribe id' t => if id' = id then some (.ask t none) else none
  | .restore id' t previous => if id' = id then some (.ask t previous) else none
  | .close id' => if id' = id then some .close else none
  | .publish b pulls => some (.publish b (pulls id))
  | .broadcast e pulls => some (.broadcast e (pulls id))
  | .receive id' max => if id' = id then some (.read max) else none
  | .hangUp id' => if id' = id then some .hangUp else none

namespace Session

/-- Where a session is after it was told something. -/
def Outcome.place : Outcome → Place
  | .untold s => .registered s
  | .delivered s => .registered s
  | .evicted s _ => .departed s

/-- A session whose browser has read, if it still reads. -/
def reading (max : Nat) (s : Session) : Session :=
  if s.channel.isOpen then { s with channel := (s.channel.read max).2 } else s

/-- What the browser of a session reads, if it still reads. -/
def readBy (max : Nat) (s : Session) : List Event :=
  if s.channel.isOpen then (s.channel.read max).1 else []

/-- A session whose browser is gone. -/
def hungUp (s : Session) : Session := { s with channel := s.channel.close }

/-- Where a session is after it was told something while its browser read. -/
def told (capacity count : Nat) (e : Option Event) (s : Session) : Place :=
  ((s.relieved capacity count e).tell capacity e).place

end Session

namespace Place

/-- What becomes of a registered session; others stay where they are. -/
def onRegistered (f : Session → Place) : Place → Place
  | .registered s => f s
  | x => x

/-- What becomes of a session, registered or gone. -/
def onSession (f : Session → Session) : Place → Place
  | .nowhere => .nowhere
  | .registered s => .registered (f s)
  | .departed s => .departed (f s)

/-- What a session makes of a move. -/
def act (capacity : Nat) (id : SessionId) (x : Place) : Move → Place
  | .register => .registered (.new id)
  | .ask t i => x.onRegistered fun s => .registered (s.setSubscription t i)
  | .close => x.onRegistered .departed
  | .publish b count => x.onRegistered fun s => s.told capacity count (s.share b)
  | .broadcast e count => x.onRegistered fun s => s.told capacity count (some e)
  | .read max => x.onSession (·.reading max)
  | .hangUp => x.onSession (·.hungUp)

/-- What leaves the channel of a session by a move. -/
def takes (capacity : Nat) (x : Place) : Move → List Event
  | .publish b count =>
    match x with
    | .registered s => s.pulled capacity count (s.share b)
    | _ => []
  | .broadcast e count =>
    match x with
    | .registered s => s.pulled capacity count (some e)
    | _ => []
  | .read max =>
    match x with
    | .nowhere => []
    | .registered s => s.readBy max
    | .departed s => s.readBy max
  | .hangUp => x.waiting
  | _ => []

end Place

/-! ## Looking sessions up -/

namespace Session

variable {l : List Session} {id : SessionId}

theorem find?_eq_none_iff : l.find? (·.id = id) = none ↔ id ∉ l.map (·.id) := by
  simp [List.find?_eq_none]

theorem id_of_find? {s : Session} (h : l.find? (·.id = id) = some s) : s.id = id := by
  simpa using List.find?_some h

theorem find?_map {f : Session → Session} (hf : ∀ s, (f s).id = s.id) (l : List Session)
    (id : SessionId) : (l.map f).find? (·.id = id) = (l.find? (·.id = id)).map f := by
  rw [List.find?_map]
  show Option.map f (l.find? fun s => (f s).id = id) = _
  simp only [hf]

/-- Where identifiers are used once, a session is found by what becomes of it. -/
theorem find?_filterMap {f : Session → Option Session} (hf : ∀ s s', f s = some s' → s'.id = s.id)
    (hnd : (l.map (·.id)).Nodup) (id : SessionId) :
    (l.filterMap f).find? (·.id = id) = (l.find? (·.id = id)).bind f := by
  induction l with
  | nil => rfl
  | cons s rest ih =>
    rw [List.map_cons, List.nodup_cons] at hnd
    have ih := ih hnd.2
    by_cases hs : s.id = id
    · rw [List.find?_cons_of_pos (by simpa using hs), Option.bind_some]
      cases hfs : f s with
      | none =>
        -- nobody else has the identifier
        have hrest : rest.find? (·.id = id) = none := find?_eq_none_iff.mpr (hs ▸ hnd.1)
        rw [List.filterMap_cons_none hfs, ih, hrest]
        rfl
      | some s' =>
        rw [List.filterMap_cons_some hfs, List.find?_cons_of_pos]
        simpa using (hf s s' hfs).trans hs
    · rw [List.find?_cons_of_neg (by simpa using hs)]
      cases hfs : f s with
      | none => rw [List.filterMap_cons_none hfs, ih]
      | some s' =>
        rw [List.filterMap_cons_some hfs, List.find?_cons_of_neg, ih]
        simpa [hf s s' hfs] using hs

theorem find?_filter_ne {id' : SessionId} :
    (l.filter (·.id ≠ id')).find? (·.id = id) =
      if id = id' then none else l.find? (·.id = id) := by
  rw [List.find?_filter]
  split
  · next h =>
    subst h
    simp
  · next h =>
    congr 1
    funext s
    by_cases hs : s.id = id <;> simp [hs, h]

/-- Where identifiers are used once, a browser that still reads is found by its session. -/
theorem find?_isListening (hnd : (l.map (·.id)).Nodup) (id : SessionId) :
    l.find? (Bus.isListening id) = (l.find? (·.id = id)).filter (·.channel.isOpen) := by
  induction l with
  | nil => rfl
  | cons s rest ih =>
    rw [List.map_cons, List.nodup_cons] at hnd
    have ih := ih hnd.2
    by_cases hs : s.id = id
    · have hrest : rest.find? (·.id = id) = none := find?_eq_none_iff.mpr (hs ▸ hnd.1)
      have hfind : (s :: rest).find? (·.id = id) = some s :=
        List.find?_cons_of_pos (by simpa using hs)
      rw [hfind]
      cases ho : s.channel.isOpen with
      | true =>
        rw [List.find?_cons_of_pos (by simp [Bus.isListening, hs, ho]), Option.filter_some, if_pos ho]
      | false =>
        -- its browser is gone, and the search goes on in vain
        rw [List.find?_cons_of_neg (by simp [Bus.isListening, ho]), ih, hrest, Option.filter_some,
          if_neg (by simp [ho])]
        rfl
    · rw [List.find?_cons_of_neg (by simp [Bus.isListening, hs]), ih,
        List.find?_cons_of_neg (by simpa using hs)]

end Session

namespace Bus

/-! ## Where an operation leaves a session -/

variable {b b' : Bus} {id id' : SessionId}

theorem Distinct.nodup_departed (hd : b.Distinct) : (b.departed.map (·.id)).Nodup := by
  unfold Distinct ids at hd
  rw [List.map_append, List.nodup_append, goneTable, List.map_map] at hd
  exact hd.2.1

/-- A registered session is not gone. -/
theorem Distinct.gone?_eq_none (hd : b.Distinct) {s : Session} (h : b.find? id = some s) :
    b.gone? id = none := by
  obtain ⟨hs, rfl⟩ := mem_of_find? h
  apply Session.find?_eq_none_iff.mpr
  have hgone := hd.not_gone (List.mem_map_of_mem (f := Session.entry) hs)
  rwa [goneTable, List.map_map] at hgone

theorem place_of_find? {s : Session} (h : b.find? id = some s) : b.place id = .registered s := by
  unfold place
  rw [h]
  rfl

theorem place_of_gone? {s : Session} (h : b.find? id = none) (hgone : b.gone? id = some s) :
    b.place id = .departed s := by
  unfold place
  rw [h, hgone]
  rfl

theorem place_of_none (h : b.find? id = none) (hgone : b.gone? id = none) :
    b.place id = .nowhere := by
  unfold place
  rw [h, hgone]
  rfl

theorem isRegistered_iff_place : b.isRegistered id = true ↔ ∃ s, b.place id = .registered s := by
  unfold isRegistered place
  cases b.find? id <;> cases b.gone? id <;> simp [Place.of]

theorem place_modify {f : Session → Session} (hf : ∀ s, (f s).id = s.id) (id' : SessionId) :
    (b.modify id' f).place id =
      if id' = id then (b.place id).onRegistered fun s => .registered (f s) else b.place id := by
  have hfind : (b.modify id' f).find? id =
      (b.find? id).map fun s => if s.id = id' then f s else s := by
    apply Session.find?_map
    intro s
    split <;> simp [hf]
  have hgone : (b.modify id' f).gone? id = b.gone? id := rfl
  unfold place
  rw [hfind, hgone]
  cases hs : b.find? id with
  | none => cases b.gone? id <;> simp [Place.of, Place.onRegistered]
  | some s =>
    obtain rfl := Session.id_of_find? hs
    by_cases h : id' = s.id
    · simp [h, Place.of, Place.onRegistered]
    · simp [h, Ne.symm h, Place.of]

/-- A session that is not registered is not changed. -/
theorem modify_of_not_registered (h : b.isRegistered id = false) (f : Session → Session) :
    b.modify id f = b := by
  have hnobody : ∀ s ∈ b.sessions, s.id ≠ id := by
    intro s hs hid
    rw [isRegistered_iff.mpr ⟨s, hs, hid⟩] at h
    cases h
  have hsame : b.sessions.map (fun s => if s.id = id then f s else s) = b.sessions := by
    rw [List.map_congr_left fun s hs => if_neg (hnobody s hs), List.map_id']
  show { b with sessions := b.sessions.map fun s => if s.id = id then f s else s } = b
  rw [hsame]

/-- A session that is not known cannot ask for anything; nothing happens. -/
theorem unlessRefused_restore (b : Bus) (id : SessionId) (t : Topic) (i : Option Interest) :
    BusOp.unlessRefused b (b.restore id t i) = b.modify id (·.setSubscription t i) := by
  unfold restore
  split
  · rfl
  · next h => exact (modify_of_not_registered (Bool.eq_false_iff.mpr h) _).symm

/-- Asking for keys is being given an interest in them, and being given none for no keys. -/
theorem map_subscribe (b : Bus) (id : SessionId) (t : Topic) (p : Protocol) (keys : KeySet) :
    (b.subscribe id t p keys).map (·.1) =
      b.restore id t (if keys.isEmpty then none else some ⟨p, keys⟩) := by
  simp only [subscribe]
  cases b.restore id t (if keys.isEmpty then none else some ⟨p, keys⟩) <;> rfl

theorem place_ask (b : Bus) (id id' : SessionId) (t : Topic) (i : Option Interest) :
    (BusOp.unlessRefused b (b.restore id' t i)).place id =
      if id' = id then
        (b.place id).onRegistered fun s => .registered (s.setSubscription t i)
      else b.place id := by
  rw [unlessRefused_restore]
  exact place_modify (fun _ => id_setSubscription) id'

theorem place_register (b : Bus) (id id' : SessionId) :
    (b.register id').place id = if id' = id then .registered (.new id) else b.place id := by
  have hfind : (b.register id').find? id =
      (if id = id' then none else b.find? id).or (if id' = id then some (.new id') else none) := by
    show (b.sessions.filter (·.id ≠ id') ++ [Session.new id']).find? (·.id = id) = _
    rw [List.find?_append, Session.find?_filter_ne, List.find?_singleton]
    by_cases h : id' = id <;> simp [find?, Session.new, h]
  have hgone : (b.register id').gone? id = b.gone? id := rfl
  unfold place
  rw [hfind, hgone]
  by_cases h : id' = id
  · simp [h, Place.of]
  · simp [h, Ne.symm h]

theorem place_close (hd : b.Distinct) (id' : SessionId) :
    (b.close id').1.place id =
      if id' = id then (b.place id).onRegistered .departed else b.place id := by
  unfold close
  cases hs : b.find? id' with
  | none =>
    by_cases h : id' = id
    · subst h
      simp only [if_true]
      unfold place
      rw [hs]
      cases b.gone? id' <;> rfl
    · rw [if_neg h]
  | some s =>
    have hsid : s.id = id' := Session.id_of_find? hs
    have hfind : (b.sessions.filter (·.id ≠ id')).find? (·.id = id) =
        if id = id' then none else b.find? id := Session.find?_filter_ne
    have hgone : (b.departed ++ [s]).find? (·.id = id) =
        (b.gone? id).or (if id' = id then some s else none) := by
      rw [List.find?_append, List.find?_singleton, hsid]
      simp [gone?]
    show Place.of ((b.sessions.filter (·.id ≠ id')).find? (·.id = id))
      ((b.departed ++ [s]).find? (·.id = id)) = _
    rw [hfind, hgone]
    by_cases h : id' = id
    · -- it was registered, so nobody with its identifier was gone before
      subst h
      rw [hd.gone?_eq_none hs, place_of_find? hs]
      simp [Place.of, Place.onRegistered]
    · simp [h, Ne.symm h, place]

/-! ## Telling sessions -/

theorem place_relieve (b : Bus) (pulls : Pulls) (news : Session → Option Event) :
    (b.relieve pulls news).place id =
      (b.place id).onRegistered fun s =>
        .registered (s.relieved b.capacity (pulls id) (news s)) := by
  have hfind : (b.relieve pulls news).find? id =
      (b.find? id).map fun s => s.relieved b.capacity (pulls s.id) (news s) :=
    Session.find?_map (fun s => Session.id_relieved _ _ _ s) b.sessions id
  have hgone : (b.relieve pulls news).gone? id = b.gone? id := rfl
  unfold place
  rw [hfind, hgone]
  cases hs : b.find? id with
  | none => cases b.gone? id <;> rfl
  | some s =>
    obtain rfl := Session.id_of_find? hs
    rfl

theorem id_of_kept? {capacity : Nat} {e : Option Event} {s s' : Session}
    (h : (s.tell capacity e).kept? = some s') : s'.id = s.id := by
  rcases kept_or_evicted capacity e s with ⟨r, hr, -, hentry⟩ | ⟨hnone, -⟩
  · obtain rfl := Option.some.inj (hr.symm.trans h)
    exact congrArg Prod.fst hentry
  · rw [hnone] at h
    cases h

theorem id_of_evicted? {capacity : Nat} {e : Option Event} {s s' : Session}
    (h : (s.tell capacity e).evicted? = some s') : s'.id = s.id := by
  rcases kept_or_evicted capacity e s with ⟨-, -, hnone, -⟩ | ⟨-, hs⟩
  · rw [hnone] at h
    cases h
  · rw [Option.some.inj (hs.symm.trans h)]

theorem find?_deliver (hd : b.Distinct) (news : Session → Option Event) (id : SessionId) :
    (b.deliver news).1.find? id =
      (b.find? id).bind fun s => (s.tell b.capacity (news s)).kept? := by
  show ((b.sessions.map _).filterMap Session.Outcome.kept?).find? (·.id = id) = _
  rw [List.filterMap_map]
  exact Session.find?_filterMap (fun _ _ => id_of_kept?) hd.nodup_sessions id

/-- Each session is told by itself. -/
theorem place_deliver (hd : b.Distinct) (news : Session → Option Event) (id : SessionId) :
    (b.deliver news).1.place id =
      (b.place id).onRegistered fun s => (s.tell b.capacity (news s)).place := by
  have hfind := find?_deliver hd news id
  have hgone : (b.deliver news).1.gone? id = (b.gone? id).or
      ((b.find? id).bind fun s => (s.tell b.capacity (news s)).evicted?) := by
    show (b.departed ++ (b.sessions.map _).filterMap Session.Outcome.evicted?).find?
      (·.id = id) = _
    rw [List.find?_append, List.filterMap_map]
    congr 1
    exact Session.find?_filterMap (fun _ _ => id_of_evicted?) hd.nodup_sessions id
  unfold place
  rw [hfind, hgone]
  cases hs : b.find? id with
  | none => cases b.gone? id <;> rfl
  | some s =>
    -- the session is kept or evicted, and found on just one of the two lists
    rw [hd.gone?_eq_none hs]
    simp only [Option.bind_some, Option.none_or, Place.onRegistered, Place.of]
    cases s.tell b.capacity (news s) <;> rfl

theorem distinct_relieve (hd : b.Distinct) (pulls : Pulls) (news : Session → Option Event) :
    (b.relieve pulls news).Distinct :=
  distinct_of_thins (thins_relieve b pulls news) hd

theorem share_relieved (capacity count : Nat) (e : Option Event) (batch : Batch) (s : Session) :
    (s.relieved capacity count e).share batch = s.share batch := by
  unfold Session.relieved
  split <;> rfl

theorem place_publishWhile (hd : b.Distinct) (pulls : Pulls) (batch : Batch) :
    (b.publishWhile pulls batch).1.place id =
      (b.place id).onRegistered fun s => s.told b.capacity (pulls id) (s.share batch) := by
  have h := place_deliver (distinct_relieve hd pulls (·.share batch)) (·.share batch) id
  rw [place_relieve] at h
  refine h.trans ?_
  cases b.place id with
  | registered s => simp only [Place.onRegistered, share_relieved]; rfl
  | _ => rfl

theorem place_broadcastWhile (hd : b.Distinct) (pulls : Pulls) (e : Event) :
    (b.broadcastWhile pulls e).1.place id =
      (b.place id).onRegistered fun s => s.told b.capacity (pulls id) (some e) := by
  have h := place_deliver (distinct_relieve hd pulls fun _ => some e) (fun _ => some e) id
  rw [place_relieve] at h
  refine h.trans ?_
  cases b.place id <;> rfl

/-! ## Browsers -/

theorem find?_setChannel (id' : SessionId) (c : Channel) (l : List Session) (id : SessionId) :
    (setChannel id' c l).find? (·.id = id) =
      (l.find? (·.id = id)).map fun s => if s.id = id' then { s with channel := c } else s := by
  apply Session.find?_map
  intro s
  split <;> rfl

theorem find?_setChannel_ne (h : id' ≠ id) (c : Channel) (l : List Session) :
    (setChannel id' c l).find? (·.id = id) = l.find? (·.id = id) := by
  rw [find?_setChannel]
  cases hs : l.find? (·.id = id) with
  | none => rfl
  | some s =>
    rw [Option.map_some, if_neg]
    rw [Session.id_of_find? hs]
    exact Ne.symm h

theorem find?_setChannel_self {s : Session} {l : List Session}
    (hs : l.find? (·.id = id) = some s) (c : Channel) :
    (setChannel id c l).find? (·.id = id) = some { s with channel := c } := by
  rw [find?_setChannel, hs, Option.map_some, if_pos (Session.id_of_find? hs)]

/-- Reading is by the browser of the session, if it still reads. -/
theorem receive_eq (hd : b.Distinct) (id : SessionId) (max : Nat) :
    b.receive id max =
      match b.place id with
      | .registered s =>
        if s.channel.isOpen then
          ({ b with sessions := setChannel id (s.channel.read max).2 b.sessions },
            some ⟨(s.channel.read max).1, false⟩)
        else (b, none)
      | .departed s =>
        if s.channel.isOpen then
          ({ b with departed := setChannel id (s.channel.read max).2 b.departed },
            some ⟨(s.channel.read max).1, (s.channel.read max).1.length < max⟩)
        else (b, none)
      | .nowhere => (b, none) := by
  have hfind : b.sessions.find? (isListening id) = (b.find? id).filter (·.channel.isOpen) :=
    Session.find?_isListening hd.nodup_sessions id
  have hgone : b.departed.find? (isListening id) = (b.gone? id).filter (·.channel.isOpen) :=
    Session.find?_isListening hd.nodup_departed id
  unfold receive place
  rw [hfind, hgone]
  cases hs : b.find? id with
  | some s =>
    rw [hd.gone?_eq_none hs]
    cases ho : s.channel.isOpen <;> simp [Option.filter, Place.of, ho]
  | none =>
    cases hg : b.gone? id with
    | none => rfl
    | some s => cases ho : s.channel.isOpen <;> simp [Option.filter, Place.of, ho]

theorem place_withSessions (b : Bus) (l : List Session) (id : SessionId) :
    { b with sessions := l }.place id = .of (l.find? (·.id = id)) (b.gone? id) := rfl

theorem place_withDeparted (b : Bus) (l : List Session) (id : SessionId) :
    { b with departed := l }.place id = .of (b.find? id) (l.find? (·.id = id)) := rfl

theorem place_receive_self (hd : b.Distinct) (id : SessionId) (max : Nat) :
    (b.receive id max).1.place id = (b.place id).onSession (·.reading max) := by
  rw [receive_eq hd]
  cases hs : b.find? id with
  | some s =>
    have hplace : b.place id = .registered s := place_of_find? hs
    rw [hplace]
    cases ho : s.channel.isOpen with
    | true =>
      simp only [Place.onSession, Session.reading, ho, if_true]
      rw [place_withSessions, find?_setChannel_self hs]
      rfl
    | false => simp [Place.onSession, Session.reading, ho, hplace]
  | none =>
    cases hg : b.gone? id with
    | none =>
      have hplace : b.place id = .nowhere := place_of_none hs hg
      rw [hplace]
      exact hplace
    | some s =>
      have hplace : b.place id = .departed s := place_of_gone? hs hg
      rw [hplace]
      cases ho : s.channel.isOpen with
      | true =>
        simp only [Place.onSession, Session.reading, ho, if_true]
        rw [place_withDeparted, hs, find?_setChannel_self hg]
        rfl
      | false => simp [Place.onSession, Session.reading, ho, hplace]

theorem place_receive_ne (hd : b.Distinct) (h : id' ≠ id) (max : Nat) :
    (b.receive id' max).1.place id = b.place id := by
  rw [receive_eq hd]
  cases b.place id' with
  | nowhere => rfl
  | registered s =>
    cases ho : s.channel.isOpen with
    | true => simp only [ho, if_true]; rw [place_withSessions, find?_setChannel_ne h]; rfl
    | false => simp [ho]
  | departed s =>
    cases ho : s.channel.isOpen with
    | true => simp only [ho, if_true]; rw [place_withDeparted, find?_setChannel_ne h]; rfl
    | false => simp [ho]

/-- What leaves the channel of a session when a browser reads. -/
theorem takes_receive (hd : b.Distinct) (id' : SessionId) (max : Nat) :
    BusOp.takes b id (.receive id' max) =
      if id' = id then (b.place id).takes b.capacity (.read max) else [] := by
  simp only [BusOp.takes]
  rw [receive_eq hd]
  by_cases h : id' = id
  · subst h
    rw [if_pos rfl]
    cases b.place id' with
    | nowhere => rfl
    | registered s => cases ho : s.channel.isOpen <;> simp [Place.takes, Session.readBy, ho]
    | departed s => cases ho : s.channel.isOpen <;> simp [Place.takes, Session.readBy, ho]
  · simp only [h, if_false]
    split <;> rfl

theorem place_hangUp (b : Bus) (id id' : SessionId) :
    (b.hangUp id').1.place id =
      if id' = id then (b.place id).onSession (·.hungUp) else b.place id := by
  have hung (l : List Session) :
      (l.map fun s => if s.id = id' then { s with channel := s.channel.close } else s).find?
          (·.id = id) =
        (l.find? (·.id = id)).map fun s => if s.id = id' then s.hungUp else s := by
    apply Session.find?_map
    intro s
    split <;> rfl
  have hfind : (b.hangUp id').1.find? id =
      (b.find? id).map fun s => if s.id = id' then s.hungUp else s := hung b.sessions
  have hgone : (b.hangUp id').1.gone? id =
      (b.gone? id).map fun s => if s.id = id' then s.hungUp else s := hung b.departed
  unfold place
  rw [hfind, hgone]
  cases hs : b.find? id with
  | some s =>
    obtain rfl := Session.id_of_find? hs
    by_cases h : id' = s.id
    · simp [h, Place.of, Place.onSession]
    · simp [h, Ne.symm h, Place.of]
  | none =>
    cases hg : b.gone? id with
    | none => simp [Place.of, Place.onSession]
    | some s =>
      obtain rfl := Session.id_of_find? hg
      by_cases h : id' = s.id
      · simp [h, Place.of, Place.onSession]
      · simp [h, Ne.symm h, Place.of]

/-! ## Operations keep sessions apart -/

theorem place_of_not_mem_ids (h : id ∉ b.ids) : b.place id = .nowhere := by
  have hids : b.ids = b.sessions.map (·.id) ++ b.departed.map (·.id) := by
    simp [ids, table, goneTable, Session.entry, Function.comp_def]
  rw [hids, List.mem_append, not_or] at h
  have hfind : b.find? id = none := Session.find?_eq_none_iff.mpr h.1
  have hgone : b.gone? id = none := Session.find?_eq_none_iff.mpr h.2
  exact place_of_none hfind hgone

theorem distinct_unlessRefused (hd : b.Distinct) (id : SessionId) (t : Topic)
    (i : Option Interest) : (BusOp.unlessRefused b (b.restore id t i)).Distinct := by
  cases h : b.restore id t i with
  | error e => exact hd
  | ok b' =>
    show b'.ids.Nodup
    rw [(ids_restore h).1]
    exact hd

/-- No operation uses an identifier twice. -/
theorem distinct_act (hd : b.Distinct) {op : BusOp} (hop : op.IsPossible b) :
    (op.act b).Distinct := by
  cases op with
  | register id => exact (ids_register hop).nodup_iff.mpr (List.nodup_cons.mpr ⟨hop, hd⟩)
  | subscribe id t p keys =>
    simp only [BusOp.act, map_subscribe]
    exact distinct_unlessRefused hd id t _
  | unsubscribe id t => exact distinct_unlessRefused hd id t none
  | restore id t previous => exact distinct_unlessRefused hd id t previous
  | close id => exact distinct_of_thins (thins_close hd id) hd
  | publish batch pulls => exact distinct_of_thins (thins_publishWhile b pulls batch) hd
  | broadcast e pulls => exact distinct_of_thins (thins_broadcastWhile b pulls e) hd
  | receive id max => exact distinct_of_thins (thins_receive b id max) hd
  | hangUp id => exact distinct_of_thins (thins_hangUp b id) hd

/-- Channels keep their size. -/
theorem capacity_act (b : Bus) (op : BusOp) : (op.act b).capacity = b.capacity := by
  cases op with
  | subscribe id t p keys =>
    simp only [BusOp.act, map_subscribe, unlessRefused_restore]
    rfl
  | unsubscribe id t =>
    simp only [BusOp.act, unsubscribe, unlessRefused_restore]
    rfl
  | restore id t previous =>
    simp only [BusOp.act, unlessRefused_restore]
    rfl
  | close id =>
    simp only [BusOp.act, close]
    cases b.find? id <;> rfl
  | receive id max =>
    simp only [BusOp.act, receive]
    split
    · rfl
    · split <;> rfl
  | _ => rfl

/-! ## The session alone does the same -/

/-- **Sessions do not matter to each other.** An operation does to a session what the session
makes of it alone; where the operation has nothing to do with the session, it stays as it is. -/
theorem place_act (hd : b.Distinct) (op : BusOp) (id : SessionId) :
    (op.act b).place id =
      match op.toward id with
      | some m => (b.place id).act b.capacity id m
      | none => b.place id := by
  cases op with
  | register id' =>
    simp only [BusOp.act, BusOp.toward, place_register]
    split <;> rfl
  | subscribe id' t p keys =>
    simp only [BusOp.act, BusOp.toward, map_subscribe, place_ask]
    split <;> rfl
  | unsubscribe id' t =>
    simp only [BusOp.act, BusOp.toward, unsubscribe, place_ask]
    split <;> rfl
  | restore id' t previous =>
    simp only [BusOp.act, BusOp.toward, place_ask]
    split <;> rfl
  | close id' =>
    simp only [BusOp.act, BusOp.toward, place_close hd]
    split <;> rfl
  | publish batch pulls => exact place_publishWhile hd pulls batch
  | broadcast e pulls => exact place_broadcastWhile hd pulls e
  | receive id' max =>
    simp only [BusOp.act, BusOp.toward]
    by_cases h : id' = id
    · subst h
      rw [if_pos rfl]
      exact place_receive_self hd id' max
    · rw [if_neg h]
      exact place_receive_ne hd h max
  | hangUp id' =>
    simp only [BusOp.act, BusOp.toward, place_hangUp]
    split <;> rfl

/-- Only who is new is registered by an operation. -/
theorem isRegistered_of_act (hd : b.Distinct) {op : BusOp}
    (h : (op.act b).isRegistered id = true) :
    b.isRegistered id = true ∨ op.toward id = some .register := by
  obtain ⟨s, hs⟩ := isRegistered_iff_place.mp h
  rw [place_act hd] at hs
  cases hm : op.toward id with
  | none =>
    rw [hm] at hs
    exact .inl (isRegistered_iff_place.mpr ⟨s, hs⟩)
  | some m =>
    rw [hm] at hs
    cases m with
    | register => exact .inr rfl
    | _ =>
      -- all other moves leave a session that is gone, or was never there, where it is
      cases hx : b.place id with
      | registered s' => exact .inl (isRegistered_iff_place.mpr ⟨s', hx⟩)
      | _ =>
        rw [hx] at hs
        cases hs

/-- So it is with what leaves the session's channel. -/
theorem takes_act (hd : b.Distinct) (op : BusOp) (id : SessionId) :
    op.takes b id =
      match op.toward id with
      | some m => (b.place id).takes b.capacity m
      | none => [] := by
  cases op with
  | publish batch pulls => rfl
  | broadcast e pulls => rfl
  | receive id' max =>
    rw [takes_receive hd]
    by_cases h : id' = id <;> simp [BusOp.toward, h]
  | hangUp id' => by_cases h : id' = id <;> simp [BusOp.takes, BusOp.toward, Place.takes, h]
  | register id' => by_cases h : id' = id <;> simp [BusOp.takes, BusOp.toward, Place.takes, h]
  | subscribe id' t p keys =>
    by_cases h : id' = id <;> simp [BusOp.takes, BusOp.toward, Place.takes, h]
  | unsubscribe id' t => by_cases h : id' = id <;> simp [BusOp.takes, BusOp.toward, Place.takes, h]
  | restore id' t previous =>
    by_cases h : id' = id <;> simp [BusOp.takes, BusOp.toward, Place.takes, h]
  | close id' => by_cases h : id' = id <;> simp [BusOp.takes, BusOp.toward, Place.takes, h]

end Bus

/-- What was put into the channel of a session up to and with an operation. -/
theorem Traffic.mail_step {w : Traffic} (hd : w.bus.Distinct) (op : BusOp) (id : SessionId) :
    (w.step op).mail id = w.taken id ++
      match op.toward id with
      | some m => (w.bus.place id).takes w.bus.capacity m ++
          ((w.bus.place id).act w.bus.capacity id m).waiting
      | none => (w.bus.place id).waiting := by
  have hsplit : (w.step op).mail id =
      w.taken id ++ (op.takes w.bus id ++ ((op.act w.bus).place id).waiting) :=
    List.append_assoc _ _ _
  rw [hsplit, Bus.takes_act hd, Bus.place_act hd]
  cases op.toward id <;> rfl

end SensorGateway
