/-
# SensorGateway.Proofs.Bus.Interest -- who asks for what

Two views of a bus leave the channels out. `Bus.Asks` says which session asks for what
on a topic; every operation on sessions and subscriptions is described by its effect on
that relation, and `Bus.mem_sensorsOn` reads the sensors of a topic off it. `Bus.Thins`
says that one bus comes from another by telling sessions something: some of them were
evicted, and nobody asks for anything else than before.

Identifiers are never used twice (`Bus.Distinct`), so a session that is gone stays apart
from those that are registered.
-/
import SensorGateway.Bus

namespace SensorGateway

/-- A session without its channel. -/
def Session.entry (s : Session) : SessionId × SortedMap Topic Interest := (s.id, s.subscriptions)

namespace Bus

/-! ## Two views of a bus -/

/-- The registered sessions without their channels. -/
def table (b : Bus) : List (SessionId × SortedMap Topic Interest) := b.sessions.map Session.entry

/-- The departed sessions without their channels. -/
def goneTable (b : Bus) : List (SessionId × SortedMap Topic Interest) :=
  b.departed.map Session.entry

/-- A registered session asks for this on a topic. -/
def Asks (b : Bus) (id : SessionId) (t : Topic) (i : Interest) : Prop :=
  ∃ m, (id, m) ∈ b.table ∧ m.get? t = some i

theorem asks_iff {b : Bus} {id : SessionId} {t : Topic} {i : Interest} :
    b.Asks id t i ↔ ∃ s ∈ b.sessions, s.id = id ∧ s.subscriptions.get? t = some i := by
  constructor
  · rintro ⟨m, hm, hi⟩
    obtain ⟨s, hs, he⟩ := List.mem_map.mp hm
    obtain ⟨rfl, rfl⟩ := Prod.mk.inj he
    exact ⟨s, hs, rfl, hi⟩
  · rintro ⟨s, hs, rfl, hi⟩
    exact ⟨s.subscriptions, List.mem_map_of_mem hs, hi⟩

theorem asks_of_mem {b : Bus} {s : Session} {t : Topic} {i : Interest} (hs : s ∈ b.sessions)
    (hi : s.subscriptions.get? t = some i) : b.Asks s.id t i :=
  asks_iff.mpr ⟨s, hs, rfl, hi⟩

/-! ## The sensors of a topic -/

theorem mem_session_sensorsOn {s : Session} {t : Topic} {k : SensorKey} :
    k ∈ s.sensorsOn t ↔ ∃ i, s.subscriptions.get? t = some i ∧ k ∈ i.sensors := by
  unfold Session.sensorsOn
  cases s.subscriptions.get? t with
  | none => simp
  | some i => simp

theorem mem_foldl_union {l : List Session} {t : Topic} {k : SensorKey} (ks : KeySet) :
    k ∈ l.foldl (fun ks s => ks.union (s.sensorsOn t)) ks ↔
      k ∈ ks ∨ ∃ s ∈ l, k ∈ s.sensorsOn t := by
  induction l generalizing ks with
  | nil => simp
  | cons s rest ih =>
    rw [List.foldl_cons, ih, SortedSet.mem_union]
    simp only [List.mem_cons, exists_eq_or_imp, or_assoc]

/-- A sensor of a topic is wanted exactly when some session asks for it. -/
theorem mem_sensorsOn {b : Bus} {t : Topic} {k : SensorKey} :
    k ∈ b.sensorsOn t ↔ ∃ id i, b.Asks id t i ∧ k ∈ i.sensors := by
  rw [sensorsOn, mem_foldl_union]
  simp only [SortedSet.not_mem_empty, false_or, mem_session_sensorsOn]
  constructor
  · rintro ⟨s, hs, i, hi, hk⟩
    exact ⟨s.id, i, asks_of_mem hs hi, hk⟩
  · rintro ⟨id, i, ha, hk⟩
    obtain ⟨s, hs, -, hi⟩ := asks_iff.mp ha
    exact ⟨s, hs, i, hi, hk⟩

/-- Who asks for what on a topic determines its sensors. -/
theorem sensorsOn_congr {b b' : Bus} {t : Topic} (h : ∀ id i, b.Asks id t i ↔ b'.Asks id t i) :
    b.sensorsOn t = b'.sensorsOn t := by
  apply SortedSet.ext
  intro k
  simp only [mem_sensorsOn, h]

/-! ## Sessions come, ask and go -/

theorem mem_of_find? {b : Bus} {id : SessionId} {s : Session} (h : b.find? id = some s) :
    s ∈ b.sessions ∧ s.id = id :=
  ⟨List.mem_of_find?_eq_some h, by simpa using List.find?_some h⟩

theorem isRegistered_iff {b : Bus} {id : SessionId} :
    b.isRegistered id = true ↔ ∃ s ∈ b.sessions, s.id = id := by
  simp [isRegistered, find?]

theorem asks_of_subscription? {b : Bus} {id : SessionId} {t : Topic} {i : Interest}
    (h : b.subscription? id t = some i) : b.Asks id t i := by
  obtain ⟨s, hs, hi⟩ := Option.bind_eq_some_iff.mp h
  obtain ⟨hmem, rfl⟩ := mem_of_find? hs
  exact asks_of_mem hmem hi

theorem get?_setSubscription {s : Session} {t t' : Topic} {i : Option Interest} :
    (s.setSubscription t i).subscriptions.get? t' =
      if t' = t then i else s.subscriptions.get? t' := by
  cases i with
  | none => exact SortedMap.get?_erase
  | some i => exact SortedMap.get?_insert

@[simp] theorem id_setSubscription {s : Session} {t : Topic} {i : Option Interest} :
    (s.setSubscription t i).id = s.id := by
  cases i <;> rfl

theorem restore_eq_ok {b b' : Bus} {id : SessionId} {t : Topic} {i : Option Interest}
    (h : b.restore id t i = .ok b') :
    b.isRegistered id = true ∧ b' = b.modify id (·.setSubscription t i) := by
  unfold restore at h
  split at h
  · next hr => exact ⟨hr, (Except.ok.inj h).symm⟩
  · cases h

/-- Setting what one session asks for on one topic changes nothing else. -/
theorem asks_restore {b b' : Bus} {id id' : SessionId} {t t' : Topic} {o : Option Interest}
    {i : Interest} (h : b.restore id t o = .ok b') :
    b'.Asks id' t' i ↔ if id' = id ∧ t' = t then o = some i else b.Asks id' t' i := by
  obtain ⟨hr, rfl⟩ := restore_eq_ok h
  obtain ⟨r, hrmem, hrid⟩ := isRegistered_iff.mp hr
  rw [asks_iff, asks_iff]
  simp only [modify, List.mem_map]
  constructor
  · rintro ⟨-, ⟨s, hs, rfl⟩, hid, hi⟩
    -- the session that is asked about is the changed one, or it was like this before
    by_cases hsid : s.id = id
    · simp only [hsid, if_true, id_setSubscription, get?_setSubscription] at hid hi
      by_cases ht : t' = t
      · simpa [hid, ht] using hi
      · exact (if_neg (by simp [ht])).mpr ⟨s, hs, hsid.trans hid, by simpa [ht] using hi⟩
    · simp only [hsid, if_false] at hid hi
      exact (if_neg fun hc => hsid (hid.trans hc.1)).mpr ⟨s, hs, hid, hi⟩
  · intro ha
    by_cases hc : id' = id ∧ t' = t
    · -- some session is registered under the identifier, and it has the new interest now
      obtain ⟨rfl, rfl⟩ := hc
      refine ⟨_, ⟨r, hrmem, rfl⟩, ?_, ?_⟩
      · simp [hrid]
      · rw [if_pos ⟨rfl, rfl⟩] at ha
        simp [hrid, get?_setSubscription, ha]
    · obtain ⟨s, hs, rfl, hi⟩ := (if_neg hc).mp ha
      refine ⟨_, ⟨s, hs, rfl⟩, ?_, ?_⟩
      · by_cases hsid : s.id = id <;> simp [hsid]
      · by_cases hsid : s.id = id
        · have ht : t' ≠ t := fun ht => hc ⟨hsid, ht⟩
          simpa [hsid, get?_setSubscription, ht] using hi
        · simpa [hsid] using hi

theorem subscribe_eq_ok {b b' : Bus} {id : SessionId} {t : Topic} {p : Protocol} {keys : KeySet}
    {n : Nat} (h : b.subscribe id t p keys = .ok (b', n)) :
    b.restore id t (if keys.isEmpty then none else some ⟨p, keys⟩) = .ok b' ∧ n = keys.size := by
  unfold subscribe at h
  simp only at h
  cases hr : b.restore id t (if keys.isEmpty then none else some ⟨p, keys⟩) with
  | error e => rw [hr] at h; cases h
  | ok b₁ =>
    rw [hr] at h
    obtain ⟨rfl, rfl⟩ := Prod.mk.inj (Except.ok.inj h)
    exact ⟨rfl, rfl⟩

/-- Only a session that is not registered cannot ask for anything. -/
theorem subscribe_eq_error {b : Bus} {id : SessionId} {t : Topic} {p : Protocol} {keys : KeySet}
    {e : BusError} (h : b.subscribe id t p keys = .error e) :
    b.isRegistered id = false ∧ e = .unknownSession id := by
  unfold subscribe restore at h
  cases hr : b.isRegistered id with
  | true => rw [hr] at h; cases h
  | false =>
    rw [hr] at h
    exact ⟨rfl, (Except.error.inj h).symm⟩

/-- A new session asks for nothing. -/
theorem asks_register {b : Bus} {id id' : SessionId} {t : Topic} {i : Interest} :
    (b.register id).Asks id' t i ↔ id' ≠ id ∧ b.Asks id' t i := by
  rw [asks_iff, asks_iff]
  simp only [register, List.mem_append, List.mem_filter, List.mem_singleton]
  constructor
  · rintro ⟨s, ⟨hs, hne⟩ | rfl, rfl, hi⟩
    · exact ⟨by simpa using hne, s, hs, rfl, hi⟩
    · cases hi
  · rintro ⟨hne, s, hs, rfl, hi⟩
    exact ⟨s, Or.inl ⟨hs, by simpa using hne⟩, rfl, hi⟩

/-- A closed session asks for nothing any more; the others ask as before. -/
theorem asks_close {b : Bus} {id id' : SessionId} {t : Topic} {i : Interest} :
    (b.close id).1.Asks id' t i ↔ id' ≠ id ∧ b.Asks id' t i := by
  unfold close
  cases hf : b.find? id with
  | none =>
    refine ⟨fun ha => ⟨?_, ha⟩, fun h => h.2⟩
    obtain ⟨s, hs, rfl, -⟩ := asks_iff.mp ha
    rintro rfl
    exact absurd hf (by simpa [find?] using ⟨s, hs, rfl⟩)
  | some r =>
    rw [asks_iff, asks_iff]
    simp only [List.mem_filter]
    constructor
    · rintro ⟨s, ⟨hs, hne⟩, rfl, hi⟩
      exact ⟨by simpa using hne, s, hs, rfl, hi⟩
    · rintro ⟨hne, s, hs, rfl, hi⟩
      exact ⟨s, ⟨hs, by simpa using hne⟩, rfl, hi⟩

/-- The topics that a closed session leaves are those it asked for something on. -/
theorem mem_topics_of_close {b : Bus} {id : SessionId} {t : Topic} {p : Protocol}
    (h : (t, p) ∈ (b.close id).2) : ∃ i, b.Asks id t i ∧ i.protocol = p := by
  unfold close at h
  cases hf : b.find? id with
  | none => rw [hf] at h; cases h
  | some s =>
    rw [hf] at h
    obtain ⟨⟨t', i⟩, hmem, he⟩ := List.mem_map.mp h
    obtain ⟨rfl, rfl⟩ := Prod.mk.inj he
    obtain ⟨hs, rfl⟩ := mem_of_find? hf
    exact ⟨i, asks_of_mem hs (SortedMap.mem_toList_iff.mp hmem), rfl⟩

/-! ## Active topics -/

theorem get?_addTopics {topics : SortedMap Topic Protocol} {s : Session} {t : Topic} {p : Protocol}
    (h : (addTopics topics s).get? t = some p) : topics.get? t = some p ∨ (t, p) ∈ s.topics := by
  unfold addTopics at h
  generalize s.topics = l at h ⊢
  induction l generalizing topics with
  | nil => exact Or.inl h
  | cons e rest ih =>
    rcases ih h with h | h
    · simp only at h
      split at h
      · exact Or.inl h
      · rw [SortedMap.get?_insert] at h
        split at h
        · next ht => exact Or.inr (by cases h; simp [ht])
        · exact Or.inl h
    · exact Or.inr (List.mem_cons_of_mem e h)

theorem get?_topicsOf {l : List Session} {topics : SortedMap Topic Protocol} {t : Topic}
    {p : Protocol} (h : (l.foldl addTopics topics).get? t = some p) :
    topics.get? t = some p ∨ ∃ s ∈ l, (t, p) ∈ s.topics := by
  induction l generalizing topics with
  | nil => exact Or.inl h
  | cons s rest ih =>
    rcases ih h with h | ⟨r, hr, hmem⟩
    · rcases get?_addTopics h with h | h
      · exact Or.inl h
      · exact Or.inr ⟨s, by simp, h⟩
    · exact Or.inr ⟨r, List.mem_cons_of_mem s hr, hmem⟩

/-- The family of an active topic is that of some session that asks for something there. -/
theorem asks_of_activeTopics {b : Bus} {t : Topic} {p : Protocol}
    (h : b.activeTopics.get? t = some p) : ∃ id i, b.Asks id t i ∧ i.protocol = p := by
  rcases get?_topicsOf h with h | ⟨s, hs, hmem⟩
  · cases h
  · obtain ⟨⟨t', i⟩, he, heq⟩ := List.mem_map.mp hmem
    obtain ⟨rfl, rfl⟩ := Prod.mk.inj heq
    exact ⟨s.id, i, asks_of_mem hs (SortedMap.mem_toList_iff.mp he), rfl⟩

theorem isSome_get?_addTopics {topics : SortedMap Topic Protocol} {s : Session} {t : Topic} :
    ((addTopics topics s).get? t).isSome ↔ (topics.get? t).isSome ∨ ∃ p, (t, p) ∈ s.topics := by
  unfold addTopics
  generalize s.topics = l
  induction l generalizing topics with
  | nil => simp
  | cons e rest ih =>
    obtain ⟨t', p'⟩ := e
    have hfirst : ((if topics.contains t' then topics else topics.insert t' p').get? t).isSome ↔
        (topics.get? t).isSome ∨ t = t' := by
      by_cases hcontains : topics.contains t' = true
      · rw [if_pos hcontains]
        exact ⟨.inl, fun h => h.elim id fun heq => heq ▸ hcontains⟩
      · rw [if_neg hcontains, SortedMap.get?_insert]
        by_cases ht : t = t' <;> simp [ht]
    rw [List.foldl_cons, ih, hfirst, or_assoc]
    refine or_congr_right ⟨?_, ?_⟩
    · rintro (rfl | ⟨p, hp⟩)
      · exact ⟨p', List.mem_cons_self⟩
      · exact ⟨p, List.mem_cons_of_mem _ hp⟩
    · rintro ⟨p, hp⟩
      rcases List.mem_cons.mp hp with heq | hp
      · exact .inl (Prod.mk.inj heq).1
      · exact .inr ⟨p, hp⟩

/-- A topic is active exactly when some session asks for something on it. -/
theorem isSome_activeTopics_iff {b : Bus} {t : Topic} :
    (b.activeTopics.get? t).isSome ↔ ∃ id i, b.Asks id t i := by
  have hfold (l : List Session) (topics : SortedMap Topic Protocol) :
      ((l.foldl addTopics topics).get? t).isSome ↔
        (topics.get? t).isSome ∨ ∃ s ∈ l, ∃ p, (t, p) ∈ s.topics := by
    induction l generalizing topics with
    | nil => simp
    | cons s rest ih =>
      rw [List.foldl_cons, ih, isSome_get?_addTopics, or_assoc]
      simp only [List.mem_cons, exists_eq_or_imp]
  refine (hfold b.sessions .empty).trans ⟨?_, ?_⟩
  · rintro (hnone | ⟨s, hs, p, hp⟩)
    · cases hnone
    · obtain ⟨⟨t', i⟩, he, heq⟩ := List.mem_map.mp hp
      obtain ⟨rfl, rfl⟩ := Prod.mk.inj heq
      exact ⟨s.id, i, asks_of_mem hs (SortedMap.mem_toList_iff.mp he)⟩
  · rintro ⟨id, i, ha⟩
    obtain ⟨s, hs, -, hi⟩ := asks_iff.mp ha
    exact .inr ⟨s, hs, i.protocol,
      List.mem_map.mpr ⟨(t, i), SortedMap.mem_toList_iff.mpr hi, rfl⟩⟩

/-! ## Sessions are evicted -/

/-- The second bus comes from the first one by taking sessions away, and nothing else changes
apart from channels. -/
def Thins (b b' : Bus) : Prop :=
  ∃ gone, b'.goneTable = b.goneTable ++ gone ∧ b.table.Perm (b'.table ++ gone)

theorem Thins.of_same {b b' : Bus} (ht : b'.table = b.table) (hg : b'.goneTable = b.goneTable) :
    Thins b b' :=
  ⟨[], by simpa using hg, by simp [ht]⟩

theorem Thins.refl (b : Bus) : Thins b b := .of_same rfl rfl

theorem Thins.trans {a b c : Bus} (hab : Thins a b) (hbc : Thins b c) : Thins a c := by
  obtain ⟨g₁, hg₁, hp₁⟩ := hab
  obtain ⟨g₂, hg₂, hp₂⟩ := hbc
  refine ⟨g₁ ++ g₂, by rw [hg₂, hg₁, List.append_assoc], ?_⟩
  calc a.table.Perm (b.table ++ g₁) := hp₁
    _ |>.Perm ((c.table ++ g₂) ++ g₁) := hp₂.append_right g₁
    _ |>.Perm (c.table ++ (g₁ ++ g₂)) := by
      rw [List.append_assoc]
      exact List.perm_append_comm.append_left c.table

theorem asks_of_thins {b b' : Bus} {id : SessionId} {t : Topic} {i : Interest} (h : Thins b b')
    (ha : b'.Asks id t i) : b.Asks id t i := by
  obtain ⟨gone, -, hp⟩ := h
  obtain ⟨m, hm, hi⟩ := ha
  exact ⟨m, hp.mem_iff.mpr (List.mem_append_left gone hm), hi⟩

/-- A session that is told something stays or goes; either way its entry is what it was. -/
theorem kept_or_evicted (capacity : Nat) (e : Option Event) (s : Session) :
    (∃ s', (s.tell capacity e).kept? = some s' ∧ (s.tell capacity e).evicted? = none ∧
      s'.entry = s.entry) ∨
    ((s.tell capacity e).kept? = none ∧ (s.tell capacity e).evicted? = some s) := by
  cases e with
  | none => exact Or.inl ⟨s, rfl, rfl, rfl⟩
  | some e =>
    simp only [Session.tell]
    cases s.channel.offer capacity e with
    | accepted c => exact Or.inl ⟨{ s with channel := c }, by simp [Session.Outcome.kept?],
        by simp [Session.Outcome.evicted?], rfl⟩
    | full => exact Or.inr (by simp [Session.Outcome.kept?, Session.Outcome.evicted?])
    | closed => exact Or.inr (by simp [Session.Outcome.kept?, Session.Outcome.evicted?])

theorem thins_deliver (b : Bus) (news : Session → Option Event) : Thins b (b.deliver news).1 := by
  refine ⟨_, List.map_append, ?_⟩
  show (b.sessions.map Session.entry).Perm _
  simp only [deliver, table]
  -- each session goes to the list of those that stay or to the list of those that are evicted
  induction b.sessions with
  | nil => exact List.Perm.nil
  | cons s rest ih =>
    rcases kept_or_evicted b.capacity (news s) s with ⟨s', hk, he, hs⟩ | ⟨hk, he⟩
    · simp only [List.map_cons, List.filterMap_cons, hk, he, hs, List.cons_append]
      exact ih.cons s.entry
    · simp only [List.map_cons, List.filterMap_cons, hk, he]
      exact (ih.cons s.entry).trans List.perm_middle.symm

theorem entry_setChannel (id : SessionId) (c : Channel) (l : List Session) :
    (setChannel id c l).map Session.entry = l.map Session.entry := by
  rw [setChannel, List.map_map]
  apply List.map_congr_left
  intro s _
  simp only [Function.comp_apply]
  split <;> rfl

theorem thins_receive (b : Bus) (id : SessionId) (max : Nat) : Thins b (b.receive id max).1 := by
  unfold receive
  split
  · exact .of_same (entry_setChannel id _ b.sessions) rfl
  · split
    · exact .of_same rfl (entry_setChannel id _ b.departed)
    · exact .refl b

theorem thins_hangUp (b : Bus) (id : SessionId) : Thins b (b.hangUp id).1 := by
  have entry_hung (l : List Session) :
      (l.map fun s => if s.id = id then { s with channel := s.channel.close } else s).map
        Session.entry = l.map Session.entry := by
    rw [List.map_map]
    apply List.map_congr_left
    intro s _
    simp only [Function.comp_apply]
    split <;> rfl
  exact .of_same (entry_hung b.sessions) (entry_hung b.departed)

/-! ## Identifiers are used once -/

/-- The identifiers of all sessions, registered and gone. -/
def ids (b : Bus) : List SessionId := (b.table ++ b.goneTable).map (·.1)

/-- No identifier was used twice. -/
def Distinct (b : Bus) : Prop := b.ids.Nodup

theorem ids_perm_of_thins {b b' : Bus} (h : Thins b b') : b.ids.Perm b'.ids := by
  obtain ⟨gone, hg, hp⟩ := h
  refine List.Perm.map _ ?_
  calc (b.table ++ b.goneTable).Perm ((b'.table ++ gone) ++ b.goneTable) :=
        hp.append_right b.goneTable
    _ |>.Perm (b'.table ++ b'.goneTable) := by
      rw [hg, List.append_assoc]
      exact List.perm_append_comm.append_left b'.table

theorem distinct_of_thins {b b' : Bus} (h : Thins b b') (hd : b.Distinct) : b'.Distinct :=
  (ids_perm_of_thins h).nodup_iff.mp hd

/-- A registered session is not gone. -/
theorem Distinct.not_gone {b : Bus} (hd : b.Distinct) {id : SessionId}
    {m : SortedMap Topic Interest} (h : (id, m) ∈ b.table) : id ∉ b.goneTable.map (·.1) := by
  unfold Distinct ids at hd
  rw [List.map_append, List.nodup_append] at hd
  intro hg
  exact hd.2.2 id (List.mem_map_of_mem h) id hg rfl

theorem ids_restore {b b' : Bus} {id : SessionId} {t : Topic} {i : Option Interest}
    (h : b.restore id t i = .ok b') : b'.ids = b.ids ∧ b'.goneTable = b.goneTable := by
  obtain ⟨-, rfl⟩ := restore_eq_ok h
  refine ⟨?_, rfl⟩
  show (((b.sessions.map _).map Session.entry) ++ b.goneTable).map _ = _
  unfold ids table
  rw [List.map_append, List.map_append]
  congr 1
  simp only [List.map_map]
  apply List.map_congr_left
  intro s _
  simp only [Function.comp_apply, Session.entry]
  split <;> simp

theorem ids_register {b : Bus} {id : SessionId} (h : id ∉ b.ids) :
    (b.register id).ids.Perm (id :: b.ids) := by
  have hkeep : b.sessions.filter (·.id ≠ id) = b.sessions := by
    refine List.filter_eq_self.mpr fun s hs => decide_eq_true fun he => h ?_
    exact List.mem_map.mpr ⟨s.entry, List.mem_append_left _ (List.mem_map_of_mem hs), he⟩
  have htable : (b.register id).table = b.table ++ [(id, .empty)] := by
    simp only [table, register, hkeep, List.map_append]
    rfl
  unfold ids
  rw [htable, show (b.register id).goneTable = b.goneTable from rfl]
  simp only [List.map_append, List.map_cons, List.map_nil, List.append_assoc]
  exact List.perm_middle

theorem Distinct.nodup_sessions {b : Bus} (hd : b.Distinct) : (b.sessions.map (·.id)).Nodup := by
  unfold Distinct ids at hd
  rw [List.map_append, List.nodup_append, table, List.map_map] at hd
  exact hd.1

theorem perm_filter_ne_append {l : List Session} {s : Session} (hnd : (l.map (·.id)).Nodup)
    (hs : s ∈ l) : l.Perm (l.filter (·.id ≠ s.id) ++ [s]) := by
  induction l with
  | nil => cases hs
  | cons r rest ih =>
    rw [List.map_cons, List.nodup_cons] at hnd
    rcases List.mem_cons.mp hs with rfl | hs
    · have hkeep : rest.filter (·.id ≠ s.id) = rest :=
        List.filter_eq_self.mpr fun r hr =>
          decide_eq_true fun he => hnd.1 (he ▸ List.mem_map_of_mem hr)
      rw [List.filter_cons_of_neg (by simp), hkeep]
      exact (List.perm_append_singleton s rest).symm
    · have hne : r.id ≠ s.id := fun he => hnd.1 (he ▸ List.mem_map_of_mem hs)
      rw [List.filter_cons_of_pos (by simpa using hne)]
      exact (ih hnd.2 hs).cons r

/-- Closing a session moves it to those that are gone. -/
theorem thins_close {b : Bus} (hd : b.Distinct) (id : SessionId) : Thins b (b.close id).1 := by
  unfold close
  cases hf : b.find? id with
  | none => exact .refl b
  | some s =>
    obtain ⟨hs, rfl⟩ := mem_of_find? hf
    refine ⟨[s.entry], by simp [goneTable], ?_⟩
    have hp := (perm_filter_ne_append hd.nodup_sessions hs).map Session.entry
    rwa [List.map_append] at hp

theorem mem_ids_of_asks {b : Bus} {id : SessionId} {t : Topic} {i : Interest}
    (h : b.Asks id t i) : id ∈ b.ids := by
  obtain ⟨m, hm, -⟩ := h
  exact List.mem_map.mpr ⟨(id, m), List.mem_append_left b.goneTable hm, rfl⟩

/-- A new identifier asked for nothing before, and asks for nothing now. -/
theorem asks_register_of_new {b : Bus} {id : SessionId} (hnew : id ∉ b.ids) {id' : SessionId}
    {t : Topic} {i : Interest} : (b.register id).Asks id' t i ↔ b.Asks id' t i := by
  refine asks_register.trans ⟨fun ha => ha.2, fun ha => ⟨?_, ha⟩⟩
  rintro rfl
  exact hnew (mem_ids_of_asks ha)

/-- A session that asks for nothing on a topic is not missed there. -/
theorem asks_close_of_none {b : Bus} {id : SessionId} {t : Topic} (hnone : ∀ i, ¬ b.Asks id t i)
    {id' : SessionId} {i : Interest} : (b.close id).1.Asks id' t i ↔ b.Asks id' t i := by
  refine asks_close.trans ⟨fun ha => ha.2, fun ha => ⟨?_, ha⟩⟩
  rintro rfl
  exact hnone i ha

/-- There is one registered session under an identifier. -/
theorem Distinct.find?_eq {b : Bus} (hd : b.Distinct) {s : Session} (hs : s ∈ b.sessions) :
    b.find? s.id = some s := by
  have hnd := hd.nodup_sessions
  unfold find?
  generalize b.sessions = l at hs hnd
  induction l with
  | nil => cases hs
  | cons r rest ih =>
    rw [List.map_cons, List.nodup_cons] at hnd
    rcases List.mem_cons.mp hs with rfl | hs
    · exact List.find?_cons_of_pos (by simp)
    · have hne : r.id ≠ s.id := fun he => hnd.1 (he ▸ List.mem_map_of_mem hs)
      rw [List.find?_cons_of_neg (by simpa using hne)]
      exact ih hs hnd.2

/-- A session that is closed leaves every topic that it asked for something on. -/
theorem mem_topics_of_asks {b : Bus} (hd : b.Distinct) {id : SessionId} {t : Topic} {i : Interest}
    (h : b.Asks id t i) : (t, i.protocol) ∈ (b.close id).2 := by
  obtain ⟨s, hs, rfl, hi⟩ := asks_iff.mp h
  unfold close
  rw [hd.find?_eq hs]
  exact List.mem_map.mpr ⟨(t, i), SortedMap.mem_toList_iff.mpr hi, rfl⟩

/-- A session that was registered is gone once it is closed. -/
theorem mem_gone_of_close {b : Bus} {id : SessionId} (h : b.isRegistered id = true) :
    id ∈ (b.close id).1.goneTable.map (·.1) := by
  obtain ⟨s, hs⟩ := Option.isSome_iff_exists.mp h
  unfold close
  rw [hs]
  obtain ⟨-, rfl⟩ := mem_of_find? hs
  simp [goneTable, Session.entry]

/-! ## Nobody was lost -/

/-- Every departed session that asked for something on a topic is among those listed. -/
def OnlyGone (b : Bus) (listed : List SessionId) (t : Topic) : Prop :=
  ∀ e ∈ b.goneTable, (e.2.get? t).isSome → e.1 ∈ listed

/-- Where no session with an interest in a topic is evicted, everybody goes on asking for the
same. -/
theorem asks_iff_of_thins {b b' : Bus} {listed : List SessionId} {t : Topic} (hd : b.Distinct)
    (hlisted : ∀ id ∈ listed, id ∈ b.goneTable.map (·.1)) (h : Thins b b')
    (honly : b'.OnlyGone listed t) (id : SessionId) (i : Interest) :
    b'.Asks id t i ↔ b.Asks id t i := by
  refine ⟨asks_of_thins h, ?_⟩
  obtain ⟨gone, hg, hp⟩ := h
  rintro ⟨m, hm, hi⟩
  rcases List.mem_append.mp (hp.mem_iff.mp hm) with hm' | hgone
  · exact ⟨m, hm', hi⟩
  · -- an evicted session would be listed, so it would have been gone before
    have hmem : (id, m) ∈ b'.goneTable := hg ▸ List.mem_append_right _ hgone
    have hid : id ∈ listed := honly (id, m) hmem (by simp [hi])
    exact absurd (hlisted id hid) (hd.not_gone hm)

theorem OnlyGone.of_thins {b b' : Bus} {listed : List SessionId} {t : Topic} (h : Thins b b')
    (honly : b'.OnlyGone listed t) : b.OnlyGone listed t := by
  obtain ⟨gone, hg, -⟩ := h
  exact fun e he => honly e (hg ▸ List.mem_append_left gone he)

end Bus

end SensorGateway
