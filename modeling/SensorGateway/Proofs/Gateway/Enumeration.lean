/-
# SensorGateway.Proofs.Gateway.Enumeration -- when the order of the table matters

The table of sessions is a map, and nothing says in which order it is gone through. Mostly that makes
no difference: who is told what, who is evicted, and how long it takes are the same in every order
(`Bus.Reordered.deliver`), and so are the sensors of a topic. But a topic that is active gets the
family that is met first (`Bus.get?_gather`). So a recording that starts tracks the same and asks the
same adapters in every order just when every topic is asked for under one family
(`snapshot_follows_the_order`); `two_families_two_baselines` is a table where it does not.

The topics of one session are kept in order, so that a table in another order has its sessions in
another order. Active topics are looked at for every order in which sessions and their topics can be
met (`Bus.Enumerates`); nothing else of a start reads the table in its order.
-/
import Mathlib.Data.List.Forall2
import SensorGateway.Proofs.Gateway.Coverage

namespace SensorGateway

namespace Bus

variable {b b' : Bus} {es es' : List (Topic × Protocol)} {t : Topic} {p : Protocol}

/-! ## Going through the table -/

/-- The topics of some entries, each with the family that is met first. -/
def gather (es : List (Topic × Protocol)) : SortedMap Topic Protocol :=
  es.foldl (fun m e => if m.contains e.1 then m else m.insert e.1 e.2) .empty

/-- All entries of the table in an order in which its maps may be gone through: the sessions come in
any order, and so do the topics of each. -/
def Enumerates (b : Bus) (es : List (Topic × Protocol)) : Prop :=
  ∃ (sessions : List Session) (parts : List (List (Topic × Protocol))),
    sessions.Perm b.sessions ∧ List.Forall₂ (fun part s => part.Perm s.topics) parts sessions ∧
      es = parts.flatten

/-- Every topic is asked for under one family only. -/
def IsUniform (b : Bus) : Prop :=
  ∀ t id i id' i', b.Asks id t i → b.Asks id' t i' → i.protocol = i'.protocol

theorem activeTopics_eq_gather (b : Bus) :
    b.activeTopics = gather (b.sessions.flatMap Session.topics) := by
  unfold gather
  rw [List.foldl_flatMap]
  rfl

/-- The family of a topic is that of its first entry. -/
theorem get?_gather (es : List (Topic × Protocol)) (t : Topic) :
    (gather es).get? t = SortedMap.find? t es := by
  have hfold (m : SortedMap Topic Protocol) :
      (es.foldl (fun m e => if m.contains e.1 then m else m.insert e.1 e.2) m).get? t =
        (m.get? t).or (SortedMap.find? t es) := by
    induction es generalizing m with
    | nil => simp [SortedMap.find?]
    | cons e rest ih =>
      rw [List.foldl_cons, ih]
      by_cases ht : t = e.1
      · -- this entry counts unless there was one before
        subst ht
        cases hbefore : m.get? e.1 with
        | some p => simp [SortedMap.contains, hbefore]
        | none => simp [SortedMap.contains, hbefore, SortedMap.find?]
      · have hsame : (if m.contains e.1 then m else m.insert e.1 e.2).get? t = m.get? t := by
          split
          · rfl
          · rw [SortedMap.get?_insert, if_neg ht]
        rw [hsame]
        simp [SortedMap.find?, ht]
  exact (hfold .empty).trans (Option.none_or)

theorem mem_of_firstEntry (h : SortedMap.find? t es = some p) : (t, p) ∈ es := by
  induction es with
  | nil => cases h
  | cons e rest ih =>
    unfold SortedMap.find? at h
    split at h
    · next ht =>
      obtain rfl := Option.some.inj h
      rw [ht]
      exact List.mem_cons_self
    · exact List.mem_cons_of_mem e (ih h)

theorem isSome_firstEntry (h : (t, p) ∈ es) : (SortedMap.find? t es).isSome = true := by
  induction es with
  | nil => cases h
  | cons e rest ih =>
    unfold SortedMap.find?
    split
    · rfl
    · next ht =>
      rcases List.mem_cons.mp h with heq | h
      · exact absurd (congrArg Prod.fst heq) ht
      · exact ih h

/-- Where no topic has entries of two families, their order does not matter. -/
theorem gather_perm (h : es.Perm es') (hone : ∀ t p q, (t, p) ∈ es → (t, q) ∈ es → p = q) :
    gather es = gather es' := by
  apply SortedMap.ext
  intro t
  rw [get?_gather, get?_gather]
  cases hfirst : SortedMap.find? t es with
  | none =>
    cases hfirst' : SortedMap.find? t es' with
    | none => rfl
    | some q =>
      have hmem : (t, q) ∈ es := h.mem_iff.mpr (mem_of_firstEntry hfirst')
      have hsome := isSome_firstEntry hmem
      rw [hfirst] at hsome
      cases hsome
  | some p =>
    have hmem : (t, p) ∈ es' := h.mem_iff.mp (mem_of_firstEntry hfirst)
    obtain ⟨q, hq⟩ := Option.isSome_iff_exists.mp (isSome_firstEntry hmem)
    rw [hq, hone t p q (mem_of_firstEntry hfirst) (h.mem_iff.mpr (mem_of_firstEntry hq))]

/-- The entries of the table are the topics that sessions ask for, with their families. -/
theorem mem_entries_iff : (t, p) ∈ b.sessions.flatMap Session.topics ↔
    ∃ id i, b.Asks id t i ∧ i.protocol = p := by
  simp only [List.mem_flatMap, Session.topics, List.mem_map]
  constructor
  · rintro ⟨s, hs, ⟨t', i⟩, he, heq⟩
    obtain ⟨rfl, rfl⟩ := Prod.mk.inj heq
    exact ⟨s.id, i, asks_of_mem hs (SortedMap.mem_toList_iff.mp he), rfl⟩
  · rintro ⟨id, i, hasks, rfl⟩
    obtain ⟨s, hs, -, hi⟩ := asks_iff.mp hasks
    exact ⟨s, hs, (t, i), SortedMap.mem_toList_iff.mpr hi, rfl⟩

theorem Enumerates.perm (h : b.Enumerates es) : es.Perm (b.sessions.flatMap Session.topics) := by
  obtain ⟨sessions, parts, hsessions, hparts, rfl⟩ := h
  have hflatten : parts.flatten.Perm (sessions.flatMap Session.topics) := by
    clear hsessions
    induction hparts with
    | nil => exact .nil
    | cons hpart _ ih =>
      rw [List.flatten_cons, List.flatMap_cons]
      exact hpart.append ih
  exact hflatten.trans (hsessions.flatMap_right _)

/-- The table may be gone through beginning with any of its sessions. -/
theorem enumerates_from {s : Session} (hs : s ∈ b.sessions) :
    b.Enumerates ((s :: b.sessions.erase s).flatMap Session.topics) := by
  refine ⟨s :: b.sessions.erase s, (s :: b.sessions.erase s).map Session.topics,
    (List.perm_cons_erase hs).symm, ?_, rfl⟩
  rw [List.forall₂_map_left_iff]
  exact List.forall₂_same.mpr fun s _ => .refl s.topics

/-- The session with which it begins gives its topics their families. -/
theorem get?_gather_from {s : Session} {i : Interest} (hi : s.subscriptions.get? t = some i)
    (rest : List Session) :
    (gather ((s :: rest).flatMap Session.topics)).get? t = some i.protocol := by
  have hfind : SortedMap.find? t s.topics = some i.protocol := by
    have hmapped := SortedMap.get?_mapValues (m := s.subscriptions) (f := fun _ i => i.protocol)
      (k := t)
    rw [hi] at hmapped
    exact hmapped
  rw [get?_gather, List.flatMap_cons]
  generalize rest.flatMap Session.topics = after
  generalize s.topics = topics at hfind ⊢
  induction topics with
  | nil => cases hfind
  | cons e rest ih =>
    rw [List.cons_append]
    unfold SortedMap.find? at hfind ⊢
    split at hfind
    · next ht => rw [if_pos ht]; exact hfind
    · next ht => rw [if_neg ht]; exact ih hfind

/-- If the table gives the same active topics whichever session it begins with, then every topic has
one family. -/
theorem isUniform_of_any_first (h : ∀ s ∈ b.sessions,
    gather ((s :: b.sessions.erase s).flatMap Session.topics) = b.activeTopics) : b.IsUniform := by
  intro t id i id' i' hasks hasks'
  obtain ⟨s, hs, -, hi⟩ := asks_iff.mp hasks
  obtain ⟨s', hs', -, hi'⟩ := asks_iff.mp hasks'
  -- begin with the one session, and then with the other one
  have hfirst := get?_gather_from hi (b.sessions.erase s)
  have hfirst' := get?_gather_from hi' (b.sessions.erase s')
  rw [h s hs] at hfirst
  rw [h s' hs'] at hfirst'
  exact Option.some.inj (hfirst.symm.trans hfirst')

/-- **Active topics follow the order of the table, unless every topic has one family.** -/
theorem gather_determined_iff (b : Bus) :
    (∀ es, b.Enumerates es → gather es = b.activeTopics) ↔ b.IsUniform := by
  constructor
  · intro hsame
    exact isUniform_of_any_first fun s hs => hsame _ (enumerates_from hs)
  · intro huniform es hes
    rw [activeTopics_eq_gather]
    refine gather_perm hes.perm ?_
    intro t p q hp hq
    obtain ⟨id, i, hasks, rfl⟩ := mem_entries_iff.mp (hes.perm.mem_iff.mp hp)
    obtain ⟨id', i', hasks', rfl⟩ := mem_entries_iff.mp (hes.perm.mem_iff.mp hq)
    exact huniform t id i id' i' hasks hasks'

/-! ## A table in another order -/

/-- The second bus is the first one with its sessions in another order. -/
structure Reordered (b b' : Bus) : Prop where
  capacity : b'.capacity = b.capacity
  patience : b'.patience = b.patience
  sessions : b.sessions.Perm b'.sessions
  departed : b.departed.Perm b'.departed

theorem Reordered.asks_iff (h : b.Reordered b') (id : SessionId) (t : Topic) (i : Interest) :
    b'.Asks id t i ↔ b.Asks id t i := by
  rw [Bus.asks_iff, Bus.asks_iff]
  simp only [h.sessions.mem_iff]

theorem Reordered.sensorsOn (h : b.Reordered b') (t : Topic) : b'.sensorsOn t = b.sensorsOn t :=
  sensorsOn_congr fun id i => h.asks_iff id t i

theorem Reordered.activeTopics (h : b.Reordered b') (huniform : b.IsUniform) :
    b'.activeTopics = b.activeTopics := by
  have hes : b.Enumerates (b'.sessions.flatMap Session.topics) := by
    refine ⟨b'.sessions, b'.sessions.map Session.topics, h.sessions.symm, ?_, rfl⟩
    rw [List.forall₂_map_left_iff]
    exact List.forall₂_same.mpr fun s _ => .refl s.topics
  rw [activeTopics_eq_gather b']
  exact (gather_determined_iff b).mpr huniform _ hes

/-- The bus with one of its sessions first. -/
def beginning (b : Bus) (s : Session) : Bus := { b with sessions := s :: b.sessions.erase s }

theorem reordered_beginning {s : Session} (hs : s ∈ b.sessions) : b.Reordered (b.beginning s) :=
  ⟨rfl, rfl, List.perm_cons_erase hs, .refl _⟩

theorem isUniform_of_activeTopics (h : ∀ b', b.Reordered b' → b'.activeTopics = b.activeTopics) :
    b.IsUniform := by
  apply isUniform_of_any_first
  intro s hs
  have hsame := h _ (reordered_beginning hs)
  rw [activeTopics_eq_gather (b.beginning s)] at hsame
  exact hsame

/-- Everybody is told the same in every order, the same sessions are evicted, and it takes as
long. -/
theorem Reordered.deliver (h : b.Reordered b') (news : Session → Option Event) :
    (b.deliver news).1.Reordered (b'.deliver news).1 ∧
      (b'.deliver news).2.delivered = (b.deliver news).2.delivered ∧
      (b.deliver news).2.evicted.Perm (b'.deliver news).2.evicted ∧
      (b'.deliver news).2.waited = (b.deliver news).2.waited := by
  have houtcomes : (b.sessions.map fun s => s.tell b.capacity (news s)).Perm
      (b'.sessions.map fun s => s.tell b'.capacity (news s)) := by
    rw [h.capacity]
    exact h.sessions.map _
  have hevicted := houtcomes.filterMap Session.Outcome.evicted?
  refine ⟨⟨h.capacity, h.patience, houtcomes.filterMap _, h.departed.append hevicted⟩,
    (houtcomes.countP_eq _).symm, hevicted.map _, ?_⟩
  show (if List.any _ _ then b'.patience else 0) = if List.any _ _ then b.patience else 0
  rw [h.patience, houtcomes.any_eq]

end Bus

namespace Gateway

variable {g g' : Gateway}

/-- The second gateway is the first one with its table of sessions in another order. -/
def Reordered (g g' : Gateway) : Prop := ∃ b, g.bus.Reordered b ∧ g' = { g with bus := b }

theorem Reordered.publish (h : g.Reordered g') (b : Batch) :
    (g.publish b).1.Reordered (g'.publish b).1 := by
  obtain ⟨bus, hbus, rfl⟩ := h
  obtain ⟨hdelivered, -, -, hwaited⟩ := hbus.deliver (·.share b)
  refine ⟨_, hdelivered, ?_⟩
  have hwaited : (bus.publish b).2.waited = (g.bus.publish b).2.waited := hwaited
  unfold Gateway.publish
  simp only [hwaited]
  rfl

theorem Reordered.publishFrom (h : g.Reordered g') (b : Batch) :
    (g.publishFrom b).1.Reordered (g'.publishFrom b).1 := by
  unfold Gateway.publishFrom
  split
  · exact h
  · exact h.publish b

theorem Reordered.broadcast (h : g.Reordered g') (e : Event) :
    (g.broadcast e).1.Reordered (g'.broadcast e).1 := by
  obtain ⟨bus, hbus, rfl⟩ := h
  obtain ⟨hdelivered, -, -, hwaited⟩ := hbus.deliver fun _ => some e
  refine ⟨_, hdelivered, ?_⟩
  have hwaited : (bus.broadcast e).2.waited = (g.bus.broadcast e).2.waited := hwaited
  unfold Gateway.broadcast
  simp only [hwaited]
  rfl

theorem Reordered.call (h : g.Reordered g') (n : Nat) (c : Adapter.Call) :
    (g.call n c).1.Reordered (g'.call n c).1 := by
  obtain ⟨bus, hbus, rfl⟩ := h
  cases ha : g.adapters[n]? with
  | none =>
    rw [(call_of_absent ha c).1, (call_of_absent (g := { g with bus }) ha c).1]
    exact ⟨bus, hbus, rfl⟩
  | some a =>
    rw [call_eq ha, call_eq (g := { g with bus }) ha]
    have hnoted : (g.noting n c (a.ask g.clock.wall c)).Reordered
        (noting { g with bus } n c (a.ask g.clock.wall c)) := ⟨bus, hbus, rfl⟩
    show Reordered (List.foldl _ _ (a.ask g.clock.wall c).batches)
      (List.foldl _ _ (a.ask g.clock.wall c).batches)
    generalize g.noting n c (a.ask g.clock.wall c) = noted at hnoted ⊢
    generalize noting { g with bus } n c (a.ask g.clock.wall c) = noted' at hnoted ⊢
    induction (a.ask g.clock.wall c).batches generalizing noted noted' with
    | nil => exact hnoted
    | cons b rest ih => exact ih _ _ (hnoted.publishFrom b)

theorem Reordered.request (h : g.Reordered g') (t : Topic) (p : Protocol) (c : Adapter.Call) :
    (g.request t p c).1.Reordered (g'.request t p c).1 := by
  have hroutes : g'.routes = g.routes := by
    obtain ⟨bus, -, rfl⟩ := h
    rfl
  rcases request_cases g t p c with ⟨hn, hsame, -⟩ | ⟨n, hn, hcall, -⟩
  · rcases request_cases g' t p c with ⟨-, hsame', -⟩ | ⟨n', hn', -⟩
    · rw [hsame, hsame']
      exact h
    · rw [hroutes, hn] at hn'
      cases hn'
  · rcases request_cases g' t p c with ⟨hn', -⟩ | ⟨n', hn', hcall', -⟩
    · rw [hroutes, hn] at hn'
      cases hn'
    · rw [hroutes, hn] at hn'
      obtain rfl := Option.some.inj hn'
      rw [hcall, hcall']
      exact h.call n c

theorem Reordered.captureBaseline (h : g.Reordered g') (topics : List (Topic × Interest)) :
    (g.captureBaseline topics).Reordered (g'.captureBaseline topics) := by
  unfold Gateway.captureBaseline
  induction topics generalizing g g' with
  | nil => exact h
  | cons e rest ih => exact ih (h.request e.1 e.2.protocol _)

theorem Reordered.announceRecording (h : g.Reordered g') :
    g.announceRecording.1.Reordered g'.announceRecording.1 ∧
      g'.announceRecording.2 = g.announceRecording.2 := by
  have hstatus : g'.recorder.status = g.recorder.status := by
    obtain ⟨bus, -, rfl⟩ := h
    rfl
  unfold Gateway.announceRecording
  simp only [hstatus]
  exact ⟨h.broadcast _, trivial⟩

/-- A recording that starts does the same in every order if it begins with the same topics. -/
theorem Reordered.startRecording (h : g.Reordered g')
    (hactive : g'.bus.activeTopics = g.bus.activeTopics) :
    g.startRecording.1.Reordered g'.startRecording.1 ∧
      g'.startRecording.2 = g.startRecording.2 := by
  obtain ⟨bus, hbus, rfl⟩ := h
  have hinterests : Gateway.activeInterests { g with bus } = g.activeInterests := by
    have hactive : bus.activeTopics = g.bus.activeTopics := hactive
    unfold Gateway.activeInterests
    simp only [hactive, hbus.sensorsOn]
  unfold Gateway.startRecording
  rw [hinterests]
  cases hstart : g.recorder.start? g.clock.wall g.activeInterests with
  | none => exact ⟨⟨bus, hbus, rfl⟩, rfl⟩
  | some recorder =>
    have hstarted : Reordered { g with recorder } { g with bus, recorder } := ⟨bus, hbus, rfl⟩
    exact (hstarted.captureBaseline recorder.tracked.toList).announceRecording

theorem tracked_startRecording (hidle : g.recorder.isRecording = false) :
    g.startRecording.1.recorder.tracked = g.activeInterests := by
  cases hr : g.recorder.start? g.clock.wall g.activeInterests with
  | none =>
    rw [Recorder.start?_eq_none hr] at hidle
    cases hidle
  | some r =>
    obtain ⟨-, -, htracked⟩ := Recorder.start?_eq_some hr
    have hcalm : Calm { g with recorder := r } g.startRecording.1 := by
      unfold Gateway.startRecording
      rw [hr]
      exact (calm_captureBaseline _ _).trans (calm_announceRecording _)
    exact hcalm.tracked.trans htracked

/-- The families of what is tracked at the start are those of the active topics. -/
theorem activeTopics_of_activeInterests {g g' : Gateway}
    (h : g'.activeInterests = g.activeInterests) : g'.bus.activeTopics = g.bus.activeTopics := by
  have hfamilies (g : Gateway) (t : Topic) :
      g.bus.activeTopics.get? t = (g.activeInterests.get? t).map (·.protocol) := by
    rw [activeInterests, SortedMap.get?_mapValues, Option.map_map]
    exact Option.map_id'.symm
  apply SortedMap.ext
  intro t
  rw [hfamilies, hfamilies, h]

/-- A recording starts with the same topics, families, adapters and values in two gateways. -/
structure SameSnapshot (g g' : Gateway) : Prop where
  activeTopics : g'.bus.activeTopics = g.bus.activeTopics
  tracked : g'.startRecording.1.recorder.tracked = g.startRecording.1.recorder.tracked
  calls : g'.startRecording.1.calls = g.startRecording.1.calls
  records : g'.startRecording.1.recorder.records = g.startRecording.1.recorder.records
  status : g'.startRecording.2 = g.startRecording.2
  /-- Everybody is told the same, and the same sessions are evicted. -/
  sessions : g.startRecording.1.bus.Reordered g'.startRecording.1.bus

/-- **The snapshot follows the order of the table.** For every gateway: the active topics are the
same in all orders in which the table may be gone through just when every topic is asked for under
one family. Just then a recording that starts does the same in every order, and, where none runs, it
tracks the same in every order. The topics that are active and their sensors are the same always. -/
theorem snapshot_follows_the_order (g : Gateway) :
    ((∀ es, g.bus.Enumerates es → Bus.gather es = g.bus.activeTopics) ↔ g.bus.IsUniform) ∧
      ((∀ g', g.Reordered g' → SameSnapshot g g') ↔ g.bus.IsUniform) ∧
      (g.recorder.isRecording = false →
        ((∀ g', g.Reordered g' →
          g'.startRecording.1.recorder.tracked = g.startRecording.1.recorder.tracked) ↔
            g.bus.IsUniform)) ∧
      ∀ g', g.Reordered g' →
        (∀ t, (g'.bus.activeTopics.get? t).isSome = (g.bus.activeTopics.get? t).isSome) ∧
        ∀ t, g'.bus.sensorsOn t = g.bus.sensorsOn t := by
  have hsame (huniform : g.bus.IsUniform) (g' : Gateway) (h : g.Reordered g') :
      SameSnapshot g g' := by
    have hstart := h.startRecording
    obtain ⟨bus, hbus, rfl⟩ := h
    have hactive := hbus.activeTopics huniform
    obtain ⟨⟨after, hafter, heq⟩, hstatus⟩ := hstart hactive
    exact ⟨hactive, by rw [heq], by rw [heq], by rw [heq], hstatus, by rw [heq]; exact hafter⟩
  refine ⟨Bus.gather_determined_iff g.bus, ⟨?_, hsame⟩, ?_, ?_⟩
  · intro h
    exact Bus.isUniform_of_activeTopics fun bus hbus =>
      (h { g with bus } ⟨bus, hbus, rfl⟩).activeTopics
  · intro hidle
    refine ⟨?_, fun huniform g' h => (hsame huniform g' h).tracked⟩
    intro h
    refine Bus.isUniform_of_activeTopics fun bus hbus => ?_
    have htracked := h { g with bus } ⟨bus, hbus, rfl⟩
    rw [tracked_startRecording hidle, tracked_startRecording (g := { g with bus }) hidle] at htracked
    exact activeTopics_of_activeInterests htracked
  · rintro g' ⟨bus, hbus, rfl⟩
    refine ⟨fun t => ?_, hbus.sensorsOn⟩
    rw [Bool.eq_iff_iff, Bus.isSome_activeTopics_iff, Bus.isSome_activeTopics_iff]
    exact exists_congr fun id => exists_congr fun i => hbus.asks_iff id t i

/-- A run that asks for each topic under one family leaves a table in which they are. -/
theorem isUniform_run (r : Run) (hone : ∀ t, ∃ p, ∀ op ∈ r.ops, op.KeepsTo t p) :
    r.gateway.bus.IsUniform := by
  intro t id i id' i' hasks hasks'
  obtain ⟨p, ho⟩ := hone t
  have hserved := served_run_only r ho
  exact (hserved.family ⟨rfl, rfl⟩ hasks).trans (hserved.family ⟨rfl, rfl⟩ hasks').symm

/-- The gateway with its table turned around. -/
def reversed (g : Gateway) : Gateway :=
  { g with bus := { g.bus with sessions := g.bus.sessions.reverse } }

theorem reordered_reversed (g : Gateway) : g.Reordered g.reversed :=
  ⟨{ g.bus with sessions := g.bus.sessions.reverse },
    ⟨rfl, rfl, (List.reverse_perm _).symm, .refl _⟩, rfl⟩

/-- A boiler that two families serve. They read its heat at two places. -/
def doubleBoiler : Config where
  servers := [{
    id := some "plant"
    url := "http://plant"
    loopback := [⟨"boiler", .modbus, [⟨some 7, "heat", .int 60⟩]⟩,
      ⟨"boiler", .opcua, [⟨some 7, "heat", .int 75⟩]⟩] }]

/-- Two sessions ask for the heat of the boiler, under one family. -/
def agreeing : Run where
  config := doubleBoiler
  clock := ⟨⟨0, 0⟩, 0⟩
  more := []
  ops := [.openSession ⟨1⟩, .openSession ⟨2⟩,
    .subscribe ⟨1⟩ ⟨"plant", "boiler"⟩ .modbus (.ofList [.name "heat"]),
    .subscribe ⟨2⟩ ⟨"plant", "boiler"⟩ .modbus (.ofList [.id 7])]
  admissible := by decide

/-- With the second session first the recording begins with the same value. -/
theorem agreeing_same_snapshot :
    let g := agreeing.gateway
    g.reversed.bus.sessions.map (·.id) = [⟨2⟩, ⟨1⟩] ∧ SameSnapshot g g.reversed ∧
      g.reversed.startRecording.1.recorder.records.map (·.value) = [.int 60] := by
  intro g
  have hkeeps : ∀ t, ∀ op ∈ agreeing.ops, op.KeepsTo t .modbus := by
    intro t
    simp [agreeing, Op.KeepsTo]
  have huniform : g.bus.IsUniform := isUniform_run agreeing fun t => ⟨.modbus, hkeeps t⟩
  have hsame := (snapshot_follows_the_order agreeing.gateway).2.1.mpr huniform
  exact ⟨by decide, hsame g.reversed (reordered_reversed g), by decide⟩

/-- Two sessions ask for the heat of the boiler, each under a family of its own. -/
def divided : Run where
  config := doubleBoiler
  clock := ⟨⟨0, 0⟩, 0⟩
  more := []
  ops := [.openSession ⟨1⟩, .openSession ⟨2⟩,
    .subscribe ⟨1⟩ ⟨"plant", "boiler"⟩ .modbus (.ofList [.name "heat"]),
    .subscribe ⟨2⟩ ⟨"plant", "boiler"⟩ .opcua (.ofList [.name "heat"])]
  admissible := by decide

/-- With the second session first another family is active and tracked, another adapter is asked for
all values, and the recording begins with another one. -/
theorem two_families_two_baselines :
    let g := divided.gateway
    let g' := g.reversed
    let started := g.startRecording.1
    let started' := g'.startRecording.1
    g.Reordered g' ∧
      g.bus.activeTopics.toList = [(⟨"plant", "boiler"⟩, .modbus)] ∧
      g'.bus.activeTopics.toList = [(⟨"plant", "boiler"⟩, .opcua)] ∧
      started.recorder.tracked.toList.map (·.2.protocol) = [.modbus] ∧
      started'.recorder.tracked.toList.map (·.2.protocol) = [.opcua] ∧
      started.calls.map (·.adapter) = [0, 1, 0] ∧ started'.calls.map (·.adapter) = [0, 1, 1] ∧
      started.recorder.records.map (·.value) = [.int 60] ∧
      started'.recorder.records.map (·.value) = [.int 75] := by
  intro g g' started started'
  exact ⟨reordered_reversed g, by decide⟩

end Gateway

end SensorGateway
