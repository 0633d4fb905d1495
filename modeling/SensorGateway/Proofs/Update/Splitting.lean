/-
# SensorGateway.Proofs.Update.Splitting -- a mixed list of updates by topic

Splitting collects the updates in a map from topics to lists. What the map holds at a topic is the
part of the list with this topic, in its order (`Batch.get?_foldl_addTo`), and the entries of the
map are the batches (`Batch.mem_splitByTopic`). So a split depends on these parts only
(`Batch.splitByTopic_congr`), and its batches put together have the same parts again.

Topics rise in the order of their bytes, which is the order of their characters
(`Text.Utf8.encode_lt_encode`).
-/
import SensorGateway.Proofs.Text.Bytes
import SensorGateway.Update

namespace SensorGateway

/-! ## Topics by their bytes -/

namespace Topic

/-- The server's bytes are smaller, or it is the same server and the object's bytes are. -/
def Precedes (s t : Topic) : Prop :=
  Text.Utf8.encode s.server < Text.Utf8.encode t.server ∨
    (s.server = t.server ∧ Text.Utf8.encode s.object < Text.Utf8.encode t.object)

theorem precedes_of_compare {s t : Topic} (h : compare s t = .lt) : s.Precedes t := by
  have hlt {a b : String} (h : compare a b = .lt) : Text.Utf8.encode a < Text.Utf8.encode b :=
    Text.Utf8.encode_lt_encode.mpr (compareOfLessAndEq_eq_lt.mp h)
  have hlex : (compare s.server t.server).then (compare s.object t.object) = .lt := h
  rcases Ordering.then_eq_lt.mp hlex with hserver | ⟨hserver, hobject⟩
  · exact .inl (hlt hserver)
  · exact .inr ⟨Std.LawfulEqOrd.eq_of_compare hserver, hlt hobject⟩

end Topic

/-- The lists of a map put together, as far as they are those of one key. -/
theorem SortedMap.flatMap_toList_of_key {κ α : Type} [Ord κ] [DecidableEq κ] [Std.TransOrd κ]
    (m : SortedMap κ (List α)) (k : κ) :
    (m.toList.flatMap fun e => if e.1 = k then e.2 else []) = (m.get? k).getD [] := by
  obtain ⟨l, hl⟩ := m
  show (l.flatMap fun e => if e.1 = k then e.2 else []) = (find? k l).getD []
  induction l with
  | nil => rfl
  | cons e rest ih =>
    obtain ⟨he, hrest⟩ := List.pairwise_cons.mp hl
    rw [List.flatMap_cons, ih hrest, find?]
    by_cases hk : k = e.1
    · subst hk
      rw [if_pos rfl, if_pos rfl, find?_eq_none_of_lt he, Option.getD_none, List.append_nil,
        Option.getD_some]
    · rw [if_neg (Ne.symm hk), if_neg hk, List.nil_append]

namespace Batch

variable {p : Protocol} {us vs : List Update} {b : Batch} {t : Topic}

/-! ## What is collected -/

/-- At each topic the map holds what it held before, and behind it the updates with this topic. -/
theorem get?_foldl_addTo (us : List Update) (groups : SortedMap Topic (List Update)) (t : Topic) :
    (us.foldl addTo groups).get? t =
      if us.filter (·.topic = t) = [] then groups.get? t
      else some ((groups.get? t).getD [] ++ us.filter (·.topic = t)) := by
  induction us generalizing groups with
  | nil => rfl
  | cons u us ih =>
    rw [List.foldl_cons, ih, addTo, SortedMap.get?_insert]
    by_cases hu : u.topic = t
    · subst hu
      rw [List.filter_cons_of_pos (by simp), if_pos rfl, if_neg (List.cons_ne_nil _ _)]
      split
      · next hnone => rw [hnone]
      · rw [Option.getD_some, List.append_assoc, List.singleton_append]
    · rw [List.filter_cons_of_neg (by simpa using hu), if_neg (Ne.symm hu)]

/-- The groups of a list: each topic with its updates, if there are any. -/
theorem get?_groups (us : List Update) (t : Topic) :
    (us.foldl addTo .empty).get? t =
      if us.filter (·.topic = t) = [] then none else some (us.filter (·.topic = t)) := by
  rw [get?_foldl_addTo, SortedMap.get?_empty, Option.getD_none, List.nil_append]

/-- The batches of a list are the parts of it that have a topic in common. -/
theorem mem_splitByTopic :
    b ∈ splitByTopic p us ↔
      b.protocol = p ∧ b.updates ≠ [] ∧ b.updates = us.filter (·.topic = b.topic) := by
  have hgroup : b ∈ splitByTopic p us ↔
      b.protocol = p ∧ (b.topic, b.updates) ∈ (us.foldl addTo .empty).toList := by
    unfold splitByTopic
    rw [List.mem_map]
    constructor
    · rintro ⟨⟨t, l⟩, hmem, rfl⟩
      exact ⟨rfl, hmem⟩
    · rintro ⟨rfl, hmem⟩
      exact ⟨_, hmem, rfl⟩
  rw [hgroup, SortedMap.mem_toList_iff, get?_groups]
  refine and_congr_right fun _ => ?_
  split
  · next hnone => exact iff_of_false nofun fun h => h.1 (h.2.trans hnone)
  · next hsome =>
    rw [Option.some.injEq]
    exact ⟨fun h => ⟨h ▸ hsome, h.symm⟩, fun h => h.2.symm⟩

/-- Lists that have the same updates of each topic in the same order are split alike. -/
theorem splitByTopic_congr (h : ∀ t, us.filter (·.topic = t) = vs.filter (·.topic = t)) :
    splitByTopic p us = splitByTopic p vs := by
  have hgroups : us.foldl addTo .empty = vs.foldl addTo .empty :=
    SortedMap.ext fun t => by rw [get?_groups, get?_groups, h t]
  rw [splitByTopic, splitByTopic, hgroups]

/-! ## What is given back -/

/-- Of a list split and put together again, each topic has its updates in their order. -/
theorem filter_flatMap_splitByTopic (p : Protocol) (us : List Update) (t : Topic) :
    ((splitByTopic p us).flatMap (·.updates)).filter (·.topic = t) =
      us.filter (·.topic = t) := by
  have hpart {e : Topic × List Update} (he : e ∈ (us.foldl addTo .empty).toList) :
      e.2.filter (·.topic = t) = if e.1 = t then e.2 else [] := by
    have hmem : ofTopic p e.1 e.2 ∈ splitByTopic p us := List.mem_map_of_mem he
    obtain ⟨-, -, hupdates⟩ := mem_splitByTopic.mp hmem
    have htopic (u : Update) (hu : u ∈ e.2) : u.topic = e.1 := by
      have hu : u ∈ us.filter (·.topic = e.1) := hupdates ▸ hu
      exact of_decide_eq_true (List.mem_filter.mp hu).2
    split
    · next heq =>
      exact List.filter_eq_self.mpr fun u hu => decide_eq_true ((htopic u hu).trans heq)
    · next hne =>
      exact List.filter_eq_nil_iff.mpr fun u hu => by
        rw [decide_eq_true_eq, htopic u hu]
        exact hne
  calc ((splitByTopic p us).flatMap (·.updates)).filter (·.topic = t)
      = (us.foldl addTo .empty).toList.flatMap fun e => e.2.filter (·.topic = t) := by
        rw [splitByTopic, List.flatMap_map, List.filter_flatMap]
        rfl
    _ = (us.foldl addTo .empty).toList.flatMap fun e => if e.1 = t then e.2 else [] :=
        congrArg List.flatten (List.map_congr_left fun _ he => hpart he)
    _ = us.filter (·.topic = t) := by
        rw [SortedMap.flatMap_toList_of_key, get?_groups]
        split
        · next hnone => rw [hnone, Option.getD_none]
        · rw [Option.getD_some]

/-- Nothing is lost and nothing comes twice. -/
theorem perm_flatMap_splitByTopic (p : Protocol) (us : List Update) :
    ((splitByTopic p us).flatMap (·.updates)).Perm us := by
  refine List.perm_iff_count.mpr fun u => ?_
  have hcount (l : List Update) : (l.filter (·.topic = u.topic)).count u = l.count u :=
    List.count_filter (decide_eq_true rfl)
  rw [← hcount, filter_flatMap_splitByTopic, hcount]

/-! ## The law -/

/-- Batches that divide a list of updates by topic and keep its order. -/
structure Divides (p : Protocol) (us : List Update) (bs : List Batch) : Prop where
  /-- Each topic has one batch, and topics rise. -/
  rising : bs.Pairwise fun b c => b.topic.Precedes c.topic
  protocol : ∀ b ∈ bs, b.protocol = p
  ne_nil : ∀ b ∈ bs, b.updates ≠ []
  /-- A batch has updates of its own topic only. -/
  own : ∀ b ∈ bs, ∀ u ∈ b.updates, u.server = b.server ∧ u.object = b.object
  /-- A batch has all of them, in their order. -/
  updates : ∀ b ∈ bs, b.updates = us.filter (·.topic = b.topic)
  /-- A topic has a batch when it has an update. -/
  topics : ∀ t, (∃ b ∈ bs, b.topic = t) ↔ us.filter (·.topic = t) ≠ []

theorem divides_splitByTopic (p : Protocol) (us : List Update) :
    Divides p us (splitByTopic p us) where
  rising := List.pairwise_map.mpr
    ((us.foldl addTo .empty).increasing.imp fun h => Topic.precedes_of_compare h)
  protocol _ hb := (mem_splitByTopic.mp hb).1
  ne_nil _ hb := (mem_splitByTopic.mp hb).2.1
  own b hb u hu := by
    have hu : u ∈ us.filter (·.topic = b.topic) := (mem_splitByTopic.mp hb).2.2 ▸ hu
    have htopic : u.topic = b.topic := of_decide_eq_true (List.mem_filter.mp hu).2
    exact ⟨congrArg Topic.server htopic, congrArg Topic.object htopic⟩
  updates _ hb := (mem_splitByTopic.mp hb).2.2
  topics t := by
    constructor
    · rintro ⟨b, hb, rfl⟩
      obtain ⟨-, hne, hupdates⟩ := mem_splitByTopic.mp hb
      exact hupdates ▸ hne
    · intro hne
      exact ⟨ofTopic p t (us.filter (·.topic = t)), mem_splitByTopic.mpr ⟨rfl, hne, rfl⟩, rfl⟩

/-- **Splitting is a stable partition.** The batches divide the list by topic, each update is in
them as often as in the list, the updates of a topic keep their order, and what was split and put
together is split into the same batches. -/
theorem splitByTopic_is_stable_partition (p : Protocol) (us : List Update) :
    Divides p us (splitByTopic p us) ∧
      ((splitByTopic p us).flatMap (·.updates)).Perm us ∧
      (∀ t, ((splitByTopic p us).flatMap (·.updates)).filter (·.topic = t) =
        us.filter (·.topic = t)) ∧
      splitByTopic p ((splitByTopic p us).flatMap (·.updates)) = splitByTopic p us :=
  ⟨divides_splitByTopic p us, perm_flatMap_splitByTopic p us, filter_flatMap_splitByTopic p us,
    splitByTopic_congr (filter_flatMap_splitByTopic p us)⟩

end Batch

end SensorGateway
