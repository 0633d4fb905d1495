/-
# SensorGateway.Proofs.Recorder.Log -- the buffer is the end of a log

A log without bounds (`Log`) follows the same operations as a recorder: it keeps every
update since it was last emptied, and counts nothing. Its rows (`Log.rows`) stand under the
latest time up to then. `Recorder.buffer_is_end_of_log` says that the buffer of a recorder
is the end of that log: as many rows as it has room for, with the drop counter telling how
many came before them, and with the size being the sum of their sizes as long as that fits
into a word.

The recorder updates its buffer, its size, its counter and its last time by hand, one
update after the other. `Recorder.Holds` ties each of them to the updates in the log, and
`Recorder.Holds.append` shows that one more update keeps that; batches, operations and runs
are inductions over it.
-/
import SensorGateway.Proofs.Recorder.Tracking

namespace SensorGateway

namespace Log

/-! ## The latest time -/

/-- The latest of a time and the times of some updates. -/
def latest (us : List Update) (t : Instant) : Instant := us.foldr (fun u m => u.time.later m) t

theorem latest_concat (us : List Update) (u : Update) (t : Instant) :
    latest (us ++ [u]) t = (latest us u.time).later t := by
  unfold latest
  rw [List.foldr_append]
  show us.foldr _ (u.time.later t) = _
  induction us with
  | nil => rfl
  | cons v us ih =>
    simp only [List.foldr_cons]
    rw [ih, Instant.later_assoc]

theorem le_latest (us : List Update) (t : Instant) : t ≤ latest us t := by
  induction us with
  | nil => exact Instant.le_refl t
  | cons u us ih => exact Instant.le_trans ih (Instant.le_later_right u.time _)

theorem time_le_latest {us : List Update} {u : Update} (hu : u ∈ us) (t : Instant) :
    u.time ≤ latest us t := by
  induction us with
  | nil => cases hu
  | cons v us ih =>
    rcases List.mem_cons.mp hu with rfl | hu
    · exact Instant.le_later_left u.time _
    · exact Instant.le_trans (ih hu) (Instant.le_later_right v.time _)

/-- It is one of those times, and none of them is later. -/
theorem latest_spec (us : List Update) (t : Instant) :
    (latest us t = t ∨ ∃ u ∈ us, latest us t = u.time) ∧
      t ≤ latest us t ∧ ∀ u ∈ us, u.time ≤ latest us t := by
  refine ⟨?_, le_latest us t, fun u hu => time_le_latest hu t⟩
  induction us with
  | nil => exact Or.inl rfl
  | cons v us ih =>
    show v.time.later (latest us t) = t ∨ ∃ u ∈ v :: us, v.time.later (latest us t) = u.time
    unfold Instant.later
    split
    · exact Or.inr ⟨v, List.mem_cons_self, rfl⟩
    · rcases ih with h | ⟨u, hu, h⟩
      · exact Or.inl h
      · exact Or.inr ⟨u, List.mem_cons_of_mem v hu, h⟩

theorem latest_le {us : List Update} {t b : Instant} (ht : t ≤ b) (hus : ∀ u ∈ us, u.time ≤ b) :
    latest us t ≤ b := by
  induction us with
  | nil => exact ht
  | cons u us ih =>
    obtain ⟨hu, hus⟩ := List.forall_mem_cons.mp hus
    exact Instant.later_le hu (ih hus)

/-! ## Rows -/

/-- The records of some updates, each under the latest time up to then. -/
def rows (us : List Update) : List Record :=
  us.mapIdx fun i u => Record.ofUpdate u (latest (us.take i) u.time)

@[simp] theorem length_rows (us : List Update) : (rows us).length = us.length :=
  List.length_mapIdx

/-- The rows of some updates look only at the updates before each of them. -/
theorem rows_append (us vs : List Update) :
    rows (us ++ vs) = rows us ++
      vs.mapIdx fun i v => Record.ofUpdate v (latest (us ++ vs.take i) v.time) := by
  unfold rows
  rw [List.mapIdx_append]
  congr 1
  · apply List.mapIdx_eq_mapIdx_iff.mpr
    intro i hi
    rw [List.take_append_of_le_length (Nat.le_of_lt hi)]
  · apply List.mapIdx_eq_mapIdx_iff.mpr
    intro i hi
    rw [Nat.add_comm, List.take_length_add_append]

theorem rows_concat (us : List Update) (u : Update) :
    rows (us ++ [u]) = rows us ++ [Record.ofUpdate u (latest us u.time)] := by
  rw [rows_append]
  simp

theorem isPrefix_rows {seen us : List Update} (h : seen <+: us) : rows seen <+: rows us := by
  obtain ⟨rest, rfl⟩ := h
  rw [rows_append]
  exact List.prefix_append _ _

/-- Rows are in order of time. -/
theorem pairwise_rows (us : List Update) :
    (rows us).Pairwise (fun a b => a.time ≤ b.time) := by
  apply List.pairwise_iff_getElem.mpr
  intro i j hi hj hij
  have hi' : i < us.length := by simpa using hi
  have hj' : j < us.length := by simpa using hj
  simp only [rows, List.getElem_mapIdx]
  show latest (us.take i) us[i].time ≤ latest (us.take j) us[j].time
  -- all times up to `i` are among those before `j`
  refine latest_le (time_le_latest ?_ _) fun u hu => time_le_latest ?_ _
  · exact List.mem_take_iff_getElem.mpr ⟨i, by omega, rfl⟩
  · exact (List.take_subset_take_left us (Nat.le_of_lt hij)) hu

/-- Updates of one moment are recorded under that moment. -/
theorem rows_of_one_moment {us : List Update} {now : Instant} (h : ∀ u ∈ us, u.time = now) :
    rows us = us.map (Record.ofUpdate · now) := by
  refine List.ext_getElem (by simp) fun i hi _ => ?_
  rw [length_rows] at hi
  simp only [rows, List.getElem_mapIdx, List.getElem_map]
  have hu : us[i].time = now := h _ (List.getElem_mem hi)
  have hlatest : latest (us.take i) us[i].time = now := by
    rcases (latest_spec (us.take i) us[i].time).1 with hlast | ⟨u, hmem, hlast⟩
    · exact hlast.trans hu
    · exact hlast.trans (h u (List.mem_of_mem_take hmem))
  rw [hlatest]

/-! ## The end of a list -/

/-- As much of the end of a list as there is room for; zero means any room. -/
def lastOf {α : Type} (room : Nat) (l : List α) : List α :=
  if room = 0 then l else l.drop (l.length - room)

theorem length_lastOf {α : Type} (room : Nat) (l : List α) :
    (lastOf room l).length = if room = 0 then l.length else min l.length room := by
  unfold lastOf
  split
  · rfl
  · rw [List.length_drop]
    omega

/-- There is room for the whole list. -/
theorem lastOf_eq_self {α : Type} {room : Nat} {l : List α} (h : room = 0 ∨ l.length ≤ room) :
    lastOf room l = l := by
  unfold lastOf
  split
  · rfl
  · next hne => rw [Nat.sub_eq_zero_of_le (h.resolve_left hne), List.drop_zero]

theorem lastOf_nil {α : Type} (room : Nat) : lastOf room ([] : List α) = [] := by
  simp [lastOf]

/-- The end of a longer list is the longer end of the list, without the first element when there
is no room for it. -/
theorem lastOf_concat {α : Type} (room : Nat) (l : List α) (a : α) :
    lastOf room (l ++ [a]) =
      if room ≠ 0 ∧ room < (lastOf room l ++ [a]).length then (lastOf room l ++ [a]).tail
      else lastOf room l ++ [a] := by
  have hlen := length_lastOf room l
  by_cases h0 : room = 0
  · simp [lastOf, h0]
  rw [if_neg h0] at hlen
  simp only [List.length_append, List.length_singleton, hlen]
  unfold lastOf
  rw [if_neg h0, if_neg h0, List.length_append, List.length_singleton]
  have hsplit : l.drop (l.length - room) ++ [a] = (l ++ [a]).drop (l.length - room) := by
    rw [List.drop_append_of_le_length (by omega)]
  rw [hsplit]
  by_cases hfull : room ≤ l.length
  · rw [if_pos ⟨h0, by omega⟩, List.tail_drop]
    congr 1
    omega
  · rw [if_neg (by omega)]
    congr 1
    omega

/-! ## Sizes -/

/-- The size of some records, however large. -/
def total (rs : List Record) : Nat := rs.foldr (fun r n => r.size.toNat + n) 0

@[simp] theorem total_nil : total [] = 0 := rfl

@[simp] theorem total_cons (r : Record) (rs : List Record) :
    total (r :: rs) = r.size.toNat + total rs := rfl

@[simp] theorem total_append (rs rs' : List Record) : total (rs ++ rs') = total rs + total rs' := by
  induction rs with
  | nil => rw [List.nil_append, total_nil, Nat.zero_add]
  | cons r rs ih => rw [List.cons_append, total_cons, total_cons, ih, Nat.add_assoc]

theorem total_le_of_sublist {rs rs' : List Record} (h : rs.Sublist rs') : total rs ≤ total rs' := by
  induction h with
  | slnil => exact Nat.le_refl _
  | cons r _ ih => rw [total_cons]; omega
  | cons_cons r _ ih => rw [total_cons, total_cons]; omega

/-- No record is without size. -/
theorem length_le_total (rs : List Record) : rs.length ≤ total rs := by
  induction rs with
  | nil => exact Nat.zero_le _
  | cons r rs ih =>
    have hr : 1 ≤ r.size.toNat := by
      unfold Record.size Record.baseSize
      rw [Word.toNat_saturate]
      have : 1 < UInt64.size := by decide
      omega
    rw [List.length_cons, total_cons]
    omega

theorem toNat_addSize (a b : UInt64) :
    (Recorder.addSize a b).toNat = min (UInt64.size - 1) (a.toNat + b.toNat) :=
  Word.toNat_saturate _

theorem toNat_subSize (a b : UInt64) : (Recorder.subSize a b).toNat = a.toNat - b.toNat := by
  unfold Recorder.subSize
  have ha := a.toNat_lt_size
  rw [Word.toNat_saturate]
  omega

/-- The buffer when the last of some rows has come and the oldest one is not yet dropped. -/
def peak (room : Nat) (rs : List Record) : List Record :=
  if room = 0 then rs else lastOf (room + 1) rs

theorem peak_concat (room : Nat) (rs : List Record) (r : Record) :
    peak room (rs ++ [r]) = lastOf room rs ++ [r] := by
  unfold peak lastOf
  by_cases h0 : room = 0
  · rw [if_pos h0, if_pos h0]
  · rw [if_neg h0, if_neg h0, if_neg (by omega), List.length_append, List.length_singleton,
      Nat.add_sub_add_right, List.drop_append_of_le_length (by omega)]

/-- The size of the buffer has fitted into a word at every update so far. -/
def Fits (room : Nat) (us : List Update) : Prop :=
  ∀ seen, seen <+: us → total (peak room (rows seen)) < UInt64.size

theorem Fits.before {room : Nat} {us : List Update} {u : Update} (h : Fits room (us ++ [u])) :
    Fits room us :=
  fun seen hseen => h seen (hseen.trans (List.prefix_append us [u]))

theorem Fits.last {room : Nat} {us : List Update} {u : Update} (h : Fits room (us ++ [u])) :
    total (lastOf room (rows us)) + (Record.ofUpdate u (latest us u.time)).size.toNat <
      UInt64.size := by
  have hlast := h (us ++ [u]) (List.prefix_refl _)
  rw [rows_concat, peak_concat, total_append] at hlast
  simpa using hlast

/-- Where all that was ever logged fits into a word, the buffer always did. -/
theorem fits_of_total {us : List Update} (h : total (rows us) < UInt64.size) (room : Nat) :
    Fits room us := by
  intro seen hseen
  have hpeak : (peak room (rows seen)).Sublist (rows us) := by
    refine List.Sublist.trans ?_ (isPrefix_rows hseen).sublist
    unfold peak lastOf
    split
    · exact List.Sublist.refl _
    · split
      · exact List.Sublist.refl _
      · exact List.drop_sublist _ _
  exact Nat.lt_of_le_of_lt (total_le_of_sublist hpeak) h

end Log

/-! ## Recorders and logs -/

/-- What can happen to a recorder. -/
inductive RecorderOp where
  | start (now : Instant) (topics : SortedMap Topic Interest)
  | stop (now : Instant)
  | clear
  | record (b : Batch)
  | track (t : Topic) (p : Protocol) (keys : KeySet)

/-- What an operation makes of a recorder. -/
def RecorderOp.act (r : Recorder) : RecorderOp → Recorder
  | .start now topics => (r.start? now topics).getD r
  | .stop now => ((r.stop? now).map (·.1)).getD r
  | .clear => r.clear
  | .record b => (r.recordBatch b).1
  | .track t p keys => (r.track t p keys).1

/-- All updates that came while something was recorded, since they were last forgotten. -/
structure Log where
  isRecording : Bool
  updates : List Update

namespace Log

/-- Nothing was recorded yet. -/
def empty : Log := ⟨false, []⟩

/-- The log after one more operation. A start that takes effect and a clear empty it. -/
def step (l : Log) : RecorderOp → Log
  | .start _ _ => if l.isRecording then l else ⟨true, []⟩
  | .stop _ => { l with isRecording := false }
  | .clear => { l with updates := [] }
  | .record b => if l.isRecording then { l with updates := l.updates ++ b.updates } else l
  | .track _ _ _ => l

theorem isRecording_step_record (l : Log) (b : Batch) :
    (l.step (.record b)).isRecording = l.isRecording := by
  show (if l.isRecording then _ else l).isRecording = l.isRecording
  split <;> rfl

theorem updates_step_record (l : Log) (b : Batch) :
    (l.step (.record b)).updates =
      if l.isRecording then l.updates ++ b.updates else l.updates := by
  show (if l.isRecording then _ else l).updates = _
  split <;> rfl

/-- The log after some operations. -/
def after (ops : List RecorderOp) : Log := ops.foldl step empty

end Log

namespace Recorder

open Log

/-- A recorder after some operations. -/
def after (c : Config.Recording) (ops : List RecorderOp) : Recorder :=
  ops.foldl RecorderOp.act (new c)

/-- The buffer of a recorder with its accounts: the records, their size, the number of those that
were dropped, and the last time. -/
def accounts (r : Recorder) : List Record × UInt64 × UInt64 × Option Instant :=
  (r.records, r.sizeBytes, r.dropped, r.lastTime)

/-- The buffer of a recorder and its accounts are those of the end of some updates. -/
structure Holds (room : UInt64) (us : List Update) (r : Recorder) : Prop where
  capacity : r.maxRecords = room
  records : r.records = lastOf room.toNat (rows us)
  time : ∀ t, stamp r.lastTime t = latest us t
  dropped : r.dropped.toNat = min (UInt64.size - 1) (us.length - r.records.length)
  size : Fits room.toNat us → r.sizeBytes.toNat = total r.records

variable {room : UInt64} {us : List Update} {r r' : Recorder}

/-- Only the room and the accounts matter. -/
theorem Holds.congr (h : Holds room us r) (hroom : r'.maxRecords = r.maxRecords)
    (haccounts : r'.accounts = r.accounts) : Holds room us r' := by
  obtain ⟨hrecords, hrest⟩ := Prod.mk.inj haccounts
  obtain ⟨hsize, hrest⟩ := Prod.mk.inj hrest
  obtain ⟨hdropped, htime⟩ := Prod.mk.inj hrest
  constructor
  case capacity => exact hroom.trans h.capacity
  case records => exact hrecords.trans h.records
  case time =>
    intro t
    rw [htime]
    exact h.time t
  case dropped =>
    rw [hdropped, hrecords]
    exact h.dropped
  case size =>
    intro hfits
    rw [hsize, hrecords]
    exact h.size hfits

theorem holds_clear (r : Recorder) : Holds r.maxRecords [] r.clear where
  capacity := rfl
  records := (lastOf_nil _).symm
  time _ := rfl
  dropped := rfl
  size _ := rfl

theorem Holds.length (h : Holds room us r) :
    r.records.length = if room.toNat = 0 then us.length else min us.length room.toNat := by
  rw [h.records, length_lastOf, length_rows]

/-! ## One more update -/

/-- A buffer is too long when it has more records than there is room for. -/
def IsOverfull (r : Recorder) : Prop := r.maxRecords ≠ 0 ∧ r.maxRecords.toNat < r.records.length

theorem trim_of_overfull (h : r.IsOverfull) :
    ∃ oldest rest, r.records = oldest :: rest ∧ r.trim = { r with
      records := rest
      sizeBytes := subSize r.sizeBytes oldest.size
      dropped := addSize r.dropped 1 } := by
  have hcond : r.maxRecords ≠ 0 ∧ r.maxRecords.toNat < r.records.length := h
  unfold trim
  rw [if_pos hcond]
  cases hr : r.records with
  | nil =>
    have hlen := h.2
    rw [hr] at hlen
    exact absurd hlen (Nat.not_lt_zero _)
  | cons oldest rest => exact ⟨oldest, rest, rfl, rfl⟩

theorem trim_of_not_overfull (h : ¬ r.IsOverfull) : r.trim = r := if_neg h

theorem maxRecords_trim (r : Recorder) : r.trim.maxRecords = r.maxRecords := by
  unfold trim
  split
  · split <;> rfl
  · rfl

theorem maxRecords_foldl_append (us : List Update) (r : Recorder) :
    (us.foldl Recorder.append r).maxRecords = r.maxRecords := by
  induction us generalizing r with
  | nil => rfl
  | cons u rest ih => exact (ih (r.append u)).trans (maxRecords_trim _)

theorem lastTime_trim (r : Recorder) : r.trim.lastTime = r.lastTime := by
  unfold trim
  split
  · split <;> rfl
  · rfl

/-- A recorder that got one more record and has not yet dropped any. -/
def grow (r : Recorder) (u : Update) (time : Instant) : Recorder :=
  { r with
    lastTime := some time
    records := r.records ++ [Record.ofUpdate u time]
    sizeBytes := addSize r.sizeBytes (Record.ofUpdate u time).size }

theorem Holds.append_eq (h : Holds room us r) (u : Update) :
    r.append u = (r.grow u (latest us u.time)).trim := by
  rw [← h.time]
  rfl

theorem Holds.isOverfull_grow_iff (h : Holds room us r) (u : Update) (time : Instant) :
    (r.grow u time).IsOverfull ↔
      room.toNat ≠ 0 ∧ room.toNat < (r.records ++ [Record.ofUpdate u time]).length := by
  unfold IsOverfull grow
  simp only [h.capacity, ne_eq, ← UInt64.toNat_inj, UInt64.toNat_zero]

/-- The records after one more update. -/
theorem Holds.records_append (h : Holds room us r) (u : Update) :
    (r.append u).records = lastOf room.toNat (rows (us ++ [u])) := by
  rw [h.append_eq, rows_concat, lastOf_concat, ← h.records]
  by_cases hfull : (r.grow u (latest us u.time)).IsOverfull
  · rw [if_pos ((h.isOverfull_grow_iff u _).mp hfull)]
    obtain ⟨oldest, rest, hcons, htrim⟩ := trim_of_overfull hfull
    have hgrown : r.records ++ [Record.ofUpdate u (latest us u.time)] = oldest :: rest := hcons
    rw [htrim, hgrown]
    rfl
  · rw [if_neg (mt (h.isOverfull_grow_iff u _).mpr hfull), trim_of_not_overfull hfull]
    rfl

/-- The size after one more update. -/
theorem Holds.size_append (h : Holds room us r) (u : Update) (hfits : Fits room.toNat (us ++ [u])) :
    (r.append u).sizeBytes.toNat = total (r.append u).records := by
  rw [h.append_eq]
  have hlast := hfits.last
  rw [← h.records] at hlast
  -- with the new record and before any is dropped, the sum is exact
  have hgrown : (r.grow u (latest us u.time)).sizeBytes.toNat =
      total (r.grow u (latest us u.time)).records := by
    show (addSize r.sizeBytes _).toNat = total (r.records ++ [_])
    rw [toNat_addSize, h.size hfits.before, total_append, total_cons, total_nil]
    omega
  by_cases hfull : (r.grow u (latest us u.time)).IsOverfull
  · obtain ⟨oldest, rest, hcons, htrim⟩ := trim_of_overfull hfull
    rw [htrim]
    show (subSize _ oldest.size).toNat = total rest
    rw [toNat_subSize, hgrown, hcons, total_cons]
    omega
  · rw [trim_of_not_overfull hfull]
    exact hgrown

/-- The drop counter after one more update. -/
theorem Holds.dropped_append (h : Holds room us r) (u : Update) :
    (r.append u).dropped.toNat =
      min (UInt64.size - 1) (us.length + 1 - (r.append u).records.length) := by
  rw [h.append_eq]
  have hlen := h.length
  have hdropped := h.dropped
  have hfull_iff := h.isOverfull_grow_iff u (latest us u.time)
  rw [List.length_append, List.length_singleton] at hfull_iff
  by_cases hfull : (r.grow u (latest us u.time)).IsOverfull
  · obtain ⟨hroom, hlt⟩ := hfull_iff.mp hfull
    rw [if_neg hroom] at hlen
    obtain ⟨oldest, rest, hcons, htrim⟩ := trim_of_overfull hfull
    have hrest : rest.length = r.records.length := by
      have hgrown : r.records ++ [Record.ofUpdate u (latest us u.time)] = oldest :: rest := hcons
      have := congrArg List.length hgrown
      simpa using this.symm
    rw [htrim]
    show (addSize r.dropped 1).toNat = min _ (us.length + 1 - rest.length)
    rw [toNat_addSize, hdropped, hrest, show (1 : UInt64).toNat = 1 from rfl]
    omega
  · rw [trim_of_not_overfull hfull]
    show r.dropped.toNat = min _ (us.length + 1 - (r.records ++ [_]).length)
    rw [hdropped, List.length_append, List.length_singleton]
    omega

/-- One more update is one more row of the log. -/
theorem Holds.append (h : Holds room us r) (u : Update) : Holds room (us ++ [u]) (r.append u) where
  capacity := by
    rw [h.append_eq, maxRecords_trim]
    exact h.capacity
  records := h.records_append u
  time t := by
    rw [h.append_eq, latest_concat, lastTime_trim]
    rfl
  dropped := by
    rw [List.length_append]
    exact h.dropped_append u
  size := h.size_append u

theorem Holds.foldl_append (h : Holds room us r) (vs : List Update) :
    Holds room (us ++ vs) (vs.foldl Recorder.append r) := by
  induction vs generalizing us r with
  | nil => rwa [List.append_nil]
  | cons v vs ih =>
    have hnext : Holds room (us ++ [v]) (r.append v) := h.append v
    rw [List.append_cons]
    exact ih hnext

theorem Holds.recordBatch (h : Holds room us r) (b : Batch) :
    Holds room (if r.isRecording then us ++ b.updates else us) (r.recordBatch b).1 := by
  unfold Recorder.recordBatch
  split
  · exact h.foldl_append b.updates
  · exact h

/-! ## Runs -/

/-- A recorder and a log agree. -/
structure Represents (room : UInt64) (r : Recorder) (l : Log) : Prop where
  isRecording : r.isRecording = l.isRecording
  holds : Holds room l.updates r

variable {l : Log}

/-- An operation that has nothing to do with the buffer: stopping and tracking, a start while a
recording runs, and a batch while none does. -/
def Spares (r : Recorder) : RecorderOp → Prop
  | .start _ _ => r.isRecording = true
  | .stop _ => True
  | .clear => False
  | .record _ => r.isRecording = false
  | .track _ _ _ => True

/-- Such operations leave the buffer and its accounts as they are. -/
theorem accounts_of_spares {op : RecorderOp} (h : r.Spares op) :
    (op.act r).maxRecords = r.maxRecords ∧ (op.act r).accounts = r.accounts := by
  cases op with
  | start now topics =>
    have hrec : r.isRecording = true := h
    simp [RecorderOp.act, start?, hrec]
  | stop now =>
    show (((r.stop? now).map (·.1)).getD r).maxRecords = _ ∧
      (((r.stop? now).map (·.1)).getD r).accounts = _
    unfold stop?
    split <;> exact ⟨rfl, rfl⟩
  | clear => exact h.elim
  | record b =>
    have hidle : r.isRecording = false := h
    simp [RecorderOp.act, Recorder.recordBatch, hidle]
  | track t p keys =>
    show (r.track t p keys).1.maxRecords = _ ∧ (r.track t p keys).1.accounts = _
    unfold track
    split <;> exact ⟨rfl, rfl⟩

/-- And they leave the log as it is. -/
theorem Represents.updates_of_spares (h : Represents room r l) {op : RecorderOp}
    (hop : r.Spares op) : (l.step op).updates = l.updates := by
  cases op with
  | start now topics =>
    have hrec : l.isRecording = true := h.isRecording.symm.trans hop
    simp [Log.step, hrec]
  | stop now => rfl
  | clear => exact hop.elim
  | record b =>
    have hidle : l.isRecording = false := h.isRecording.symm.trans hop
    simp [Log.step, hidle]
  | track t p keys => rfl

/-- A recording that starts has an empty buffer. -/
theorem holds_start (h : r.isRecording = false) (now : Instant)
    (topics : SortedMap Topic Interest) :
    (RecorderOp.act r (.start now topics)).isRecording = true ∧
      Holds r.maxRecords [] (RecorderOp.act r (.start now topics)) := by
  simp only [RecorderOp.act, start?, h]
  exact ⟨rfl, (holds_clear r).congr rfl rfl⟩

theorem Represents.holds_of_spares (h : Represents room r l) {op : RecorderOp}
    (hop : r.Spares op) : Holds room (l.step op).updates (op.act r) := by
  obtain ⟨hroom, haccounts⟩ := accounts_of_spares hop
  rw [h.updates_of_spares hop]
  exact h.holds.congr hroom haccounts

/-- Recorder and log go on agreeing. -/
theorem Represents.act (h : Represents room r l) (op : RecorderOp) :
    Represents room (op.act r) (l.step op) := by
  have hsame := h.isRecording
  cases op with
  | start now topics =>
    cases hrec : r.isRecording with
    | true =>
      refine ⟨?_, h.holds_of_spares hrec⟩
      have hlog : l.isRecording = true := hsame.symm.trans hrec
      simp [RecorderOp.act, Log.step, start?, hrec, hlog]
    | false =>
      have hlog : l.isRecording = false := hsame.symm.trans hrec
      obtain ⟨hstarted, hempty⟩ := holds_start hrec now topics
      rw [h.holds.capacity] at hempty
      simp only [Log.step, hlog]
      exact ⟨hstarted, hempty⟩
  | stop now =>
    refine ⟨?_, h.holds_of_spares trivial⟩
    show (((r.stop? now).map (·.1)).getD r).isRecording = false
    unfold stop?
    split
    · rfl
    · next hrec => simpa using hrec
  | clear => exact ⟨hsame, h.holds.capacity ▸ holds_clear r⟩
  | record b =>
    constructor
    · rw [Log.isRecording_step_record]
      exact (isRecording_recordBatch r b).trans hsame
    · rw [Log.updates_step_record, ← hsame]
      exact h.holds.recordBatch b
  | track t p keys =>
    exact ⟨(isRecording_track r t p keys).trans hsame, h.holds_of_spares trivial⟩

theorem represents_after (c : Config.Recording) (ops : List RecorderOp) :
    Represents c.maxRecords (after c ops) (Log.after ops) := by
  have along (ops : List RecorderOp) (r : Recorder) (l : Log)
      (h : Represents c.maxRecords r l) :
      Represents c.maxRecords (ops.foldl RecorderOp.act r) (ops.foldl Log.step l) := by
    induction ops generalizing r l with
    | nil => exact h
    | cons op ops ih => exact ih _ _ (h.act op)
  have hstart : Represents c.maxRecords (new c) .empty := by
    refine ⟨rfl, ?_⟩
    have hclear : Holds c.maxRecords [] (new c).clear := holds_clear (new c)
    exact hclear.congr rfl rfl
  exact along ops (new c) .empty hstart

/-- The buffer is in order of time. -/
theorem Represents.pairwise_records (h : Represents room r l) :
    r.records.Pairwise (fun a b => a.time ≤ b.time) := by
  rw [h.holds.records]
  unfold lastOf
  split
  · exact pairwise_rows l.updates
  · exact (pairwise_rows l.updates).sublist (List.drop_sublist _ _)

/-- **The buffer is the end of the log.** After any operations the recorder records when the log
does; its buffer is as much of the end of the log's rows as there is room for, in order of
time; and its counter says how many rows were dropped, as far as that fits into a word. The
size is the sum of the records' sizes, as long as it has fitted into a word since the buffer
was last emptied; and where the whole log fits into a word, the counter is exact, too.
Stopping, tracking, starting while a recording runs, and batches while none does change
neither the buffer and its accounts nor the log. -/
theorem buffer_is_end_of_log (c : Config.Recording) (ops : List RecorderOp) :
    let r := after c ops
    let l := Log.after ops
    r.isRecording = l.isRecording ∧
      r.records = lastOf c.maxRecords.toNat (rows l.updates) ∧
      r.records.Pairwise (fun a b => a.time ≤ b.time) ∧
      (Fits c.maxRecords.toNat l.updates → r.sizeBytes.toNat = total r.records) ∧
      r.dropped.toNat = min (UInt64.size - 1) (l.updates.length - r.records.length) ∧
      (total (rows l.updates) < UInt64.size →
        r.dropped.toNat = l.updates.length - r.records.length) ∧
      ∀ op, r.Spares op →
        (op.act r).accounts = r.accounts ∧ (l.step op).updates = l.updates := by
  intro r l
  have h : Represents c.maxRecords r l := represents_after c ops
  refine ⟨h.isRecording, h.holds.records, h.pairwise_records, h.holds.size, h.holds.dropped,
    ?_, ?_⟩
  · -- records have a size, so there are no more of them than the total
    intro hfits
    have hdropped := h.holds.dropped
    have hlength := length_le_total (rows l.updates)
    rw [length_rows] at hlength
    omega
  · intro op hop
    exact ⟨(accounts_of_spares hop).2, h.updates_of_spares hop⟩

/-- Three updates, the second one late, in a buffer with room for two. -/
theorem late_update_in_full_buffer :
    let reading := fun (name : String) (seconds : Int) =>
      (⟨"plant", "pump", 0, name, .int 1, ⟨seconds, 0⟩⟩ : Update)
    let r := after { maxRecords := 2 } [.start ⟨0, 0⟩ .empty,
      .record ⟨.ionc, "plant", "pump", [reading "a" 9, reading "b" 5, reading "c" 12]⟩]
    r.records.map (fun row => (row.variableName, row.time.seconds)) = [("b", 9), ("c", 12)] ∧
      r.dropped.toNat = 1 ∧ r.sizeBytes.toNat = total r.records := by
  intro reading r
  have hlog := buffer_is_end_of_log { maxRecords := 2 } [.start ⟨0, 0⟩ .empty,
    .record ⟨.ionc, "plant", "pump", [reading "a" 9, reading "b" 5, reading "c" 12]⟩]
  obtain ⟨-, hrecords, -, hsize, -, hdropped, -⟩ := hlog
  refine ⟨?_, ?_, ?_⟩
  · rw [hrecords]
    decide
  · rw [hdropped (by decide)]
    decide
  · exact hsize (fits_of_total (by decide) _)

end Recorder

end SensorGateway
