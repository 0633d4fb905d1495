/-
# SensorGateway.Proofs.Export.Agreement -- the three exports agree

A recording is exported as a document, as comma-separated values and as a database. Each is
made by its own writer: the document is the list of records itself, the values are one text,
and the database gets its rows by statements of a bounded number of rows, each row with the
next number.

`Recorder.exports_agree` says that, after any operations on a recorder and under any filter,
the three have one row each for the same records, and that corresponding rows say the same.
The key to the database is `Database.foldl_insertRecords`: inserting by several statements is
inserting by a single one, wherever the list is cut.
-/
import SensorGateway.Export.Table
import SensorGateway.Proofs.Export.Csv
import SensorGateway.Proofs.Recorder.Log

namespace SensorGateway

namespace Export

/-! ## Which records are exported -/

/-- A record satisfies every restriction that is given. -/
structure Filter.Admits (f : Filter) (r : Record) : Prop where
  earliest : ∀ t, f.earliest = some t → t ≤ r.time
  latest : ∀ t, f.latest = some t → r.time ≤ t
  server : ∀ s, f.server = some s → r.server = s
  object : ∀ o, f.object = some o → r.object = o

theorem Filter.matches_iff {f : Filter} {r : Record} : f.matches r = true ↔ f.Admits r := by
  simp only [Filter.matches, Bool.and_eq_true, Option.all_eq_true, decide_eq_true_eq]
  constructor
  · rintro ⟨⟨⟨hearliest, hlatest⟩, hserver⟩, hobject⟩
    exact ⟨hearliest, hlatest, hserver, hobject⟩
  · rintro ⟨hearliest, hlatest, hserver, hobject⟩
    exact ⟨⟨⟨hearliest, hlatest⟩, hserver⟩, hobject⟩

instance (f : Filter) (r : Record) : Decidable (f.Admits r) :=
  decidable_of_iff (f.matches r = true) Filter.matches_iff

/-! ## Rows by statements -/

section Statements

variable {α : Type}

theorem flatten_pieces {size fuel : Nat} (hsize : 0 < size) {l : List α} (hfuel : l.length ≤ fuel) :
    (pieces size fuel l).flatten = l := by
  induction fuel generalizing l with
  | zero =>
    obtain rfl := List.eq_nil_of_length_eq_zero (Nat.le_zero.mp hfuel)
    rfl
  | succ fuel ih =>
    cases l with
    | nil => rfl
    | cons a l =>
      have hshorter : ((a :: l).drop size).length ≤ fuel := by
        rw [List.length_drop, List.length_cons]
        rw [List.length_cons] at hfuel
        omega
      rw [pieces, List.flatten_cons, ih hshorter, List.take_append_drop]

theorem length_le_of_mem_pieces {size fuel : Nat} {l s : List α} (hs : s ∈ pieces size fuel l) :
    s.length ≤ size := by
  induction fuel generalizing l with
  | zero => cases l <;> cases hs
  | succ fuel ih =>
    cases l with
    | nil => cases hs
    | cons a l =>
      rcases List.mem_cons.mp hs with rfl | hs
      · exact List.length_take_le size (a :: l)
      · exact ih hs

/-- Statements insert every row once, in order. -/
theorem flatten_statements (rows : List α) : (statements rows).flatten = rows :=
  flatten_pieces (by decide) (Nat.le_refl rows.length)

/-- A statement binds six values for each of its records, and databases take 999 of them. -/
theorem bound_values_le {rows s : List Record} (hs : s ∈ statements rows) : s.length * 6 ≤ 999 := by
  have hlength : s.length ≤ 150 := length_le_of_mem_pieces hs
  omega

end Statements

theorem recordRows_append (first : Nat) (l l' : List Record) :
    recordRows first (l ++ l') = recordRows first l ++ recordRows (first + l.length) l' := by
  induction l generalizing first with
  | nil => rfl
  | cons r l ih =>
    rw [List.cons_append, recordRows, recordRows, ih, List.length_cons, List.cons_append,
      Nat.add_right_comm, Nat.add_assoc]

theorem getElem?_recordRows (first i : Nat) (l : List Record) :
    (recordRows first l)[i]? = (l[i]?).map (.ofRecord (first + i)) := by
  induction l generalizing first i with
  | nil => rfl
  | cons r l ih =>
    cases i with
    | zero => rfl
    | succ i =>
      rw [recordRows, List.getElem?_cons_succ, List.getElem?_cons_succ, ih, Nat.add_assoc,
        Nat.add_comm 1]

theorem map_id_recordRows (first : Nat) (l : List Record) :
    (recordRows first l).map (·.id) = List.range' first l.length := by
  induction l generalizing first with
  | nil => rfl
  | cons r l ih => rw [recordRows, List.map_cons, ih]; rfl

namespace Database

/-- Inserting by several statements is inserting by one. -/
theorem foldl_insertRecords (ss : List (List Record)) (d : Database) :
    ss.foldl insertRecords d = d.insertRecords ss.flatten := by
  induction ss generalizing d with
  | nil =>
    show d = { d with records := d.records ++ [], lastId := d.lastId }
    rw [List.append_nil]
  | cons s ss ih =>
    rw [List.foldl_cons, ih, List.flatten_cons]
    simp only [insertRecords, recordRows_append, List.append_assoc, List.length_append,
      Nat.add_right_comm, Nat.add_assoc]

theorem records_foldl_putServers (ss : List (List Server)) (d : Database) :
    (ss.foldl putServers d).records = d.records := by
  induction ss generalizing d with
  | nil => rfl
  | cons s ss ih => exact ih (d.putServers s)

end Database

/-- The table of records has one row for each, numbered from one. -/
theorem records_tables (records : List Record) (servers : List Server) :
    (Tables.of records servers).records = recordRows 1 records := by
  show (Database.write records servers).records = _
  rw [Database.write, Database.records_foldl_putServers, Database.foldl_insertRecords,
    flatten_statements]
  rfl

/-! ## One record in three forms -/

/-- A row of the values and a row of the database say what a record of the document says. -/
structure SameRow (record : Record) (cells : List String) (row : RecordRow) : Prop where
  cells : cells = [row.timestamp, row.server, row.object, row.variableName, row.value]
  document : Json.Wire.encode record = .obj
    [("timestamp", .str row.timestamp), ("server_id", .str row.server),
     ("object_name", .str row.object), ("variable_name", .str row.variableName),
     ("value", Json.Wire.encode record.value)]
  timestamp : row.timestamp = record.time.text
  server : row.server = record.server
  object : row.object = record.object
  variableName : row.variableName = record.variableName
  value : row.value = record.value.display

theorem sameRow_ofRecord (id : Nat) (record : Record) :
    SameRow record (Csv.fields record) (.ofRecord id record) :=
  ⟨rfl, rfl, rfl, rfl, rfl, rfl, rfl⟩

end Export

open Export

namespace Recorder

/-- **The three exports agree.** After any operations on a recorder, and under any filter, the
document lists exactly the records in the buffer that satisfy every restriction, oldest first; the
values are read as the names of the columns and then one row per record of the document; and the
database has as many rows, numbered from one without a gap. The count of the document is their
number, and corresponding rows say the same of the same record. -/
theorem exports_agree (c : Config.Recording) (ops : List RecorderOp) (f : Filter) (now : Instant)
    (servers : List Server) :
    let r := after c ops
    let kept := (r.document now f).records
    let rows := (Tables.of (r.select f) servers).records
    ∃ cells : List (List String),
      kept = r.records.filter (f.Admits ·) ∧
      kept.Pairwise (fun a b => a.time ≤ b.time) ∧
      (kept.length < UInt64.size → (r.document now f).count.toNat = kept.length) ∧
      Csv.parse? (r.csv f).toList =
        some ((["timestamp", "server_id", "object_name", "variable_name", "value"] :: cells).map
          (·.map String.toList)) ∧
      cells.length = kept.length ∧
      rows.map (·.id) = List.range' 1 kept.length ∧
      ∀ (i : Nat) (record : Record), kept[i]? = some record →
        ∃ row line, rows[i]? = some row ∧ cells[i]? = some line ∧ SameRow record line row := by
  intro r kept rows
  have hkept : kept = r.records.filter (f.Admits ·) := by
    refine List.filter_congr fun record _ => ?_
    rw [Bool.eq_iff_iff, Filter.matches_iff, decide_eq_true_iff]
  have hrows : rows = recordRows 1 kept := records_tables kept servers
  refine ⟨kept.map Csv.fields, hkept, ?_, ?_, ?_, List.length_map _, ?_, ?_⟩
  · -- the buffer is in order of time, and a filter leaves the order alone
    exact (represents_after c ops).pairwise_records.sublist List.filter_sublist
  · intro hfew
    exact UInt64.toNat_ofNat_of_lt' hfew
  · exact Csv.parse?_eq_some_iff.mpr (Csv.writes_encode kept)
  · rw [hrows, map_id_recordRows]
  · intro i record hi
    refine ⟨.ofRecord (1 + i) record, Csv.fields record, ?_, ?_, sameRow_ofRecord _ record⟩
    · rw [hrows, getElem?_recordRows, hi]
      rfl
    · rw [List.getElem?_map, hi]
      rfl

/-- Four updates with hostile texts, the third one late, and a filter that begins with the second
one and leaves out another object. -/
theorem late_and_quoted_rows :
    let reading := fun (object name : String) (value : SensorValue) (seconds : Int) =>
      (⟨"plant, north", object, 7, name, value, ⟨seconds, 0⟩⟩ : Update)
    let ops : List RecorderOp := [.start ⟨0, 0⟩ .empty,
      .record ⟨.ionc, "plant, north", "pump", [reading "pump" "heat" (.int 60) 8,
        reading "pump" "\"heat\"" (.text "a\r\nb") 9, reading "pump" "" (.bool true) 5,
        reading "valve" "flow" (.int 2) 12]⟩]
    let f : Filter := { earliest := some ⟨9, 0⟩, object := some "pump" }
    let r := after {} ops
    let kept := (r.document ⟨99, 0⟩ f).records
    kept.map (·.variableName) = ["\"heat\"", "7"] ∧ kept.length < UInt64.size ∧
      (r.document ⟨99, 0⟩ f).count.toNat = 2 ∧
      (Tables.of (r.select f) []).records.map (fun row => (row.id, row.timestamp, row.value)) =
        [(1, "1970-01-01T00:00:09Z", "a\r\nb"), (2, "1970-01-01T00:00:09Z", "true")] ∧
      ∃ line, SameRow ⟨⟨9, 0⟩, "plant, north", "pump", "7", .bool true⟩ line
        ⟨2, "1970-01-01T00:00:09Z", "plant, north", "pump", "7", "true", some (.ofInt 1)⟩ := by
  intro reading ops f r kept
  obtain ⟨cells, -, -, hcount, -, -, -, hrows⟩ := exports_agree {} ops f ⟨99, 0⟩ []
  have hkept : kept = [⟨⟨9, 0⟩, "plant, north", "pump", "\"heat\"", .text "a\r\nb"⟩,
      ⟨⟨9, 0⟩, "plant, north", "pump", "7", .bool true⟩] := by decide
  have hfew : kept.length < UInt64.size := by
    rw [hkept]
    decide
  refine ⟨?_, hfew, ?_, by decide, ?_⟩
  · rw [hkept]
    rfl
  · rw [hcount hfew]
    show kept.length = 2
    rw [hkept]
    rfl
  · obtain ⟨row, line, hrow, -, hsame⟩ := hrows 1 _ (show kept[1]? = _ by rw [hkept]; rfl)
    have hsecond : (Tables.of (r.select f) []).records[1]? = some
        ⟨2, "1970-01-01T00:00:09Z", "plant, north", "pump", "7", "true", some (.ofInt 1)⟩ := by
      decide
    obtain rfl := Option.some.inj (hsecond.symm.trans hrow)
    exact ⟨line, hsame⟩

end Recorder

end SensorGateway
