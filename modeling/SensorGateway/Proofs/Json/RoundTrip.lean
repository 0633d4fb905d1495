/-
# SensorGateway.Proofs.Json.RoundTrip -- the wire loses nothing

Everything that the gateway writes as JSON comes back from the text as it was
(`wire_round_trip`): updates, batches, records, exports, the statuses, servers, handshakes, topics
and sets of keys, with any strings in them. A sensor value is written without its kind, and the
reader tries the kinds by the shape of the text, so the point is that no two kinds share a text:
an integer has neither point nor exponent, a double has one of them, a text has quotes.

Two things can stand in the way, and both are ruled out value by value (`Legible`). A double must be
finite, since the others are written as `null`, and its text must read back as this double: the
fast reading of numbers gives a neighbour for some long ones. A time must be one that a clock can
show, in a year with four digits. Even a double that comes back as a neighbour is still a double.
-/
import SensorGateway.Event
import SensorGateway.Export.Document
import SensorGateway.Proofs.Instant.Text
import SensorGateway.Proofs.Json.Wire
import SensorGateway.Proofs.Text.Hex

namespace SensorGateway

open Json (DecodeError Members Reading Wire)
open Json.Wire (Faithful faithful_bool faithful_string faithful_int64 faithful_uint64)

/-! ## Sensor values -/

namespace SensorValue

/-- Not a double that is no number. -/
def IsFinite : SensorValue → Prop
  | .float x => x.isFinite = true
  | _ => True

/-- A value that its own text gives back: a double is finite, and the floating-point reading of its
text is this double. -/
def Legible : SensorValue → Prop
  | .float x => x.isFinite = true ∧ Json.float? (Binary64.Layout.json.text x) = some x
  | _ => True

instance (v : SensorValue) : Decidable v.Legible := by
  cases v <;> unfold Legible <;> infer_instance

theorem decode_number (t : Json.Number) :
    Wire.decode (.number t) = match t.value? with
      | some (.int n) => .ok (ofInt n)
      | some (.float x) => .ok (.float x)
      | none => .error .malformed := rfl

theorem encode_float {x : Binary64} (h : x.isFinite = true) :
    Wire.encode (SensorValue.float x) = .float x := if_pos h

/-- The text of a finite double is read as a double, whichever it is. -/
theorem decode_float {x : Binary64} (h : x.isFinite = true) :
    Wire.decode (Reading.ofJson (Wire.encode (SensorValue.float x))) =
      match Json.float? (Binary64.Layout.json.text x) with
      | some y => .ok (SensorValue.float y)
      | none => .error .malformed := by
  obtain ⟨t, -, -, htoken, hvalue⟩ := Json.exists_tokenOfText h
  rw [encode_float h, Reading.ofJson, htoken, decode_number, hvalue]
  cases Json.float? (Binary64.Layout.json.text x) <;> rfl

theorem faithful {v : SensorValue} (h : v.Legible) : Faithful v := by
  cases v with
  | bool b => exact ⟨rfl, rfl⟩
  | int n =>
    refine ⟨rfl, ?_⟩
    show Wire.decode (.number (Reading.tokenOfInt n.toInt)) = _
    rw [decode_number, Json.Wire.value?_int64]
    simp only [ofInt, Word.int64?_toInt]
  | float x =>
    obtain ⟨hfinite, hback⟩ := h
    refine ⟨by rw [encode_float hfinite]; exact hfinite, ?_⟩
    rw [decode_float hfinite, hback]
  | text s => exact ⟨rfl, rfl⟩

/-- Whatever a value comes back as, it has the kind that it was written with. -/
theorem kind_of_ofText_text {v w : SensorValue} (h : v.IsFinite)
    (hback : Wire.ofText (Wire.text v) = .ok w) : w.kind = v.kind := by
  have hsame (hv : v.Legible) : w.kind = v.kind := by
    rw [Wire.ofText_text (faithful hv)] at hback
    rw [Except.ok.inj hback]
  cases v with
  | bool b => exact hsame trivial
  | int n => exact hsame trivial
  | text s => exact hsame trivial
  | float x =>
    -- here the double may come back as another one, or not at all
    have hfinite : (Wire.encode (SensorValue.float x)).isFinite = true := by
      rw [encode_float h]
      exact h
    rw [Wire.ofText_text_eq hfinite, decode_float h] at hback
    split at hback
    · next y hy => rw [← Except.ok.inj hback, kind, kind]
    · cases hback

end SensorValue

/-! ## Keys, names and times -/

theorem SensorKey.faithful (k : SensorKey) : Faithful k := by
  cases k with
  | id n =>
    refine ⟨rfl, ?_⟩
    simp only [Wire.encode, Wire.decode, Reading.ofJson, Json.Wire.value?_int64,
      Word.int64?_toInt]
  | name s => exact ⟨rfl, rfl⟩

theorem KeySet.faithful (ks : KeySet) : Faithful ks where
  finite := (Faithful.list fun k (_ : k ∈ ks.toList) => k.faithful).finite
  decode := by
    have hlist := (Faithful.list fun k (_ : k ∈ ks.toList) => k.faithful).decode
    have hset : SortedSet.ofList ks.toList = ks := SortedSet.ext fun _ => SortedSet.mem_ofList
    show (Wire.decode (Reading.ofJson (Wire.encode ks.toList))).map SortedSet.ofList = _
    rw [hlist]
    exact congrArg Except.ok hset

theorem Protocol.decode_text (s : String) :
    Wire.decode (.text (some s)) = match Protocol.ofName? s with
      | some p => .ok p
      | none => .error .mismatched := rfl

theorem Protocol.faithful (p : Protocol) : Faithful p where
  finite := rfl
  decode := by
    show Wire.decode (.text (some p.name)) = _
    rw [decode_text, ofName?_name]

theorem Instant.decode_text (s : String) :
    Wire.decode (.text (some s)) = match Instant.ofText? s with
      | some t => .ok t
      | none => .error .mismatched := rfl

theorem Instant.faithful {t : Instant} (h : t.IsOrdinary) : Faithful t := by
  have hencode : Wire.encode t = .str t.text := rfl
  refine ⟨by rw [hencode]; rfl, ?_⟩
  rw [hencode, Reading.ofJson, decode_text, ofText?_text h]

/-- A time that may be missing. -/
theorem Instant.faithful_option {o : Option Instant} (h : ∀ t, o = some t → t.IsOrdinary) :
    Faithful o := by
  cases o with
  | none => exact Json.Wire.faithful_none
  | some t => exact (Instant.faithful (h t rfl)).some nofun

/-! ## Session identifiers -/

namespace Text

theorem splitAt_of_not_mem {sep : Char} {piece : List Char} (h : sep ∉ piece) :
    splitAt sep piece = [piece] := by
  induction piece with
  | nil => rfl
  | cons c piece ih =>
    rw [List.mem_cons, not_or] at h
    rw [splitAt, if_neg (Ne.symm h.1), ih h.2]

theorem splitAt_append_cons {sep : Char} {piece : List Char} (h : sep ∉ piece) (rest : List Char) :
    splitAt sep (piece ++ sep :: rest) = piece :: splitAt sep rest := by
  induction piece with
  | nil => rw [List.nil_append, splitAt, if_pos rfl]
  | cons c piece ih =>
    rw [List.mem_cons, not_or] at h
    rw [List.cons_append, splitAt, if_neg (Ne.symm h.1), ih h.2]

theorem Hex.dash_not_mem_encode (width n : Nat) : '-' ∉ encode width n := by
  have hchar : ∀ c ∈ encode width n, c ≠ '-' := forall_mem_encode (by decide) width n
  exact fun hmem => hchar '-' hmem rfl

end Text

namespace SessionId

open Text (splitAt splitAt_append_cons splitAt_of_not_mem)

/-- **The text of an identifier names it.** -/
theorem ofText?_text (id : SessionId) : ofText? id.text = some id := by
  obtain ⟨ds, hds⟩ : ∃ ds, Text.Hex.encode 32 id.bits.toNat = ds := ⟨_, rfl⟩
  have hlength : ds.length = 32 := hds ▸ Text.Hex.length_encode 32 id.bits.toNat
  have hdash : '-' ∉ ds := hds ▸ Text.Hex.dash_not_mem_encode 32 id.bits.toNat
  have hdecode : Text.Hex.decode? ds = some id.bits.toNat :=
    hds ▸ Text.Hex.decode?_encode 32 _ id.bits.isLt
  have htake (n : Nat) {piece : List Char} (hpiece : '-' ∉ piece) : '-' ∉ piece.take n :=
    fun h => hpiece (List.mem_of_mem_take h)
  have hdrop (n : Nat) : '-' ∉ ds.drop n := fun h => hdash (List.mem_of_mem_drop h)
  -- The thirty-two digits, put together again from the five groups.
  have hgroups : ds.take 8 ++ (ds.drop 8).take 4 ++ (ds.drop 12).take 4 ++ (ds.drop 16).take 4 ++
      ds.drop 20 = ds := by
    rw [← List.take_add (i := 8) (j := 4), ← List.take_add (i := 12) (j := 4),
      ← List.take_add (i := 16) (j := 4), List.take_append_drop]
  have hdigits : ofDigits? ds = some id := by
    unfold ofDigits?
    rw [if_pos hlength, hdecode]
    exact congrArg (fun b => some (SessionId.mk b)) (BitVec.ofNat_toNat ..)
  obtain ⟨cs, hcs⟩ : ∃ cs, ds.take 8 ++ '-' :: ((ds.drop 8).take 4 ++ '-' :: ((ds.drop 12).take 4 ++
    '-' :: ((ds.drop 16).take 4 ++ '-' :: ds.drop 20))) = cs := ⟨_, rfl⟩
  have hnotDigits : ofDigits? cs = none := by
    refine if_neg ?_
    rw [← hcs]
    simp [hlength]
  have hsplit : splitAt '-' cs =
      [ds.take 8, (ds.drop 8).take 4, (ds.drop 12).take 4, (ds.drop 16).take 4, ds.drop 20] := by
    rw [← hcs, splitAt_append_cons (htake 8 hdash), splitAt_append_cons (htake 4 (hdrop 8)),
      splitAt_append_cons (htake 4 (hdrop 12)), splitAt_append_cons (htake 4 (hdrop 16)),
      splitAt_of_not_mem (hdrop 20)]
  have hdashed : ofDashed? cs = some id := by
    unfold ofDashed?
    rw [hsplit]
    simp only [hgroups, hdigits, List.length_take, List.length_drop, hlength]
    rfl
  unfold ofText? text
  simp only [hds, hcs, String.toList_ofList, hnotDigits, hdashed]
  rfl

theorem decode_text (s : String) :
    Wire.decode (.text (some s)) = match ofText? s with
      | some id => .ok id
      | none => .error .mismatched := rfl

theorem faithful (id : SessionId) : Faithful id := by
  have hencode : Wire.encode id = .str id.text := rfl
  refine ⟨by rw [hencode]; rfl, ?_⟩
  rw [hencode, Reading.ofJson, decode_text, ofText?_text]

end SessionId

/-! ## Records

A record is legible when the values and the times in it are. -/

theorem Topic.faithful (t : Topic) : Faithful t := by
  have hmembers := Members.cons "serverId" (faithful_string t.server)
    (.cons "objectName" (faithful_string t.object) .nil)
  exact ⟨hmembers.finite, hmembers.decode (by decide) rfl⟩

/-- An update whose value and time come back. -/
structure Update.Legible (u : Update) : Prop where
  value : u.value.Legible
  time : u.time.IsOrdinary

instance (u : Update) : Decidable u.Legible :=
  decidable_of_iff (u.value.Legible ∧ u.time.IsOrdinary) ⟨fun h => ⟨h.1, h.2⟩, fun h => ⟨h.1, h.2⟩⟩

theorem Update.faithful {u : Update} (h : u.Legible) : Faithful u := by
  have hvalue := SensorValue.faithful h.value
  have htime := Instant.faithful h.time
  have hmembers := Members.cons "serverId" (faithful_string u.server)
    (.cons "objectName" (faithful_string u.object) (.cons "sensorId" (faithful_int64 u.number)
      (.cons "name" (faithful_string u.name)
        (.cons "value" hvalue (.cons "timestamp" htime .nil)))))
  refine ⟨hmembers.finite, hmembers.decode (by decide) ?_⟩
  simp [hvalue.decode, htime.decode, (faithful_string _).decode, (faithful_int64 _).decode]
  rfl

/-- A batch whose updates come back. -/
def Batch.Legible (b : Batch) : Prop := ∀ u ∈ b.updates, u.Legible

instance (b : Batch) : Decidable b.Legible :=
  inferInstanceAs (Decidable (∀ u ∈ b.updates, u.Legible))

theorem Batch.faithful {b : Batch} (h : b.Legible) : Faithful b := by
  have hupdates := Faithful.list fun u hu => Update.faithful (h u hu)
  have hmembers := Members.cons "protocol" b.protocol.faithful
    (.cons "serverId" (faithful_string b.server) (.cons "objectName" (faithful_string b.object)
      (.cons "updates" hupdates .nil)))
  refine ⟨hmembers.finite, hmembers.decode (by decide) ?_⟩
  simp [b.protocol.faithful.decode, hupdates.decode, (faithful_string _).decode]
  rfl

/-- A record whose value and time come back. -/
structure Record.Legible (r : Record) : Prop where
  value : r.value.Legible
  time : r.time.IsOrdinary

instance (r : Record) : Decidable r.Legible :=
  decidable_of_iff (r.value.Legible ∧ r.time.IsOrdinary) ⟨fun h => ⟨h.1, h.2⟩, fun h => ⟨h.1, h.2⟩⟩

theorem Record.faithful {r : Record} (h : r.Legible) : Faithful r := by
  have hvalue := SensorValue.faithful h.value
  have htime := Instant.faithful h.time
  have hmembers := Members.cons "timestamp" htime
    (.cons "server_id" (faithful_string r.server) (.cons "object_name" (faithful_string r.object)
      (.cons "variable_name" (faithful_string r.variableName) (.cons "value" hvalue .nil))))
  refine ⟨hmembers.finite, hmembers.decode (by decide) ?_⟩
  simp [hvalue.decode, htime.decode, (faithful_string _).decode]
  rfl

/-- An export whose records come back. -/
structure Export.Document.Legible (d : Export.Document) : Prop where
  exportedAt : d.exportedAt.IsOrdinary
  records : ∀ r ∈ d.records, r.Legible

instance (d : Export.Document) : Decidable d.Legible :=
  decidable_of_iff (d.exportedAt.IsOrdinary ∧ ∀ r ∈ d.records, r.Legible)
    ⟨fun h => ⟨h.1, h.2⟩, fun h => ⟨h.1, h.2⟩⟩

theorem Export.Document.faithful {d : Export.Document} (h : d.Legible) : Faithful d := by
  have htime := Instant.faithful h.exportedAt
  have hrecords := Faithful.list fun r hr => Record.faithful (h.records r hr)
  have hmembers := Members.cons "exportedAt" htime
    (.cons "count" (faithful_uint64 d.count) (.cons "records" hrecords .nil))
  refine ⟨hmembers.finite, hmembers.decode (by decide) ?_⟩
  simp [htime.decode, hrecords.decode, (faithful_uint64 _).decode]
  rfl

/-- A status whose times come back. -/
structure RecordingStatus.Legible (s : RecordingStatus) : Prop where
  startedAt : ∀ t, s.startedAt = some t → t.IsOrdinary
  stoppedAt : ∀ t, s.stoppedAt = some t → t.IsOrdinary

theorem RecordingStatus.faithful {s : RecordingStatus} (h : s.Legible) : Faithful s := by
  have hstarted := Instant.faithful_option h.startedAt
  have hstopped := Instant.faithful_option h.stoppedAt
  have hmembers := Members.cons "isRecording" (faithful_bool s.isRecording)
    (.cons "recordCount" (faithful_uint64 s.count) (.cons "sizeBytes" (faithful_uint64 s.sizeBytes)
      (.cons "droppedCount" (faithful_uint64 s.dropped)
        (.cons "maxRecords" (faithful_uint64 s.maxRecords) (.cons "startedAt" hstarted
          (.cons "stoppedAt" hstopped .nil))))))
  refine ⟨hmembers.finite, hmembers.decode (by decide) ?_⟩
  simp [hstarted.decode, hstopped.decode, (faithful_bool _).decode, (faithful_uint64 _).decode]
  rfl

/-- The error of a server that has none is left out, and read as none. -/
theorem Server.faithful (s : Server) : Faithful s := by
  obtain ⟨id, url, name, connected, lastError⟩ := s
  cases lastError with
  | none =>
    have hmembers := Members.cons "id" (faithful_string id) (.cons "url" (faithful_string url)
      (.cons "name" (faithful_string name) (.cons "connected" (faithful_bool connected)
        (.skip (.of (Option String) "lastError") .nil))))
    refine ⟨hmembers.finite, hmembers.decode (by decide) ?_⟩
    simp [(faithful_string _).decode, (faithful_bool _).decode]
    rfl
  | some e =>
    have herror : Faithful (some e) := (faithful_string e).some nofun
    have hmembers := Members.cons "id" (faithful_string id) (.cons "url" (faithful_string url)
      (.cons "name" (faithful_string name) (.cons "connected" (faithful_bool connected)
        (.cons "lastError" herror .nil))))
    refine ⟨hmembers.finite, hmembers.decode (by decide) ?_⟩
    simp [herror.decode, (faithful_string _).decode, (faithful_bool _).decode]
    rfl

theorem ControlStatus.faithful (s : ControlStatus) : Faithful s := by
  have hmembers := Members.cons "hasController" (faithful_bool s.hasController)
    (.cons "timeoutSec" (faithful_uint64 s.timeoutSec)
      (.cons "revision" (faithful_uint64 s.revision) .nil))
  refine ⟨hmembers.finite, hmembers.decode (by decide) ?_⟩
  simp [(faithful_bool _).decode, (faithful_uint64 _).decode]
  rfl

theorem ControlView.faithful (v : ControlView) : Faithful v := by
  have hmembers := Members.cons "isController" (faithful_bool v.isController)
    (.cons "hasController" (faithful_bool v.hasController)
      (.cons "timeoutSec" (faithful_uint64 v.timeoutSec) .nil))
  refine ⟨hmembers.finite, hmembers.decode (by decide) ?_⟩
  simp [(faithful_bool _).decode, (faithful_uint64 _).decode]
  rfl

/-- A handshake whose recording status comes back. -/
def Connected.Legible (c : Connected) : Prop := c.recording.Legible

theorem Connected.faithful {c : Connected} (h : c.Legible) : Faithful c := by
  have hrecording := RecordingStatus.faithful h
  have hmembers := Members.cons "sessionId" c.session.faithful
    (.cons "control" c.control.faithful (.cons "recording" hrecording .nil))
  refine ⟨hmembers.finite, hmembers.decode (by decide) ?_⟩
  simp [c.session.faithful.decode, c.control.faithful.decode, hrecording.decode]
  rfl

/-! ## The wire -/

/-- **The wire loses nothing.** A sensor value, an update, a batch, a record, an export, a recording
status, a server, a control status, a control view, a handshake, a topic and a set of keys are what
their own text decodes to, whatever strings are in them, as long as the doubles and the times in
them come back. A finite sensor value never comes back as a value of another kind, even where its
double does not come back. The times that come back are, in the years of four digits, just the
ordinary ones. -/
theorem wire_round_trip :
    (∀ v : SensorValue, v.Legible → Wire.ofText (Wire.text v) = .ok v) ∧
    (∀ u : Update, u.Legible → Wire.ofText (Wire.text u) = .ok u) ∧
    (∀ b : Batch, b.Legible → Wire.ofText (Wire.text b) = .ok b) ∧
    (∀ r : Record, r.Legible → Wire.ofText (Wire.text r) = .ok r) ∧
    (∀ d : Export.Document, d.Legible → Wire.ofText (Wire.text d) = .ok d) ∧
    (∀ s : RecordingStatus, s.Legible → Wire.ofText (Wire.text s) = .ok s) ∧
    (∀ s : Server, Wire.ofText (Wire.text s) = .ok s) ∧
    (∀ s : ControlStatus, Wire.ofText (Wire.text s) = .ok s) ∧
    (∀ v : ControlView, Wire.ofText (Wire.text v) = .ok v) ∧
    (∀ c : Connected, c.Legible → Wire.ofText (Wire.text c) = .ok c) ∧
    (∀ t : Topic, Wire.ofText (Wire.text t) = .ok t) ∧
    (∀ ks : KeySet, Wire.ofText (Wire.text ks) = .ok ks) ∧
    (∀ v w : SensorValue, v.IsFinite → Wire.ofText (Wire.text v) = .ok w → w.kind = v.kind) ∧
    (∀ t : Instant, 0 ≤ t.date.year ∧ t.date.year ≤ 9999 →
      (Instant.ofText? t.text = some t ↔ t.IsOrdinary)) :=
  ⟨fun _ h => Wire.ofText_text (SensorValue.faithful h),
    fun _ h => Wire.ofText_text (Update.faithful h),
    fun _ h => Wire.ofText_text (Batch.faithful h),
    fun _ h => Wire.ofText_text (Record.faithful h),
    fun _ h => Wire.ofText_text (Export.Document.faithful h),
    fun _ h => Wire.ofText_text (RecordingStatus.faithful h),
    fun s => Wire.ofText_text s.faithful,
    fun s => Wire.ofText_text s.faithful,
    fun v => Wire.ofText_text v.faithful,
    fun _ h => Wire.ofText_text (Connected.faithful h),
    fun t => Wire.ofText_text t.faithful,
    fun ks => Wire.ofText_text ks.faithful,
    fun _ _ => SensorValue.kind_of_ofText_text,
    fun _ => Instant.ofText?_text_iff⟩

/-- Values of every kind that look alike, and the doubles at the ends of their range. -/
def lookAlikes : List SensorValue :=
  [.int 1, .float ⟨0x3FF0000000000000⟩, .text "1", .bool true, .text "true", .text "",
   .float ⟨0x8000000000000000⟩, .int Int64.minValue, .float ⟨0x4340000000000000⟩,
   .float ⟨0x7FEFFFFFFFFFFFFF⟩, .float ⟨1⟩, .text "1.0"]

/-- The look-alikes come back each as itself, alone and next to strings of quotes, backslashes and
control characters, and with times of every length; so does the status of a recording that has
ended in a leap second. A double with a long significand comes back as its neighbour, which is a
double, too. -/
theorem look_alikes_come_back :
    let batch : Batch := ⟨.opcua, "\"a\\", "\x00\n\t\u007f",
      lookAlikes.map fun v => ⟨"s", "o", Int64.minValue, "null", v, ⟨-1, 5000000⟩⟩⟩
    let document : Export.Document := ⟨⟨253402300799, 999999999⟩, UInt64.ofNat (UInt64.size - 1),
      lookAlikes.map fun v => ⟨⟨951782400, 0⟩, "", "", "-1", v⟩⟩
    let handshake : Connected := ⟨⟨0xABCDEF⟩, ⟨true, true, 0⟩,
      ⟨false, 1, 2, 3, 4, some ⟨-62167219200, 1000⟩, some ⟨1483228799, 1500000000⟩⟩⟩
    let long : SensorValue := .float ⟨0x361ED7E0FA666073⟩
    let neighbour : SensorValue := .float ⟨0x361ED7E0FA666072⟩
    (∀ v ∈ lookAlikes, v.Legible ∧ Wire.ofText (Wire.text v) = .ok v) ∧
    (batch.Legible ∧ Wire.ofText (Wire.text batch) = .ok batch) ∧
    (document.Legible ∧ Wire.ofText (Wire.text document) = .ok document) ∧
    (handshake.Legible ∧ Wire.ofText (Wire.text handshake) = .ok handshake) ∧
    (long.IsFinite ∧ Wire.ofText (Wire.text long) = .ok neighbour ∧
      neighbour.kind = long.kind) := by
  intro batch document handshake long neighbour
  have hvalues : ∀ v ∈ lookAlikes, v.Legible := by decide +kernel
  have hbatch : batch.Legible := by decide +kernel
  have hdocument : document.Legible := by decide +kernel
  have hhandshake : handshake.Legible :=
    ⟨fun t ht => by cases ht; decide +kernel, fun t ht => by cases ht; decide +kernel⟩
  have hfinite : long.IsFinite := by
    show Binary64.isFinite _ = true
    decide
  have hlong : Wire.ofText (Wire.text long) = .ok neighbour := by
    have hfloat : Json.float? (Binary64.Layout.json.text ⟨0x361ED7E0FA666073⟩) =
        some ⟨0x361ED7E0FA666072⟩ := by decide +kernel
    rw [Wire.ofText_text_eq (by rw [SensorValue.encode_float hfinite]; exact hfinite),
      SensorValue.decode_float hfinite, hfloat]
  exact ⟨fun v hv => ⟨hvalues v hv, wire_round_trip.1 v (hvalues v hv)⟩,
    ⟨hbatch, wire_round_trip.2.2.1 batch hbatch⟩,
    ⟨hdocument, wire_round_trip.2.2.2.2.1 document hdocument⟩,
    ⟨hhandshake, wire_round_trip.2.2.2.2.2.2.2.2.2.1 handshake hhandshake⟩,
    ⟨hfinite, hlong, wire_round_trip.2.2.2.2.2.2.2.2.2.2.2.2.1 long neighbour hfinite hlong⟩⟩

end SensorGateway
