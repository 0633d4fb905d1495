/-
# SensorGateway.Proofs.EventStream.Framing -- event streams that read back

A browser gets from the stream just the events that were put on it, each under its own name and
with its own JSON text (`EventStream.stream_reads_back`). Frames follow each other without anything
between them, so all depends on where lines end: neither the name nor the text of an event has a
line break in it, whatever the texts inside the event hold.

Between the frames there may be remarks that keep the connection open. They are lines of their
own, and a browser passes over them (`EventStream.messages_chunks`).

The name of a message says what its text is to be decoded as, and the text then gives the event
(`Event.ofMessage?_message`), so a stream can be read for its events
(`EventStream.events_of_stream`). This needs the doubles and the times in them to come back; the
framing does not.
-/
import SensorGateway.EventStream
import SensorGateway.Proofs.Json.Plain
import SensorGateway.Proofs.Json.RoundTrip

namespace SensorGateway

/-! ## Lines -/

namespace EventStream

/-- A text that is part of one line. -/
def OnOneLine (cs : List Char) : Prop := ∀ c ∈ cs, c ≠ '\n' ∧ c ≠ '\r'

instance (cs : List Char) : Decidable (OnOneLine cs) :=
  List.decidableBAll (fun c : Char => c ≠ '\n' ∧ c ≠ '\r') cs

theorem OnOneLine.append {cs ds : List Char} (h : OnOneLine cs) (h' : OnOneLine ds) :
    OnOneLine (cs ++ ds) := List.forall_mem_append.mpr ⟨h, h'⟩

theorem lines_append {cs : List Char} (h : OnOneLine cs) (line rest : List Char) :
    lines line false (cs ++ rest) = lines (line ++ cs) false rest := by
  induction cs generalizing line with
  | nil => rw [List.nil_append, List.append_nil]
  | cons c cs ih =>
    obtain ⟨⟨hfeed, hreturn⟩, hcs⟩ := List.forall_mem_cons.mp h
    rw [List.cons_append, lines, if_neg hfeed, if_neg hreturn, ih hcs, List.append_assoc,
      List.singleton_append]

/-- A line feed ends a line. -/
theorem lines_line {cs : List Char} (h : OnOneLine cs) (rest : List Char) :
    lines [] false (cs ++ '\n' :: rest) = cs :: lines [] false rest := by
  rw [lines_append h, List.nil_append, lines, if_pos rfl, if_neg (by decide)]

end EventStream

/-! ## Frames -/

namespace Event

open EventStream (OnOneLine)

/-- An event as a browser is to get it. -/
def message (e : Event) : EventStream.Message := ⟨e.name, e.data.render⟩

/-- The names of events. -/
def names : List String :=
  ["connected", "control_status", "recording_status"] ++ Protocol.all.map Protocol.eventName

theorem name_mem (e : Event) : e.name ∈ names := by
  cases e with
  | connected c => exact List.mem_append_left _ (.head _)
  | control s => exact List.mem_append_left _ (.tail _ (.head _))
  | recording s => exact List.mem_append_left _ (.tail _ (.tail _ (.head _)))
  | batch b =>
    have hall : b.protocol ∈ Protocol.all := List.mem_of_getElem? b.protocol.all_getElem?_index
    exact List.mem_append_right _ (List.mem_map_of_mem hall)

theorem onOneLine_name (e : Event) : OnOneLine e.name.toList :=
  (by decide : ∀ s ∈ names, OnOneLine s.toList) e.name e.name_mem

theorem name_ne_nil (e : Event) : e.name.toList ≠ [] :=
  (by decide : ∀ s ∈ names, s.toList ≠ []) e.name e.name_mem

theorem onOneLine_data (e : Event) : OnOneLine e.data.render.toList := fun _ hc =>
  (Json.plain_render e.data).ne_lineBreak hc

/-- The data of an event is a record. -/
theorem exists_data_eq (e : Event) : ∃ members, e.data = .obj members := by
  cases e <;> exact ⟨_, rfl⟩

theorem data_ne_nil (e : Event) : e.data.render.toList ≠ [] := by
  obtain ⟨members, hdata⟩ := e.exists_data_eq
  rw [hdata, Json.render, String.toList_ofList, Json.renderChars]
  exact List.cons_ne_nil _ _

theorem toList_frame (e : Event) :
    e.frame.toList = ("event: ".toList ++ e.name.toList) ++ '\n' ::
      (("data: ".toList ++ e.data.render.toList) ++ '\n' :: ('\n' :: [])) := by
  simp [frame]

/-! ## What messages tell -/

/-- The event that a message tells. Its name says what its text is decoded as; a batch goes by the
name of its own protocol only. -/
def ofMessage? (m : EventStream.Message) : Option Event :=
  if m.name = "connected" then (Json.Wire.ofText m.data).toOption.map .connected
  else if m.name = "control_status" then (Json.Wire.ofText m.data).toOption.map .control
  else if m.name = "recording_status" then (Json.Wire.ofText m.data).toOption.map .recording
  else ((Json.Wire.ofText m.data).toOption.filter (·.protocol.eventName = m.name)).map .batch

/-- An event whose doubles and times come back. -/
def Legible : Event → Prop
  | .connected c => c.Legible
  | .batch b => b.Legible
  | .control _ => True
  | .recording s => s.Legible

/-- The names of batches are not those of other events. -/
theorem eventName_ne (p : Protocol) :
    p.eventName ≠ "connected" ∧ p.eventName ≠ "control_status" ∧
      p.eventName ≠ "recording_status" := by
  cases p <;> decide

/-- **The message of an event tells the event**, and not only its kind. -/
theorem ofMessage?_message {e : Event} (h : e.Legible) : ofMessage? e.message = some e := by
  cases e with
  | connected c =>
    have hname : (connected c).message.name = "connected" := rfl
    have hback : Json.Wire.ofText (connected c).message.data = .ok c :=
      Json.Wire.ofText_text (Connected.faithful h)
    rw [ofMessage?, hname, if_pos rfl, hback]
    rfl
  | control s =>
    have hname : (control s).message.name = "control_status" := rfl
    have hback : Json.Wire.ofText (control s).message.data = .ok s :=
      Json.Wire.ofText_text s.faithful
    rw [ofMessage?, hname, if_neg (by decide), if_pos rfl, hback]
    rfl
  | recording s =>
    have hname : (recording s).message.name = "recording_status" := rfl
    have hback : Json.Wire.ofText (recording s).message.data = .ok s :=
      Json.Wire.ofText_text (RecordingStatus.faithful h)
    rw [ofMessage?, hname, if_neg (by decide), if_neg (by decide), if_pos rfl, hback]
    rfl
  | batch b =>
    have hname : (batch b).message.name = b.protocol.eventName := rfl
    have hback : Json.Wire.ofText (batch b).message.data = .ok b :=
      Json.Wire.ofText_text (Batch.faithful h)
    obtain ⟨hconnected, hcontrol, hrecording⟩ := eventName_ne b.protocol
    rw [ofMessage?, hname, if_neg hconnected, if_neg hcontrol, if_neg hrecording, hback]
    exact congrArg (Option.map batch) (Option.filter_some_pos (decide_eq_true rfl))

end Event

namespace EventStream

open Event (message)

/-- A frame is three lines, the last one empty. -/
theorem lines_frame (e : Event) (rest : List Char) :
    lines [] false (e.frame.toList ++ rest) =
      ("event: ".toList ++ e.name.toList) :: ("data: ".toList ++ e.data.render.toList) :: [] ::
        lines [] false rest := by
  have hname : OnOneLine ("event: ".toList ++ e.name.toList) :=
    .append (by decide) e.onOneLine_name
  have hdata : OnOneLine ("data: ".toList ++ e.data.render.toList) :=
    .append (by decide) e.onOneLine_data
  rw [e.toList_frame, List.append_assoc, List.cons_append, lines_line hname, List.append_assoc,
    List.cons_append, lines_line hdata]
  rfl

theorem message?_frame (e : Event) :
    Draft.message? ⟨e.name.toList, [e.data.render.toList]⟩ = some e.message := by
  have hname : String.ofList e.name.toList = e.name := String.ofList_toList
  have hdata : String.ofList (Text.joinWith '\n' [e.data.render.toList]) = e.data.render :=
    String.ofList_toList
  simp only [Draft.message?, if_neg (List.cons_ne_nil _ _), if_neg e.name_ne_nil, hname, hdata,
    message]

/-- An empty line ends a message. -/
theorem collect_nil {d : Draft} {m : Message} (h : d.message? = some m)
    (rest : List (List Char)) : collect d ([] :: rest) = m :: collect .empty rest := by
  rw [collect, h]

/-- The lines of a frame are read as the message of the event. -/
theorem collect_frame (e : Event) (rest : List (List Char)) :
    collect .empty (("event: ".toList ++ e.name.toList) ::
      ("data: ".toList ++ e.data.render.toList) :: [] :: rest) =
        e.message :: collect .empty rest := by
  show collect ⟨e.name.toList, [e.data.render.toList]⟩ ([] :: rest) = _
  exact collect_nil (message?_frame e) rest

/-- A stream without a byte order mark is read from its first character. -/
theorem messages_of_no_mark {s : String} (h : ∀ rest, s.toList ≠ '\uFEFF' :: rest) :
    messages s = collect .empty (lines [] false s.toList) := by
  unfold messages
  dsimp only
  split
  · next rest heq => exact absurd heq (h rest)
  · rfl

/-! ## Streams -/

/-- What is put on a stream: the frame of an event, or a remark that keeps the connection open. -/
inductive Chunk where
  | event (e : Event)
  | remark
deriving DecidableEq, Repr

namespace Chunk

/-- A chunk as text. A remark is a line that begins with a colon, and an empty line. -/
def text : Chunk → String
  | .event e => e.frame
  | .remark => ":\n\n"

/-- The event in a chunk, if there is one. -/
def event? : Chunk → Option Event
  | .event e => some e
  | .remark => none

/-- Neither a frame nor a remark begins with a byte order mark. -/
theorem exists_toList_text_eq (c : Chunk) :
    ∃ first rest, c.text.toList = first :: rest ∧ first ≠ '\uFEFF' := by
  cases c with
  | event e => exact ⟨'e', _, e.toList_frame, by decide⟩
  | remark => exact ⟨':', _, rfl, by decide⟩

end Chunk

/-- Each chunk ends its last line, and what was read of it does not reach into the next one. -/
theorem collect_lines_chunk (c : Chunk) (rest : List Char) :
    collect .empty (lines [] false (c.text.toList ++ rest)) =
      (c.event?.map message).toList ++ collect .empty (lines [] false rest) := by
  cases c with
  | event e =>
    show collect .empty (lines [] false (e.frame.toList ++ rest)) = _
    rw [lines_frame, collect_frame]
    rfl
  | remark => rfl

theorem collect_lines_chunks (chunks : List Chunk) :
    collect .empty (lines [] false (chunks.flatMap (·.text.toList))) =
      (chunks.filterMap Chunk.event?).map message := by
  induction chunks with
  | nil => rfl
  | cons c chunks ih =>
    rw [List.flatMap_cons, collect_lines_chunk, ih]
    cases c <;> rfl

/-- **The events of a stream are its messages**, with remarks anywhere between them. -/
theorem messages_chunks (chunks : List Chunk) :
    messages (String.join (chunks.map Chunk.text)) =
      (chunks.filterMap Chunk.event?).map message := by
  have htext : (String.join (chunks.map Chunk.text)).toList =
      chunks.flatMap (·.text.toList) := by
    rw [String.toList_join, List.flatMap_map]
  have hmark : ∀ rest, (String.join (chunks.map Chunk.text)).toList ≠ '\uFEFF' :: rest := by
    rw [htext]
    cases chunks with
    | nil => exact nofun
    | cons c chunks =>
      obtain ⟨first, rest, hfirst, hne⟩ := c.exists_toList_text_eq
      rw [List.flatMap_cons, hfirst]
      exact fun _ heq => hne (List.cons.inj heq).1
  rw [messages_of_no_mark hmark, htext, collect_lines_chunks]

/-- **The events of a stream are told by its messages**, each of them once and in order, whatever
remarks stand between them. -/
theorem events_of_stream {chunks : List Chunk}
    (h : ∀ e ∈ chunks.filterMap Chunk.event?, e.Legible) :
    (messages (String.join (chunks.map Chunk.text))).map Event.ofMessage? =
      (chunks.filterMap Chunk.event?).map some := by
  rw [messages_chunks, List.map_map]
  apply List.map_congr_left
  intro e he
  exact Event.ofMessage?_message (h e he)

/-- **The stream of a session reads back.** No payload and no name has a line break in it, so every
event is one frame of two lines and an empty one, and what a browser reads from the frames of the
handshake and of any events behind it is these events, in order, each with its name and its
text, neither of them empty. -/
theorem stream_reads_back (handshake : Connected) (events : List Event) :
    (∀ e : Event, OnOneLine e.name.toList ∧ OnOneLine e.data.render.toList) ∧
      messages (String.join ((.connected handshake :: events).map Event.frame)) =
        (.connected handshake :: events).map message ∧
      ∀ e : Event, e.message.name ≠ "" ∧ e.message.data ≠ "" := by
  refine ⟨fun e => ⟨e.onOneLine_name, e.onOneLine_data⟩, ?_, fun e => ⟨?_, ?_⟩⟩
  · have hevents (l : List Event) : (l.map Chunk.event).filterMap Chunk.event? = l := by
      rw [List.filterMap_map]
      exact List.filterMap_some
    have hread := messages_chunks ((Event.connected handshake :: events).map .event)
    rwa [List.map_map, hevents] at hread
  · exact fun h => e.name_ne_nil (congrArg String.toList h)
  · exact fun h => e.data_ne_nil (congrArg String.toList h)

end EventStream

end SensorGateway
