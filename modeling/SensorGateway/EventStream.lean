/-
# SensorGateway.EventStream -- event streams as browsers read them

A stream is text in lines. A line feed, a carriage return, or both together end a
line. A line is a field: a name, a colon, perhaps a space, and a value; a line that
begins with a colon is a remark. The field `event` names the message that is being
built, each field `data` adds a line to it, and an empty line sends it off. A message
without data is dropped, and so is one that the stream cuts short.

The gateway writes one frame per event (`Event.frame`); `messages` reads frames back.
-/
import SensorGateway.Event

namespace SensorGateway.EventStream

/-- A message as a browser gets it. -/
structure Message where
  name : String
  data : String
deriving DecidableEq, Repr

/-- The name of a message that has none. -/
def defaultName : String := "message"

/-! ## Lines -/

/-- The lines of a text; what stands behind the last end of a line is none. `line` is what
was read of the current line, and `afterReturn` says that it follows a carriage return. -/
def lines (line : List Char) (afterReturn : Bool) : List Char → List (List Char)
  | [] => []
  | c :: rest =>
    if c = '\n' then
      if afterReturn then lines [] false rest else line :: lines [] false rest
    else if c = '\r' then line :: lines [] true rest
    else lines (line ++ [c]) false rest

/-- The name and the value of a field. -/
def field (line : List Char) : List Char × List Char :=
  let name := line.takeWhile (· ≠ ':')
  let value := (line.drop name.length).drop 1
  (name, if value.head? = some ' ' then value.drop 1 else value)

/-! ## Messages -/

/-- The message that is being built. -/
structure Draft where
  name : List Char
  /-- The lines of data so far. -/
  data : List (List Char)
deriving DecidableEq, Repr

/-- A message of which nothing is known. -/
def Draft.empty : Draft := ⟨[], []⟩

/-- The finished message, if it has data. -/
def Draft.message? (d : Draft) : Option Message :=
  if d.data = [] then none
  else some ⟨if d.name = [] then defaultName else String.ofList d.name,
    String.ofList (Text.joinWith '\n' d.data)⟩

/-- A draft after a field. -/
def Draft.add (d : Draft) (line : List Char) : Draft :=
  let (name, value) := field line
  if name = "event".toList then { d with name := value }
  else if name = "data".toList then { d with data := d.data ++ [value] }
  else d

/-- The messages of lines. -/
def collect (d : Draft) : List (List Char) → List Message
  | [] => []
  | [] :: rest =>
    match d.message? with
    | some m => m :: collect .empty rest
    | none => collect .empty rest
  | line :: rest => collect (d.add line) rest

/-- The messages of a stream. A byte order mark in front does not count. -/
def messages (s : String) : List Message :=
  let cs := match s.toList with
    | '\uFEFF' :: rest => rest
    | cs => cs
  collect .empty (lines [] false cs)

end SensorGateway.EventStream
