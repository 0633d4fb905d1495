/-
# SensorGateway.Export.Table -- recordings as database tables

The exported database has a table of records, numbered from one in order, and a table
of servers with one row per identifier, where the last server with an identifier counts.
The numeric column of a record holds the number that its value stands for, if there is one
that a database can hold: "not a number" is no number there, and zero has no sign.

A statement inserts a bounded number of rows, so long lists of rows are written by several
statements, one after the other.
-/
import SensorGateway.Record
import SensorGateway.Status

namespace SensorGateway.Export

/-- A row of the table of records. -/
structure RecordRow where
  id : Nat
  timestamp : String
  server : ServerId
  object : String
  variableName : String
  /-- The value as text. -/
  value : String
  /-- The value as a number. -/
  numeric : Option Binary64
deriving DecidableEq, Repr

/-- A row of the table of servers. -/
structure ServerRow where
  id : ServerId
  name : String
  url : String
deriving DecidableEq, Repr

/-- The tables of an exported database. -/
structure Tables where
  records : List RecordRow
  servers : List ServerRow
deriving DecidableEq, Repr

/-- A double as a database column holds it. -/
def columnNumber? (x : Binary64) : Option Binary64 :=
  if x.isNaN then none else if x.isZero then some .zero else some x

/-- The row of a record. -/
def RecordRow.ofRecord (id : Nat) (r : Record) : RecordRow :=
  ⟨id, r.time.text, r.server, r.object, r.variableName, r.value.display,
    r.value.number?.bind columnNumber?⟩

/-- The rows of records, numbered from `first`. -/
def recordRows (first : Nat) : List Record → List RecordRow
  | [] => []
  | r :: rest => .ofRecord first r :: recordRows (first + 1) rest

/-- The row of a server. -/
def ServerRow.ofServer (s : Server) : ServerRow := ⟨s.id, s.name, s.url⟩

/-! ## Statements -/

/-- How many rows one statement inserts at most. -/
def statementRows : Nat := 150

/-- A list in pieces of a given length; the last one may be shorter. `fuel` bounds their
number. -/
def pieces {α : Type} (size : Nat) : (fuel : Nat) → List α → List (List α)
  | _, [] => []
  | 0, _ :: _ => []
  | fuel + 1, a :: l => (a :: l).take size :: pieces size fuel ((a :: l).drop size)

/-- The rows of each statement that is needed to insert a list of them. -/
def statements {α : Type} (rows : List α) : List (List α) := pieces statementRows rows.length rows

/-- A database while it is written. -/
structure Database where
  /-- The table of records in the order of insertion. -/
  records : List RecordRow
  /-- The greatest number that was given to a record. -/
  lastId : Nat
  servers : SortedMap ServerId ServerRow
deriving Repr

namespace Database

/-- A database with its tables and no rows. -/
def empty : Database := ⟨[], 0, .empty⟩

/-- One statement that inserts records. They get the next numbers, in their order. -/
def insertRecords (d : Database) (rows : List Record) : Database :=
  { d with records := d.records ++ recordRows (d.lastId + 1) rows, lastId := d.lastId + rows.length }

/-- One statement that inserts servers. A row replaces an earlier one with its identifier. -/
def putServers (d : Database) (rows : List Server) : Database :=
  { d with servers := rows.foldl (fun m s => m.insert s.id (.ofServer s)) d.servers }

/-- The database of records and servers. -/
def write (records : List Record) (servers : List Server) : Database :=
  (statements servers).foldl putServers ((statements records).foldl insertRecords empty)

end Database

/-- The tables for records and servers. -/
def Tables.of (records : List Record) (servers : List Server) : Tables :=
  let d := Database.write records servers
  ⟨d.records, d.servers.toList.map (·.2)⟩

end SensorGateway.Export
