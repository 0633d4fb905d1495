/-
# SensorGateway.Export.Csv -- recordings as comma-separated values

A row is its fields with commas between and a line break of two characters behind. A
field that holds a comma, a quote or a part of a line break, or begins with a space,
stands in quotes, where every quote is written twice. `parse?` reads such a text back
into rows.
-/
import SensorGateway.Record

namespace SensorGateway.Export.Csv

/-! ## Writing -/

/-- Whether a field has to stand in quotes. -/
def needsQuotes (cs : List Char) : Bool :=
  cs.any (fun c => c = ',' || c = '"' || c = '\r' || c = '\n') || cs.head? = some ' '

/-- Writes every quote twice. -/
def doubleQuotes : List Char → List Char
  | [] => []
  | c :: rest => if c = '"' then '"' :: '"' :: doubleQuotes rest else c :: doubleQuotes rest

/-- A field of a row. -/
def encodeField (cs : List Char) : List Char :=
  if needsQuotes cs then '"' :: (doubleQuotes cs ++ ['"']) else cs

/-- A row with its line break. -/
def encodeRow : List (List Char) → List Char
  | [] => ['\r', '\n']
  | [f] => encodeField f ++ ['\r', '\n']
  | f :: rest => encodeField f ++ ',' :: encodeRow rest

/-- Rows one after the other. -/
def encodeRows (rows : List (List (List Char))) : List Char := rows.flatMap encodeRow

/-! ## Reading -/

/-- A quoted field after its opening quote, and what follows the closing one. -/
def quoted? : List Char → Option (List Char × List Char)
  | [] => none
  | '"' :: '"' :: rest => (quoted? rest).map fun r => ('"' :: r.1, r.2)
  | '"' :: rest => some ([], rest)
  | c :: rest => (quoted? rest).map fun r => (c :: r.1, r.2)

/-- A field without quotes: everything up to a comma or a line break. A quote cannot stand in
it. -/
def bare? : List Char → Option (List Char × List Char)
  | [] => some ([], [])
  | c :: rest =>
    if c = ',' ∨ c = '\r' then some ([], c :: rest)
    else if c = '"' ∨ c = '\n' then none
    else (bare? rest).map fun r => (c :: r.1, r.2)

/-- A field, and what follows it. -/
def field? : List Char → Option (List Char × List Char)
  | '"' :: rest => quoted? rest
  | cs => bare? cs

/-- The fields of a row, and what follows its line break. `fuel` bounds the number of
fields. -/
def row? : (fuel : Nat) → List Char → Option (List (List Char) × List Char)
  | 0, _ => none
  | fuel + 1, cs => do
    let (f, rest) ← field? cs
    match rest with
    | ',' :: rest => (row? fuel rest).map fun r => (f :: r.1, r.2)
    | '\r' :: '\n' :: rest => some ([f], rest)
    | _ => none

/-- All rows of a text. `fuel` bounds their number. -/
def rows? : (fuel : Nat) → List Char → Option (List (List (List Char)))
  | _, [] => some []
  | 0, _ :: _ => none
  | fuel + 1, c :: cs => do
    let (r, rest) ← row? (cs.length + 1) (c :: cs)
    return r :: (← rows? fuel rest)

/-- The rows of a text in which every row ends with a line break. -/
def parse? (cs : List Char) : Option (List (List (List Char))) := rows? cs.length cs

/-! ## Records -/

/-- The names of the columns. -/
def header : List String := ["timestamp", "server_id", "object_name", "variable_name", "value"]

/-- The fields of a record. -/
def fields (r : Record) : List String :=
  [r.time.text, r.server, r.object, r.variableName, r.value.display]

/-- The header and one row per record. -/
def encode (records : List Record) : String :=
  String.ofList (encodeRows ((header :: records.map fields).map (·.map String.toList)))

end SensorGateway.Export.Csv
