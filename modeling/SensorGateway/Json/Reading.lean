/-
# SensorGateway.Json.Reading -- JSON text as far as it is well formed

Reading never fails: a place where the text stops being JSON is a leaf `fault`, and
what stood before it is kept. A decoder that walks the reading in order therefore
meets a wrong value before the fault behind it, or the fault first, just as someone
reading the text from left to right would. Numbers stay tokens and a string with half
a surrogate pair stays a string, because neither matters in a member that nobody asks
for.

A text of data is read as that data: `ofJson` embeds values, and `value?` is its
inverse on readings without faults.
-/
import SensorGateway.Json
import SensorGateway.Json.Number

namespace SensorGateway.Json

/-- JSON text as far as it is well formed. -/
inductive Reading where
  | null
  | bool (b : Bool)
  | number (t : Number)
  /-- A string; `none` when an escape names half a surrogate pair alone. -/
  | text (s : Option String)
  | list (items : List Reading)
  | record (members : List (Option String × Reading))
  /-- The text is not JSON from here on. -/
  | fault
deriving Inhabited, Repr

namespace Reading

/-! ## Tokens -/

/-- The white space between tokens. -/
def isSpace (c : Char) : Bool := c = ' ' || c = '\n' || c = '\t' || c = '\r'

/-- Drops white space at the front. -/
def skipSpace (cs : List Char) : List Char := cs.dropWhile isSpace

/-- The number of four hexadecimal digits, and what follows. -/
def hexEscape? : List Char → Option (Nat × List Char)
  | a :: b :: c :: d :: rest => (Text.Hex.decode? [a, b, c, d]).map fun n => (n, rest)
  | _ => none

/-- A code unit that begins a surrogate pair. -/
def isHighSurrogate (n : Nat) : Bool := 0xD800 ≤ n && n ≤ 0xDBFF

/-- A code unit that ends a surrogate pair. -/
def isLowSurrogate (n : Nat) : Bool := 0xDC00 ≤ n && n ≤ 0xDFFF

/-- The second half of a surrogate pair, when it follows at once. -/
def lowEscape? : List Char → Option (Nat × List Char)
  | '\\' :: 'u' :: rest => (hexEscape? rest).bind fun r =>
    if isLowSurrogate r.1 then some r else none
  | _ => none

/-- The character that a two-character escape stands for. -/
def simpleEscape? : Char → Option Char
  | '"' => some '"'
  | '\\' => some '\\'
  | '/' => some '/'
  | 'b' => some '\x08'
  | 'f' => some '\x0c'
  | 'n' => some '\n'
  | 'r' => some '\r'
  | 't' => some '\t'
  | _ => none

/-- A string after its opening quote: the characters, `none` among them for half a
surrogate pair, and what follows the closing quote. The whole is `none` when the string
is not well formed. `fuel` bounds the number of characters. -/
def stringRest? : (fuel : Nat) → List Char → Option (List (Option Char) × List Char)
  | 0, _ => none
  | _ + 1, [] => none
  | fuel + 1, c :: rest =>
    if c = '"' then some ([], rest)
    else if c = '\\' then
      match rest with
      | 'u' :: rest =>
        match hexEscape? rest with
        | none => none
        | some (n, rest) =>
          if isHighSurrogate n then
            match lowEscape? rest with
            | some (m, rest') =>
              let c := Char.ofNat (0x10000 + (n - 0xD800) * 0x400 + (m - 0xDC00))
              (stringRest? fuel rest').map fun r => (some c :: r.1, r.2)
            | none => (stringRest? fuel rest).map fun r => (none :: r.1, r.2)
          else if isLowSurrogate n then
            (stringRest? fuel rest).map fun r => (none :: r.1, r.2)
          else (stringRest? fuel rest).map fun r => (some (Char.ofNat n) :: r.1, r.2)
      | e :: rest =>
        match simpleEscape? e with
        | none => none
        | some c => (stringRest? fuel rest).map fun r => (some c :: r.1, r.2)
      | [] => none
    else if c.toNat < 0x20 then none
    else (stringRest? fuel rest).map fun r => (some c :: r.1, r.2)

/-- A string after its opening quote, and what follows it. -/
def string? (cs : List Char) : Option (Option String × List Char) :=
  (stringRest? (cs.length + 1) cs).map fun r => ((r.1.mapM id).map String.ofList, r.2)

/-- The digits at the front, if there are any, and what follows. -/
def digits? (cs : List Char) : Option (List Char × List Char) :=
  let ds := cs.takeWhile Char.isDigit
  if ds = [] then none else some (ds, cs.dropWhile Char.isDigit)

/-- The digits before the point: a zero alone, or no zero in front. -/
def whole? : List Char → Option (List Char × List Char)
  | '0' :: rest =>
    match rest with
    | c :: _ => if c.isDigit then none else some (['0'], rest)
    | [] => some (['0'], rest)
  | cs => digits? cs

/-- The exponent of a number token: `some none` when there is none. -/
def exponent? : List Char → Option (Option (Bool × List Char) × List Char)
  | c :: rest =>
    if c = 'e' ∨ c = 'E' then
      let (down, rest) := match rest with
        | '+' :: rest => (false, rest)
        | '-' :: rest => (true, rest)
        | rest => (false, rest)
      (digits? rest).map fun r => (some (down, r.1), r.2)
    else some (none, c :: rest)
  | [] => some (none, [])

/-- A number token after its sign. -/
def unsigned? (negative : Bool) (cs : List Char) : Option (Number × List Char) := do
  let (whole, rest) ← whole? cs
  let (fraction, rest) ← match rest with
    | '.' :: rest => (digits? rest).map fun r => (some r.1, r.2)
    | rest => some (none, rest)
  let (exponent, rest) ← exponent? rest
  return (⟨negative, whole, fraction, exponent⟩, rest)

/-- A number token. -/
def number? : List Char → Option (Number × List Char)
  | '-' :: rest => unsigned? true rest
  | cs => unsigned? false cs

/-- What follows the given word, if the text begins with it. -/
def afterWord? : (word : List Char) → List Char → Option (List Char)
  | [], cs => some cs
  | w :: word, c :: cs => if w = c then afterWord? word cs else none
  | _ :: _, [] => none

/-- A reading and the text behind it, `none` when the text broke inside the reading. -/
abbrev Step (α : Type) := α × Option (List Char)

/-- A token that is a whole value. -/
def word (word : List Char) (r : Reading) (cs : List Char) : Step Reading :=
  match afterWord? word cs with
  | some rest => (r, some rest)
  | none => (.fault, none)

/-! ## Values -/

mutual

/-- A value at the front of the text, which has no white space there. `fuel` bounds the
number of values. -/
def value : (fuel : Nat) → List Char → Step Reading
  | 0, _ => (.fault, none)
  | _ + 1, [] => (.fault, none)
  | fuel + 1, c :: rest =>
    if c = '"' then
      match string? rest with
      | some (s, rest) => (.text s, some rest)
      | none => (.fault, none)
    else if c = '[' then
      match skipSpace rest with
      | ']' :: rest => (.list [], some rest)
      | rest => let (items, rest) := itemsFrom fuel rest; (.list items, rest)
    else if c = '{' then
      match skipSpace rest with
      | '}' :: rest => (.record [], some rest)
      | rest => let (members, rest) := membersFrom fuel rest; (.record members, rest)
    else if c = 'n' then word ['u', 'l', 'l'] .null rest
    else if c = 't' then word ['r', 'u', 'e'] (.bool true) rest
    else if c = 'f' then word ['a', 'l', 's', 'e'] (.bool false) rest
    else
      match number? (c :: rest) with
      | some (t, rest) => (.number t, some rest)
      | none => (.fault, none)

/-- The items of an array that has one. -/
def itemsFrom : (fuel : Nat) → List Char → Step (List Reading)
  | 0, _ => ([.fault], none)
  | fuel + 1, cs =>
    match value fuel cs with
    | (v, none) => ([v], none)
    | (v, some rest) =>
      match skipSpace rest with
      | ',' :: rest =>
        let (items, rest) := itemsFrom fuel (skipSpace rest)
        (v :: items, rest)
      | ']' :: rest => ([v], some rest)
      | _ => ([v, .fault], none)

/-- The members of an object that has one. -/
def membersFrom : (fuel : Nat) → List Char → Step (List (Option String × Reading))
  | 0, _ => ([(none, .fault)], none)
  | fuel + 1, cs =>
    match cs with
    | '"' :: rest =>
      match string? rest with
      | none => ([(none, .fault)], none)
      | some (key, rest) =>
        match skipSpace rest with
        | ':' :: rest =>
          match value fuel (skipSpace rest) with
          | (v, none) => ([(key, v)], none)
          | (v, some rest) =>
            match skipSpace rest with
            | ',' :: rest =>
              let (members, rest) := membersFrom fuel (skipSpace rest)
              ((key, v) :: members, rest)
            | '}' :: rest => ([(key, v)], some rest)
            | _ => ([(key, v), (none, .fault)], none)
        | _ => ([(key, .fault)], none)
    | _ => ([(none, .fault)], none)

end

/-- A text read as one value. -/
structure Document where
  value : Reading
  /-- Whether the text ends with the value, white space apart. -/
  complete : Bool

/-- Reads a text. -/
def ofChars (cs : List Char) : Document :=
  let (v, rest) := value (2 * cs.length + 2) (skipSpace cs)
  ⟨v, match rest with
    | some rest => skipSpace rest = []
    | none => false⟩

/-- Reads a text. -/
def ofText (s : String) : Document := ofChars s.toList

/-! ## Readings and data -/

/-- The token of an integer. -/
def tokenOfInt (n : Int) : Number :=
  ⟨decide (n < 0), Nat.toDigits 10 n.natAbs, none, none⟩

/-- The token in the text of a number. -/
def tokenOfText (s : String) : Reading :=
  match number? s.toList with
  | some (t, []) => .number t
  | _ => .fault

mutual

/-- The reading of a value's own text. -/
def ofJson : Json → Reading
  | .null => .null
  | .bool b => .bool b
  | .int n => .number (tokenOfInt n)
  | .float x => tokenOfText (Binary64.Layout.json.text x)
  | .str s => .text (some s)
  | .arr items => .list (ofItems items)
  | .obj members => .record (ofMembers members)

/-- The readings of the items of an array. -/
def ofItems : List Json → List Reading
  | [] => []
  | v :: rest => ofJson v :: ofItems rest

/-- The readings of the members of an object. -/
def ofMembers : List (String × Json) → List (Option String × Reading)
  | [] => []
  | (k, v) :: rest => (some k, ofJson v) :: ofMembers rest

end

mutual

/-- The data in a reading without faults. -/
def value? : Reading → Option Json
  | .null => some .null
  | .bool b => some (.bool b)
  | .number t => t.value?.map fun
    | .int n => .int n
    | .float x => .float x
  | .text s => s.map .str
  | .list items => (values? items).map .arr
  | .record members => (memberValues? members).map .obj
  | .fault => none

/-- The data in the items of an array. -/
def values? : List Reading → Option (List Json)
  | [] => some []
  | r :: rest => do return (← value? r) :: (← values? rest)

/-- The data in the members of an object. -/
def memberValues? : List (Option String × Reading) → Option (List (String × Json))
  | [] => some []
  | (k, r) :: rest => do return ((← k), (← value? r)) :: (← memberValues? rest)

end

end Reading

/-- The value that a text writes, if it is JSON. -/
def ofText? (s : String) : Option Json :=
  let d := Reading.ofText s
  if d.complete then d.value.value? else none

end SensorGateway.Json
