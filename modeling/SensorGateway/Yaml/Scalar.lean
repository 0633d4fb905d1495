/-
# SensorGateway.Yaml.Scalar -- the three ways to write a scalar

A plain scalar stands for itself, a quoted one may hold anything, a block one is
indented text. Line breaks inside plain and quoted scalars are folded: a single one
becomes a space, of several the first is dropped. Blanks around them do not count.
-/
import SensorGateway.Yaml.Cursor

namespace SensorGateway.Yaml

/-- How a scalar is written. -/
inductive Style where
  | plain
  | quoted
  /-- A block scalar that keeps its line breaks. -/
  | literal
  /-- A block scalar that folds its line breaks. -/
  | folded
deriving DecidableEq, Repr

/-! ## Blanks and breaks inside a scalar -/

/-- What stands between two pieces of a scalar. -/
structure Gap where
  /-- The blanks, in order; they count only where there is no break. -/
  blanks : List Char
  /-- The first break and all later ones. -/
  breaks : Option (List Char × List Char)

/-- Folded breaks: a single one is a space, of several the first is dropped. A separator of
lines or paragraphs is never folded. -/
def foldBreaks (first later : List Char) : List Char :=
  if first = ['\n'] then (if later = [] then [' '] else later) else first ++ later

/-- What a gap stands for in the scalar. -/
def Gap.text (g : Gap) : List Char :=
  match g.breaks with
  | none => g.blanks
  | some (first, later) => foldBreaks first later

/-- Passes blanks and breaks. In a plain scalar a tab cannot indent a line less than
`indent`. `fuel` bounds the number of characters. -/
def Gap.scan (indent : Option Nat) (g : Gap) (c : Cursor) : (fuel : Nat) →
    Except Fault (Gap × Cursor)
  | 0 => .ok (g, c)
  | fuel + 1 =>
    match c.next with
    | none => .ok (g, c)
    | some b =>
      if isBlank b then
        match g.breaks with
        | none => Gap.scan indent { g with blanks := g.blanks ++ [b] } (c.skip 1) fuel
        | some _ =>
          if b = '\t' && indent.any (c.column < ·) then .error .tabIndentation
          else Gap.scan indent g (c.skip 1) fuel
      else if isBreak b then
        let (br, c) := c.skipBreak
        match g.breaks with
        | none => Gap.scan indent ⟨[], some (br, [])⟩ c fuel
        | some (first, later) => Gap.scan indent ⟨[], some (first, later ++ br)⟩ c fuel
      else .ok (g, c)

/-! ## Plain scalars -/

/-- The brackets and the comma of flow collections. -/
def isFlowMark (c : Char) : Bool := c = ',' || c = '[' || c = ']' || c = '{' || c = '}'

/-- The characters up to the end of a word of a plain scalar. -/
def plainWord (inFlow : Bool) : List Char → Except Fault (List Char)
  | [] => .ok []
  | c :: rest =>
    if isBlank c || isBreak c then .ok []
    else if inFlow && c = ':' && rest.head?.any (fun d => isFlowMark d || d = '?') then
      .error .unexpectedCharacter
    else if c = ':' && isGap rest.head? then .ok []
    else if inFlow && isFlowMark c then .ok []
    else (plainWord inFlow rest).map (c :: ·)

/-- A scalar read, the place behind it, and whether a line break stands last before that
place. -/
structure Plain where
  text : List Char
  cursor : Cursor
  afterBreak : Bool

/-- The words of a plain scalar. `indent` is the least column of its later lines, which only
block context asks for. -/
def plainWords (inFlow : Bool) (indent : Nat) (text : List Char) (g : Gap) (c : Cursor) :
    (fuel : Nat) → Except Fault Plain
  | 0 => .ok ⟨text, c, g.breaks.isSome⟩
  | fuel + 1 => do
    let stop : Plain := ⟨text, c, g.breaks.isSome⟩
    if c.atDocumentMarker || c.next = some '#' then return stop
    let word ← plainWord inFlow c.rest
    if word = [] then return stop
    let text := text ++ g.text ++ word
    let c := c.skip word.length
    if !c.nextIs (fun b => isBlank b || isBreak b) then return ⟨text, c, false⟩
    let (g, c) ← Gap.scan (some indent) ⟨[], none⟩ c (c.rest.length + 1)
    if !inFlow && c.column < indent then return ⟨text, c, g.breaks.isSome⟩
    plainWords inFlow indent text g c fuel

/-- A plain scalar. -/
def plainScalar (inFlow : Bool) (indent : Nat) (c : Cursor) : Except Fault Plain :=
  plainWords inFlow indent [] ⟨[], none⟩ c (c.rest.length + 1)

/-! ## Quoted scalars -/

/-- The characters of one-letter escapes. -/
def letterEscapes : List (Char × Char) :=
  [('0', '\x00'), ('a', '\x07'), ('b', '\x08'), ('t', '\t'), ('\t', '\t'), ('n', '\n'),
   ('v', '\x0b'), ('f', '\x0c'), ('r', '\r'), ('e', '\x1b'), (' ', ' '), ('"', '"'),
   ('/', '/'), ('\\', '\\'), ('N', '\u0085'), ('_', '\u00a0'), ('L', '\u2028'),
   ('P', '\u2029')]

/-- How many digits follow the letter of a numeric escape. -/
def escapeDigits : Char → Option Nat
  | 'x' => some 2
  | 'u' => some 4
  | 'U' => some 8
  | _ => none

/-- The character of an escape after its backslash, and the length of the escape there. -/
def escape (c : Cursor) : Except Fault (Char × Nat) :=
  match c.next with
  | none => .error .badEscape
  | some e =>
    match letterEscapes.lookup e, escapeDigits e with
    | some ch, _ => .ok (ch, 1)
    | none, none => .error .badEscape
    | none, some n =>
      let ds := (c.rest.drop 1).take n
      match Text.Hex.decode? ds with
      | none => .error .badEscape
      | some code =>
        if ds.length = n ∧ code.isValidChar then .ok (Char.ofNat code, n + 1)
        else .error .badEscape

/-- A piece of a quoted scalar up to a gap, its end, or an escaped line break. -/
structure Piece where
  text : List Char
  cursor : Cursor
  /-- Whether an escaped line break ended the piece. -/
  joined : Bool

/-- The next piece of a quoted scalar. -/
def quotedPiece (single : Bool) (text : List Char) (c : Cursor) : (fuel : Nat) →
    Except Fault Piece
  | 0 => .error .unterminated
  | fuel + 1 =>
    match c.next with
    | none => .ok ⟨text, c, false⟩
    | some b =>
      if isBlank b || isBreak b then .ok ⟨text, c, false⟩
      else if single then
        if b = '\'' then
          if c.peek 1 = some '\'' then quotedPiece single (text ++ ['\'']) (c.skip 2) fuel
          else .ok ⟨text, c, false⟩
        else quotedPiece single (text ++ [b]) (c.skip 1) fuel
      else if b = '"' then .ok ⟨text, c, false⟩
      else if b = '\\' then
        if (c.peek 1).any isBreak then .ok ⟨text, (c.skip 1).skipBreak.2, true⟩
        else
          match escape (c.skip 1) with
          | .error e => .error e
          | .ok (ch, n) => quotedPiece single (text ++ [ch]) (c.skip (n + 1)) fuel
      else quotedPiece single (text ++ [b]) (c.skip 1) fuel

/-- A quoted scalar after its opening quote. -/
def quotedRest (single : Bool) (text : List Char) (c : Cursor) : (fuel : Nat) →
    Except Fault (List Char × Cursor)
  | 0 => .error .unterminated
  | fuel + 1 => do
    if c.atDocumentMarker || c.atEnd then throw .unterminated
    let p ← quotedPiece single text c (c.rest.length + 1)
    if p.cursor.next = some (if single then '\'' else '"') then
      return (p.text, p.cursor.skip 1)
    let start : Gap := ⟨[], if p.joined then some ([], []) else none⟩
    let (g, c) ← Gap.scan none start p.cursor (p.cursor.rest.length + 1)
    quotedRest single (p.text ++ g.text) c fuel

/-- A quoted scalar with its quotes. -/
def quotedScalar (single : Bool) (c : Cursor) : Except Fault (List Char × Cursor) :=
  quotedRest single [] (c.skip 1) (c.rest.length + 1)

/-! ## Block scalars -/

/-- What happens to the line breaks at the end of a block scalar. -/
inductive Chomping where
  /-- All are dropped. -/
  | strip
  /-- One is kept. -/
  | clip
  /-- All are kept. -/
  | keep
deriving DecidableEq, Repr

/-- The first line of a block scalar: what happens at its end and its indentation, if given. -/
def blockHeader (c : Cursor) : Except Fault (Chomping × Option Nat × Cursor) :=
  let chomping := fun (c : Cursor) => match c.next with
    | some '+' => (Chomping.keep, c.skip 1)
    | some '-' => (Chomping.strip, c.skip 1)
    | _ => (Chomping.clip, c)
  let digit := fun (c : Cursor) => match c.next with
    | some d => if d.isDigit then (some (Text.decimalValue [d]), c.skip 1) else (none, c)
    | none => (none, c)
  let (ch, c₁) := chomping c
  let (n, c₂) := digit c₁
  let (ch, c₃) := if ch = .clip ∧ n.isSome then chomping c₂ else (ch, c₂)
  if n = some 0 then .error .badBlockHeader else .ok (ch, n, c₃)

/-- Passes indentation and empty lines. `indent` is zero as long as it is not known; `widest`
is the greatest column met. The result has the breaks passed. -/
def blockBreaks (indent : Nat) (widest : Nat) (breaks : List Char) (c : Cursor) :
    (fuel : Nat) → Except Fault (Nat × List Char × Cursor)
  | 0 => .ok (widest, breaks, c)
  | fuel + 1 =>
    let open' := fun (column : Nat) => indent = 0 || column < indent
    let spaces := (c.rest.takeWhile (· = ' ')).length
    let spaces := if indent = 0 then spaces else min spaces (indent - c.column)
    let c := c.skip spaces
    let widest := max widest c.column
    if open' c.column && c.next = some '\t' then .error .tabIndentation
    else if c.nextIs isBreak then
      let (br, c) := c.skipBreak
      blockBreaks indent widest (breaks ++ br) c fuel
    else .ok (widest, breaks, c)

/-- The lines of a block scalar. `lead` is the break before the next line, `breaks` the empty
lines after it, `leadBlank` says whether the last line began with a blank. -/
def blockLines (literal : Bool) (indent : Nat) (text lead breaks : List Char) (leadBlank : Bool)
    (c : Cursor) : (fuel : Nat) → Except Fault (List Char × List Char × List Char × Cursor)
  | 0 => .ok (text, lead, breaks, c)
  | fuel + 1 => do
    if c.column ≠ indent ∨ c.atEnd then return (text, lead, breaks, c)
    let blank := c.nextIs isBlank
    let joint := if !literal && lead = ['\n'] && !leadBlank && !blank then
        (if breaks = [] then [' '] else [])
      else lead
    let (line, c) := c.takeWhile (!isBreak ·)
    let text := text ++ joint ++ breaks ++ line
    let (lead, c) := c.skipBreak
    let (_, breaks, c) ← blockBreaks indent 0 [] c (c.rest.length + 1)
    blockLines literal indent text lead breaks blank c fuel

/-- A block scalar. `parent` is the indentation of the collection around it, `-1` for none. -/
def blockScalar (literal : Bool) (parent : Int) (c : Cursor) :
    Except Fault (List Char × Cursor) := do
  let (chomping, given, c) ← blockHeader (c.skip 1)
  let c ← c.skipLineEnd
  let known := match given with
    | none => 0
    | some n => (max parent 0).toNat + n
  let (widest, breaks, c) ← blockBreaks known 0 [] c (c.rest.length + 1)
  let indent := if known = 0 then max (max widest (parent + 1).toNat) 1 else known
  let (text, lead, breaks, c) ← blockLines literal indent [] [] breaks false c (c.rest.length + 1)
  let tail := match chomping with
    | .strip => []
    | .clip => lead
    | .keep => lead ++ breaks
  return (text ++ tail, c)

end SensorGateway.Yaml
