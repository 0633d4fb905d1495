/-
# SensorGateway.Yaml.Token -- the tokens of a YAML text

Block structure is made explicit: a deeper column opens a block, a shallower one
closes it. A scalar that may turn out to be a key is remembered until its colon is
met; then the key token is put in front of it. Such a key stands on one line, within
1024 characters.
-/
import SensorGateway.Yaml.Scalar

namespace SensorGateway.Yaml

/-- A token. -/
inductive Token where
  | versionDirective (major minor : Nat)
  | tagDirective (handle expansion : String)
  | documentStart
  | documentEnd
  | blockSequenceStart
  | blockMappingStart
  | blockEnd
  | flowSequenceStart
  | flowSequenceEnd
  | flowMappingStart
  | flowMappingEnd
  | blockEntry
  | flowEntry
  | key
  | value
  | alias (name : String)
  | anchor (name : String)
  | tag (handle suffix : String)
  | scalar (style : Style) (text : String)
deriving DecidableEq, Repr

/-- A place where a key may have begun. -/
structure PossibleKey where
  /-- How many tokens stand before it. -/
  position : Nat
  cursor : Cursor
  /-- Whether nothing but a key can stand there. -/
  required : Bool

/-- The state of reading tokens. -/
structure Lexer where
  cursor : Cursor
  tokens : Array Token
  /-- The columns of the open blocks, innermost first; `-1` is the document. -/
  indents : List Int
  /-- The possible key of each open flow collection, innermost first, then that of the block
  context. -/
  keys : List (Option PossibleKey)
  /-- Whether a key may begin at the next token. -/
  keyAllowed : Bool

namespace Lexer

/-- Before the first token. -/
def start (cs : List Char) : Lexer := ⟨Cursor.start cs, #[], [-1], [none], true⟩

/-- Whether a flow collection is open. -/
def inFlow (l : Lexer) : Bool := 1 < l.keys.length

/-- The column of the innermost open block. -/
def indent (l : Lexer) : Int := l.indents.headD (-1)

/-- Adds a token. -/
def push (l : Lexer) (t : Token) : Lexer := { l with tokens := l.tokens.push t }

/-- Adds a token before the token at `position`. -/
def pushAt (l : Lexer) (position : Nat) (t : Token) : Lexer :=
  { l with tokens := l.tokens.extract 0 position ++ #[t] ++
      l.tokens.extract position l.tokens.size }

/-! ## Possible keys -/

/-- Forgets keys that are too far back. -/
def dropStaleKeys (l : Lexer) : Except Fault Lexer := do
  let keys ← l.keys.mapM fun
    | none => .ok none
    | some k =>
      if k.cursor.line < l.cursor.line ∨ k.cursor.index + 1024 < l.cursor.index then
        if k.required then .error .missingColon else .ok none
      else .ok (some k)
  return { l with keys }

/-- Forgets the innermost possible key. -/
def dropKey (l : Lexer) : Except Fault Lexer :=
  match l.keys with
  | some k :: rest =>
    if k.required then .error .missingColon else .ok { l with keys := none :: rest }
  | _ => .ok l

/-- Remembers that a key may begin here. -/
def saveKey (l : Lexer) : Except Fault Lexer :=
  if l.keyAllowed then do
    let required := !l.inFlow && l.indent = l.cursor.column
    let l ← l.dropKey
    return { l with keys := some ⟨l.tokens.size, l.cursor, required⟩ :: l.keys.drop 1 }
  else .ok l

/-! ## Blocks -/

/-- Opens a block at a column further right, with its token at `position`. -/
def openBlock (l : Lexer) (column : Nat) (position : Nat) (t : Token) : Lexer :=
  if l.inFlow || (column : Int) ≤ l.indent then l
  else { l.pushAt position t with indents := (column : Int) :: l.indents }

/-- Closes the blocks that are further right than a column. -/
def closeBlocks (l : Lexer) (column : Int) : Lexer :=
  if l.inFlow then l
  else
    let closed := l.indents.takeWhile (column < ·)
    { l with
      tokens := l.tokens ++ Array.replicate closed.length .blockEnd
      indents := l.indents.drop closed.length }

/-! ## Space between tokens -/

/-- Passes blanks, comments and line breaks. A tab counts as a blank where no key may begin.
A new line in block context allows a key. `fuel` bounds the number of lines. -/
def skipSpace (l : Lexer) : (fuel : Nat) → Lexer
  | 0 => l
  | fuel + 1 =>
    let c := if l.cursor.index = 0 ∧ l.cursor.next = some '\uFEFF' then l.cursor.skip 1
      else l.cursor
    let tabs := l.inFlow || !l.keyAllowed
    let c := c.skipWhile fun b => b = ' ' || (tabs && b = '\t')
    let c := if c.next = some '#' then c.skipWhile (!isBreak ·) else c
    if c.nextIs isBreak then
      skipSpace { l with cursor := c.skipBreak.2, keyAllowed := l.keyAllowed || !l.inFlow } fuel
    else { l with cursor := c }

/-! ## Directives, anchors and tags -/

/-- A number of a version, at most nine digits. -/
def versionNumber (c : Cursor) : Except Fault (Nat × Cursor) :=
  let (ds, c) := c.takeWhile Char.isDigit
  if ds = [] ∨ 9 < ds.length then .error .badDirective else .ok (Text.decimalValue ds, c)

/-- The characters of tags. The brackets and the comma count only where `all` says so. -/
def isTagChar (all : Bool) (c : Char) : Bool :=
  isNameChar c || ";/?:@&=+$.%!~*'()".toList.contains c || (all && ",[]".toList.contains c)

/-- Replaces the escapes of bytes in a tag. -/
def unescapeTag : List Char → Except Fault (List UInt8)
  | [] => .ok []
  | '%' :: a :: b :: rest =>
    match Text.Hex.decode? [a, b] with
    | none => .error .badTag
    | some n => (unescapeTag rest).map (UInt8.ofNat n :: ·)
  | '%' :: _ => .error .badTag
  | c :: rest => (unescapeTag rest).map (Text.Utf8.encode (String.singleton c) ++ ·)

/-- The text of a tag in which bytes may be escaped. -/
def tagText (cs : List Char) : Except Fault String := do
  match Text.Utf8.decode? (← unescapeTag cs) with
  | some s => return s
  | none => throw .badTag

/-- The handle of a tag: an exclamation mark, alone or around a name. A handle that is not
closed is only the beginning of a tag. -/
def tagHandle (c : Cursor) : Except Fault (List Char × Cursor) :=
  if c.next ≠ some '!' then .error .badTag
  else
    let (name, c) := (c.skip 1).takeWhile isNameChar
    if c.next = some '!' then .ok ('!' :: (name ++ ['!']), c.skip 1)
    else .ok ('!' :: name, c)

/-- A directive and the rest of its line. -/
def directive (c : Cursor) : Except Fault (Token × Cursor) := do
  let (name, c) := (c.skip 1).takeWhile isNameChar
  if name = [] ∨ !isGap c.next then throw .badDirective
  let c := c.skipWhile isBlank
  if name = "YAML".toList then
    let (major, c) ← versionNumber c
    if c.next ≠ some '.' then throw .badDirective
    let (minor, c) ← versionNumber (c.skip 1)
    return (.versionDirective major minor, ← c.skipLineEnd)
  else if name = "TAG".toList then
    let (handle, c) ← tagHandle c
    if handle ≠ ['!'] ∧ (handle.getLast? ≠ some '!') then throw .badTag
    if !c.nextIs isBlank then throw .badTag
    let (uri, c) := (c.skipWhile isBlank).takeWhile (isTagChar true)
    if uri = [] ∨ !isGap c.next then throw .badTag
    return (.tagDirective (String.ofList handle) (← tagText uri), ← c.skipLineEnd)
  else throw .badDirective

/-- The name of an anchor or an alias, after its mark. -/
def anchorName (c : Cursor) : Except Fault (String × Cursor) :=
  let (name, c) := c.takeWhile isNameChar
  let ends := isGap c.next || c.nextIs ("?:,]\x7d%@`".toList.contains ·)
  if name = [] ∨ !ends then .error .badAnchor else .ok (String.ofList name, c)

/-- A tag. -/
def tag (inFlow : Bool) (c : Cursor) : Except Fault (Token × Cursor) := do
  let (handle, suffix, c) ←
    if c.peek 1 = some '<' then do
      let (uri, c) := (c.skip 2).takeWhile (isTagChar true)
      if uri = [] ∨ c.next ≠ some '>' then throw .badTag
      pure ("", ← tagText uri, c.skip 1)
    else do
      let (handle, c) ← tagHandle c
      if 1 < handle.length ∧ handle.getLast? = some '!' then
        let (uri, c) := c.takeWhile (isTagChar false)
        if uri = [] then throw .badTag
        pure (String.ofList handle, ← tagText uri, c)
      else
        let (uri, c) := c.takeWhile (isTagChar false)
        let suffix ← tagText (handle.drop 1 ++ uri)
        pure (if suffix = "" then ("", "!", c) else ("!", suffix, c))
  if isGap c.next || (inFlow && c.next = some ',') then return (.tag handle suffix, c)
  else throw .badTag

/-! ## The next token -/

/-- Opens a flow collection. -/
def openFlow (l : Lexer) (t : Token) : Except Fault Lexer := do
  let l ← l.saveKey
  return { l.push t with cursor := l.cursor.skip 1, keys := none :: l.keys, keyAllowed := true }

/-- Closes a flow collection. -/
def closeFlow (l : Lexer) (t : Token) : Except Fault Lexer := do
  let l ← l.dropKey
  let keys := if l.inFlow then l.keys.drop 1 else l.keys
  return { l.push t with cursor := l.cursor.skip 1, keys, keyAllowed := false }

/-- A dash. -/
def blockEntry (l : Lexer) : Except Fault Lexer := do
  if !l.inFlow && !l.keyAllowed then throw .misplacedIndicator
  let l := l.openBlock l.cursor.column l.tokens.size .blockSequenceStart
  let l ← l.dropKey
  return { l.push .blockEntry with cursor := l.cursor.skip 1, keyAllowed := true }

/-- A question mark. -/
def explicitKey (l : Lexer) : Except Fault Lexer := do
  if !l.inFlow && !l.keyAllowed then throw .misplacedIndicator
  let l := l.openBlock l.cursor.column l.tokens.size .blockMappingStart
  let l ← l.dropKey
  return { l.push .key with cursor := l.cursor.skip 1, keyAllowed := !l.inFlow }

/-- A colon. -/
def valueMark (l : Lexer) : Except Fault Lexer := do
  match l.keys with
  | some k :: rest =>
    let l := l.pushAt k.position .key
    let l := l.openBlock k.cursor.column k.position .blockMappingStart
    return { l.push .value with
      cursor := l.cursor.skip 1, keys := none :: rest, keyAllowed := false }
  | _ =>
    if !l.inFlow && !l.keyAllowed then throw .misplacedIndicator
    let l := l.openBlock l.cursor.column l.tokens.size .blockMappingStart
    return { l.push .value with cursor := l.cursor.skip 1, keyAllowed := !l.inFlow }

/-- Closes all blocks before something that stands outside every block. -/
def leaveBlocks (l : Lexer) : Except Fault Lexer := do
  let l ← (l.closeBlocks (-1)).dropKey
  return { l with keyAllowed := false }

/-- A scalar that may be a key. -/
def pushScalar (l : Lexer) (style : Style) (text : List Char) (c : Cursor) (keyAllowed : Bool) :
    Lexer :=
  { l.push (.scalar style (String.ofList text)) with cursor := c, keyAllowed }

/-- Whether a plain scalar can begin with `c` followed by `next`. -/
def beginsPlain (inFlow : Bool) (c : Char) (next : Option Char) : Bool :=
  !(isBlank c || isBreak c || "-?:,[]\x7b\x7d#&*!|>'\"%@`".toList.contains c) ||
    (c = '-' && !next.any isBlank) || (!inFlow && (c = '?' || c = ':') && !isGap next)

/-- Reads the token at the cursor. -/
def token (l : Lexer) (b : Char) : Except Fault Lexer := do
  let c := l.cursor
  let gapNext := isGap (c.peek 1)
  if c.column = 0 ∧ b = '%' then
    let l ← l.leaveBlocks
    let (t, c) ← directive c
    return { l.push t with cursor := c }
  else if c.atMarker '-' then
    let l ← l.leaveBlocks
    return { l.push .documentStart with cursor := c.skip 3 }
  else if c.atMarker '.' then
    let l ← l.leaveBlocks
    return { l.push .documentEnd with cursor := c.skip 3 }
  else if b = '[' then l.openFlow .flowSequenceStart
  else if b = '{' then l.openFlow .flowMappingStart
  else if b = ']' then l.closeFlow .flowSequenceEnd
  else if b = '}' then l.closeFlow .flowMappingEnd
  else if b = ',' then
    let l ← l.dropKey
    return { l.push .flowEntry with cursor := c.skip 1, keyAllowed := true }
  else if b = '-' ∧ gapNext then l.blockEntry
  else if b = '?' ∧ (l.inFlow ∨ gapNext) then l.explicitKey
  else if b = ':' ∧ (l.inFlow ∨ gapNext) then l.valueMark
  else if b = '*' then
    let l ← l.saveKey
    let (name, c) ← anchorName (c.skip 1)
    return { l.push (.alias name) with cursor := c, keyAllowed := false }
  else if b = '&' then
    let l ← l.saveKey
    let (name, c) ← anchorName (c.skip 1)
    return { l.push (.anchor name) with cursor := c, keyAllowed := false }
  else if b = '!' then
    let l ← l.saveKey
    let (t, c) ← tag l.inFlow c
    return { l.push t with cursor := c, keyAllowed := false }
  else if (b = '|' ∨ b = '>') ∧ !l.inFlow then
    let l ← l.dropKey
    let (text, c) ← blockScalar (b = '|') l.indent c
    return l.pushScalar (if b = '|' then .literal else .folded) text c true
  else if b = '\'' ∨ b = '"' then
    let l ← l.saveKey
    let (text, c) ← quotedScalar (b = '\'') c
    return l.pushScalar .quoted text c false
  else if beginsPlain l.inFlow b (c.peek 1) then
    let l ← l.saveKey
    let p ← plainScalar l.inFlow (l.indent + 1).toNat c
    return l.pushScalar .plain p.text p.cursor p.afterBreak
  else throw .unexpectedCharacter

/-- Reads all tokens. `fuel` bounds their number. -/
def run (l : Lexer) : (fuel : Nat) → Except Fault (Array Token)
  | 0 => .error .unexpectedCharacter
  | fuel + 1 => do
    let l := l.skipSpace (l.cursor.rest.length + 1)
    let l ← l.dropStaleKeys
    let l := l.closeBlocks l.cursor.column
    match l.cursor.next with
    | none =>
      let l ← l.leaveBlocks
      return l.tokens
    | some b => (← l.token b).run fuel

end Lexer

/-- The tokens of a text. -/
def tokens (cs : List Char) : Except Fault (List Token) := do
  if !cs.all isAllowed then throw .controlCharacter
  return (← (Lexer.start cs).run (cs.length + 1)).toList

end SensorGateway.Yaml
