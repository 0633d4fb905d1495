/-
# SensorGateway.Yaml.Node -- the tree of a YAML document

The tokens are put together into one tree. A node that is left out is an empty plain
scalar. An alias stands for the whole node that has its anchor. A text holds at most
one document; an empty text counts as an empty node.
-/
import SensorGateway.Yaml.Token

namespace SensorGateway.Yaml

/-- A node of a document. Only the tag of a scalar says anything about its meaning. -/
inductive Node where
  | scalar (style : Style) (tag : Option String) (text : String)
  | list (items : List Node)
  | mapping (entries : List (Node × Node))
deriving Inhabited, Repr

/-- A node that is left out. -/
def Node.empty : Node := .scalar .plain none ""

/-- The handles of tags and what they stand for. -/
abbrev Handles := List (String × String)

/-- The handles that every document knows. -/
def standardHandles : Handles := [("!", "!"), ("!!", "tag:yaml.org,2002:")]

/-- A tag in full. -/
def Handles.resolve (handles : Handles) (handle suffix : String) : Except Fault String :=
  if handle = "" then .ok suffix
  else
    match handles.lookup handle with
    | some expansion => .ok (expansion ++ suffix)
    | none => .error .badTag

/-- The tokens still to come, and the nodes with an anchor so far, the newest first. -/
structure Stream where
  tokens : List Token
  anchors : List (String × Node)

namespace Stream

/-- Passes a token. -/
def skip (s : Stream) : Stream := { s with tokens := s.tokens.tail }

/-- Whether the next token is one of `ts`. -/
def meets (s : Stream) (ts : List Token) : Bool := s.tokens.head?.any ts.contains

/-- The anchor and the tag before a node, in either order. -/
def properties (handles : Handles) (s : Stream) :
    Except Fault (Option String × Option String × Stream) := do
  match s.tokens with
  | .anchor a :: .tag h x :: rest =>
    return (some a, some (← handles.resolve h x), { s with tokens := rest })
  | .tag h x :: .anchor a :: rest =>
    return (some a, some (← handles.resolve h x), { s with tokens := rest })
  | .anchor a :: rest => return (some a, none, { s with tokens := rest })
  | .tag h x :: rest => return (none, some (← handles.resolve h x), { s with tokens := rest })
  | _ => return (none, none, s)

mutual

/-- The next node. In block context it may be a block; as a part of an entry it may be a list
whose dashes are not indented. The fuel bounds the number of steps. -/
def node (handles : Handles) (block flush : Bool) (s : Stream) :
    (fuel : Nat) → Except Fault (Node × Stream)
  | 0 => .error .unexpectedToken
  | fuel + 1 =>
    match s.tokens with
    | .alias name :: _ =>
      match s.anchors.lookup name with
      | some n => .ok (n, s.skip)
      | none => .error .unknownAlias
    | _ => do
      let (anchor, tag, s) ← s.properties handles
      let marked := anchor.isSome || tag.isSome
      let (n, s) ← content handles block flush marked tag s fuel
      match anchor with
      | some a => return (n, { s with anchors := (a, n) :: s.anchors })
      | none => return (n, s)

/-- A node without its anchor and tag. A marked one may be left out. A lone exclamation mark is
no tag. -/
def content (handles : Handles) (block flush marked : Bool) (tag : Option String) (s : Stream) :
    (fuel : Nat) → Except Fault (Node × Stream)
  | 0 => .error .unexpectedToken
  | fuel + 1 => do
    if flush && s.meets [.blockEntry] then
      let (items, s) ← flushItems handles s fuel
      return (.list items, s)
    match s.tokens with
    | .scalar style text :: _ =>
      return (.scalar style (if tag = some "!" then none else tag) text, s.skip)
    | .flowSequenceStart :: _ =>
      let (items, s) ← flowItems handles true s.skip fuel
      return (.list items, s)
    | .flowMappingStart :: _ =>
      let (entries, s) ← flowEntries handles true s.skip fuel
      return (.mapping entries, s)
    | _ =>
      if block && s.meets [.blockSequenceStart] then
        let (items, s) ← blockItems handles s.skip fuel
        return (.list items, s)
      else if block && s.meets [.blockMappingStart] then
        let (entries, s) ← blockEntries handles s.skip fuel
        return (.mapping entries, s)
      else if marked then return (.scalar .plain tag "", s)
      else throw .unexpectedToken

/-- A node that is left out before one of `stops`. -/
def nodeUnless (handles : Handles) (block flush : Bool) (stops : List Token) (s : Stream) :
    (fuel : Nat) → Except Fault (Node × Stream)
  | 0 => .error .unexpectedToken
  | fuel + 1 => if s.meets stops then .ok (.empty, s) else node handles block flush s fuel

/-- A value, if its mark is next. -/
def valueUnless (handles : Handles) (block flush : Bool) (stops : List Token) (s : Stream) :
    (fuel : Nat) → Except Fault (Node × Stream)
  | 0 => .error .unexpectedToken
  | fuel + 1 =>
    if s.meets [.value] then nodeUnless handles block flush stops s.skip fuel else .ok (.empty, s)

/-- The items of an indented list. -/
def blockItems (handles : Handles) (s : Stream) : (fuel : Nat) → Except Fault (List Node × Stream)
  | 0 => .error .unexpectedToken
  | fuel + 1 => do
    if s.meets [.blockEntry] then
      let (n, s) ← nodeUnless handles true false [.blockEntry, .blockEnd] s.skip fuel
      let (items, s) ← blockItems handles s fuel
      return (n :: items, s)
    else if s.meets [.blockEnd] then return ([], s.skip)
    else throw .unexpectedToken

/-- The items of a list whose dashes stand under the key of its entry. -/
def flushItems (handles : Handles) (s : Stream) : (fuel : Nat) → Except Fault (List Node × Stream)
  | 0 => .error .unexpectedToken
  | fuel + 1 => do
    if s.meets [.blockEntry] then
      let (n, s) ← nodeUnless handles true false [.blockEntry, .key, .value, .blockEnd] s.skip fuel
      let (items, s) ← flushItems handles s fuel
      return (n :: items, s)
    else return ([], s)

/-- The entries of an indented mapping. -/
def blockEntries (handles : Handles) (s : Stream) :
    (fuel : Nat) → Except Fault (List (Node × Node) × Stream)
  | 0 => .error .unexpectedToken
  | fuel + 1 => do
    if s.meets [.key] then
      let stops : List Token := [.key, .value, .blockEnd]
      let (k, s) ← nodeUnless handles true true stops s.skip fuel
      let (v, s) ← valueUnless handles true true stops s fuel
      let (entries, s) ← blockEntries handles s fuel
      return ((k, v) :: entries, s)
    else if s.meets [.blockEnd] then return ([], s.skip)
    else throw .unexpectedToken

/-- The items of a list in brackets. A single entry may stand there as an item. A mark of a key
without a key hides the token behind it. -/
def flowItems (handles : Handles) (first : Bool) (s : Stream) :
    (fuel : Nat) → Except Fault (List Node × Stream)
  | 0 => .error .unexpectedToken
  | fuel + 1 => do
    if s.meets [.flowSequenceEnd] then return ([], s.skip)
    if !first && !s.meets [.flowEntry] then throw .unexpectedToken
    let s := if first then s else s.skip
    if s.meets [.flowSequenceEnd] then return ([], s.skip)
    if s.meets [.key] then
      let s := s.skip
      let (k, s) ← if s.meets [.value, .flowEntry, .flowSequenceEnd] then pure (.empty, s.skip)
        else node handles false false s fuel
      let (v, s) ← valueUnless handles false false [.flowEntry, .flowSequenceEnd] s fuel
      let (items, s) ← flowItems handles false s fuel
      return (.mapping [(k, v)] :: items, s)
    let (n, s) ← node handles false false s fuel
    let (items, s) ← flowItems handles false s fuel
    return (n :: items, s)

/-- The entries of a mapping in braces. A key may stand there without its value. -/
def flowEntries (handles : Handles) (first : Bool) (s : Stream) :
    (fuel : Nat) → Except Fault (List (Node × Node) × Stream)
  | 0 => .error .unexpectedToken
  | fuel + 1 => do
    if s.meets [.flowMappingEnd] then return ([], s.skip)
    if !first && !s.meets [.flowEntry] then throw .unexpectedToken
    let s := if first then s else s.skip
    if s.meets [.flowMappingEnd] then return ([], s.skip)
    let (k, v, s) ← if s.meets [.key] then do
        let stops : List Token := [.value, .flowEntry, .flowMappingEnd]
        let (k, s) ← nodeUnless handles false false stops s.skip fuel
        let (v, s) ← valueUnless handles false false [.flowEntry, .flowMappingEnd] s fuel
        pure (k, v, s)
      else do
        let (k, s) ← node handles false false s fuel
        pure (k, .empty, s)
    let (entries, s) ← flowEntries handles false s fuel
    return ((k, v) :: entries, s)

end

end Stream

/-! ## Documents -/

/-- The directives before a document, and the tokens behind them. Versions 1.1 and 1.2 are
known. -/
def directives (versioned : Bool) (handles : Handles) :
    List Token → Except Fault (Handles × List Token)
  | .versionDirective major minor :: rest =>
    if versioned || major ≠ 1 || (minor ≠ 1 && minor ≠ 2) then .error .badDirective
    else directives true handles rest
  | .tagDirective handle expansion :: rest =>
    if (handles.lookup handle).isSome then .error .badDirective
    else directives versioned (handles ++ [(handle, expansion)]) rest
  | ts => .ok (handles ++ standardHandles, ts)

/-- Whether a token can follow the beginning of a document that holds nothing. -/
def endsEmptyDocument : Token → Bool
  | .versionDirective _ _ => true
  | .tagDirective _ _ => true
  | .documentStart => true
  | .documentEnd => true
  | _ => false

/-- The node of a document and the tokens behind it. -/
def document (ts : List Token) : Except Fault (Node × List Token) := do
  let (handles, rest) ← directives false [] ts
  let fuel := 6 * (ts.length + 2)
  match rest with
  | .documentStart :: rest =>
    if rest.head?.all endsEmptyDocument then return (.empty, rest)
    let (n, s) ← Stream.node handles true false ⟨rest, []⟩ fuel
    return (n, s.tokens)
  | _ =>
    if rest.length < ts.length then throw .unexpectedToken
    let (n, s) ← Stream.node handles true false ⟨ts, []⟩ fuel
    return (n, s.tokens)

/-- The node of a text with at most one document. -/
def Node.ofText (s : String) : Except Fault Node := do
  let ts ← tokens s.toList
  if ts = [] then return .empty
  let (n, rest) ← document ts
  if rest.all (· = .documentEnd) then return n else throw .severalDocuments

end SensorGateway.Yaml
