/-
# SensorGateway.Yaml.Cursor -- a place in a YAML text

A cursor is the text that is still to come together with its place: how many
characters came before, the line and the column. The character classes of YAML and
the faults that a text can have are here too.
-/
import SensorGateway.Text.Blank
import SensorGateway.Text.Hex
import SensorGateway.Text.Utf8

namespace SensorGateway.Yaml

/-- Why a text is not a YAML document, or not one of the expected shape. -/
inductive Fault where
  /-- A control character that no document may hold. -/
  | controlCharacter
  /-- A character that begins nothing. -/
  | unexpectedCharacter
  /-- A block entry, key or value where none can stand. -/
  | misplacedIndicator
  /-- A key that has to end in a colon does not. -/
  | missingColon
  /-- A tab where only spaces can indent. -/
  | tabIndentation
  /-- A quoted scalar without its end. -/
  | unterminated
  /-- An unknown escape or a wrong character number. -/
  | badEscape
  /-- A block scalar whose first line is wrong. -/
  | badBlockHeader
  /-- Text where a line has to end. -/
  | trailingText
  /-- An unknown or misspelt directive. -/
  | badDirective
  /-- A misspelt anchor or alias. -/
  | badAnchor
  /-- A misspelt tag, or one with an unknown handle. -/
  | badTag
  /-- A token that cannot follow. -/
  | unexpectedToken
  /-- An alias without its anchor. -/
  | unknownAlias
  /-- More than one document. -/
  | severalDocuments
  /-- A node of another kind than expected. -/
  | wrongKind
  /-- A number that is out of its range. -/
  | outOfRange
  /-- A name that is none of the known ones. -/
  | unknownName (name : String)
  /-- A required field is not there. -/
  | missingField (name : String)
  /-- A field is there twice. -/
  | duplicateField (name : String)
deriving DecidableEq, Repr

/-- What an operator is told. -/
def Fault.message : Fault → String
  | .controlCharacter => "control characters are not allowed"
  | .unexpectedCharacter => "found a character that cannot start any token"
  | .misplacedIndicator => "an entry, key or value is not allowed in this context"
  | .missingColon => "could not find the expected colon"
  | .tabIndentation => "found a tab character where an indentation space is expected"
  | .unterminated => "found unexpected end of a quoted scalar"
  | .badEscape => "found an unknown escape character"
  | .badBlockHeader => "found an indentation indicator equal to zero"
  | .trailingText => "did not find the expected comment or line break"
  | .badDirective => "found an unknown directive"
  | .badAnchor => "did not find the expected name of an anchor"
  | .badTag => "did not find the expected tag"
  | .unexpectedToken => "did not find the expected node content"
  | .unknownAlias => "unknown anchor"
  | .severalDocuments => "more than one document"
  | .wrongKind => "invalid type"
  | .outOfRange => "number out of range"
  | .unknownName name => "unknown variant " ++ name
  | .missingField name => "missing field " ++ name
  | .duplicateField name => "duplicate field " ++ name

/-- A space or a tab. -/
def isBlank (c : Char) : Bool := c = ' ' || c = '\t'

/-- A character that ends a line. -/
def isBreak (c : Char) : Bool :=
  c = '\n' || c = '\r' || c = '\u0085' || c = '\u2028' || c = '\u2029'

/-- A blank, a line break, or the end of the text. -/
def isGap : Option Char → Bool
  | none => true
  | some c => isBlank c || isBreak c

/-- The characters of names: letters, digits, dash and underscore, all ASCII. -/
def isNameChar (c : Char) : Bool := c.isAlphanum || c = '-' || c = '_'

/-- Whether a document may hold a character at all. -/
def isAllowed (c : Char) : Bool :=
  let n := c.toNat
  n = 0x09 || n = 0x0A || n = 0x0D || (0x20 ≤ n && n ≤ 0x7E) || n = 0x85 ||
    (0xA0 ≤ n && n ≤ 0xD7FF) || (0xE000 ≤ n && n ≤ 0xFFFD) || 0x10000 ≤ n

/-- A place in a text. -/
structure Cursor where
  /-- What is still to come. -/
  rest : List Char
  /-- How many characters came before. -/
  index : Nat
  line : Nat
  column : Nat
deriving Repr

namespace Cursor

/-- The beginning of a text. -/
def start (cs : List Char) : Cursor := ⟨cs, 0, 0, 0⟩

/-- The character `n` places ahead. -/
def peek (c : Cursor) (n : Nat) : Option Char := (c.rest.drop n).head?

/-- The next character. -/
def next (c : Cursor) : Option Char := c.rest.head?

/-- Whether nothing is left. -/
def atEnd (c : Cursor) : Bool := c.rest.isEmpty

/-- Whether the next character passes `p`. -/
def nextIs (c : Cursor) (p : Char → Bool) : Bool := c.next.any p

/-- Passes characters on one line. -/
def skip (c : Cursor) (n : Nat) : Cursor :=
  ⟨c.rest.drop n, c.index + n, c.line, c.column + n⟩

/-- Passes a line break, if one is next, and gives it in its normal form. The separators of
lines and paragraphs stay as they are; all other breaks become a line feed. -/
def skipBreak (c : Cursor) : List Char × Cursor :=
  match c.rest with
  | '\r' :: '\n' :: rest => (['\n'], ⟨rest, c.index + 2, c.line + 1, 0⟩)
  | b :: rest =>
    if isBreak b then
      (if b = '\u2028' ∨ b = '\u2029' then [b] else ['\n'], ⟨rest, c.index + 1, c.line + 1, 0⟩)
    else ([], c)
  | [] => ([], c)

/-- The characters in front that pass `p`, which no line break does, and the place behind. -/
def takeWhile (c : Cursor) (p : Char → Bool) : List Char × Cursor :=
  let cs := c.rest.takeWhile p
  (cs, c.skip cs.length)

/-- Passes the characters in front that pass `p`, which no line break does. -/
def skipWhile (c : Cursor) (p : Char → Bool) : Cursor := (c.takeWhile p).2

/-- Whether a line begins here with three times `mark`, alone. -/
def atMarker (c : Cursor) (mark : Char) : Bool :=
  c.column = 0 && c.rest.take 3 = [mark, mark, mark] && isGap (c.peek 3)

/-- Whether a line begins here with the start or the end of a document. -/
def atDocumentMarker (c : Cursor) : Bool := c.atMarker '-' || c.atMarker '.'

/-- Passes blanks and a comment up to the end of the line. -/
def skipLineEnd (c : Cursor) : Except Fault Cursor :=
  let c := c.skipWhile isBlank
  let c := if c.next = some '#' then c.skipWhile (!isBreak ·) else c
  if c.atEnd || c.nextIs isBreak then .ok c.skipBreak.2 else .error .trailingText

end Cursor

end SensorGateway.Yaml
