/-
# SensorGateway.Http.MediaType -- is a body JSON?

A media type is a type, a slash, a subtype, and parameters behind semicolons. A body is
JSON when its type is `application` and its subtype is `json` or ends in `+json`, in
any case.
-/
import SensorGateway.Text.Blank

namespace SensorGateway.Http.MediaType

/-- The characters of names in media types. -/
def isToken (c : Char) : Bool := c.isAlphanum || "!#$%&'*+-.^_|~".toList.contains c || c = '`'

/-- The characters between quotes. -/
def isQuotable (c : Char) : Bool := 31 < c.toNat && c.toNat ≠ 127

/-- A value between quotes, after the opening one; it is not empty. The result is what follows
the closing quote and the spaces behind it, a semicolon included. -/
def quotedValue? (cs : List Char) : Option (List Char) :=
  match cs with
  | [] => none
  | c :: rest =>
    if !isQuotable c then none
    else
      let inner := rest.takeWhile fun c => isQuotable c && c ≠ '"'
      match rest.drop inner.length with
      | '"' :: rest =>
        match rest.dropWhile (· = ' ') with
        | [] => some []
        | ';' :: rest => some rest
        | _ => none
      | _ => none

/-- A value without quotes. A semicolon behind it needs a value before it. -/
def plainValue? (cs : List Char) : Option (List Char) :=
  let value := cs.takeWhile isToken
  match cs.drop value.length with
  | [] => some []
  | ';' :: rest => if value = [] then none else some rest
  | _ => none

/-- Whether a text is a list of parameters. `fuel` bounds their number. -/
def areParameters : (fuel : Nat) → List Char → Bool
  | 0, _ => false
  | fuel + 1, cs =>
    let cs := cs.dropWhile (· = ' ')
    let name := cs.takeWhile isToken
    match cs.drop name.length with
    | [] => name = []
    | '=' :: value =>
      let rest? := match value with
        | '"' :: quoted => quotedValue? quoted
        | value => plainValue? value
      match rest? with
      | some rest => name ≠ [] && areParameters fuel rest
      | none => false
    | _ => false

/-- The type and the subtype of a media type. -/
def parse? (s : String) : Option (List Char × List Char) :=
  let cs := s.toList
  let type := cs.takeWhile isToken
  match cs.drop type.length with
  | '/' :: rest =>
    let subtype := rest.takeWhile isToken
    let valid := match rest.drop subtype.length with
      | [] => true
      | ';' :: parameters => subtype ≠ [] && areParameters (parameters.length + 1) parameters
      | _ => false
    if type ≠ [] && valid then some (type, subtype) else none
  | _ => none

/-- Whether a subtype says JSON: it is `json`, perhaps with a suffix, or its suffix is. A plus
sign at its beginning begins no suffix. -/
def saysJson (subtype : List Char) : Bool :=
  let suffix := (subtype.reverse.takeWhile (· ≠ '+')).reverse
  let main := subtype.take (subtype.length - suffix.length - 1)
  if main = [] then subtype = "json".toList
  else main = "json".toList || suffix = "json".toList

/-- Whether a content type says that a body is JSON. -/
def isJson (s : String) : Bool :=
  match parse? (Text.asciiLower s) with
  | some (type, subtype) => type = "application".toList && saysJson subtype
  | none => false

end SensorGateway.Http.MediaType
