/-
# SensorGateway.Http.Request -- requests as they come

A request has a method, a path whose parts may hold escapes, a query, headers, and a
body of bytes. The name of a header is in any case. A header counts only when its
value is visible ASCII and not blank.
-/
import SensorGateway.Http.Form

namespace SensorGateway.Http

/-- The methods that make a difference. -/
inductive Method where
  | get
  | head
  | post
  | options
  | other (name : String)
deriving DecidableEq, Repr

/-- The method with a name. -/
def Method.ofName : String → Method
  | "GET" => .get
  | "HEAD" => .head
  | "POST" => .post
  | "OPTIONS" => .options
  | name => .other name

/-- A request. -/
structure Request where
  method : Method
  /-- The path with its escapes. -/
  path : String
  /-- The query with its escapes. -/
  query : String
  headers : List (String × String)
  body : List UInt8
deriving DecidableEq, Repr

namespace Request

/-- A request for a target, which is a path, perhaps with a query behind a question mark. -/
def ofTarget (method : Method) (target : String) (headers : List (String × String))
    (body : List UInt8) : Request :=
  let cs := target.toList.takeWhile (· ≠ '#')
  { method
    path := String.ofList (cs.takeWhile (· ≠ '?'))
    query := String.ofList ((cs.dropWhile (· ≠ '?')).drop 1)
    headers
    body }

/-- A character that a header value can show. -/
def isVisible (c : Char) : Bool := c = '\t' || (32 ≤ c.toNat && c.toNat ≤ 126)

/-- The value of the first header with a name in lower case, if it is readable. -/
def rawHeader? (r : Request) (name : String) : Option String :=
  ((r.headers.find? fun h => Text.asciiLower h.1 = name).map (·.2)).filter
    fun v => v.toList.all isVisible

/-- The value of a header without blanks around it, if anything is left. -/
def header? (r : Request) (name : String) : Option String :=
  ((r.rawHeader? name).map Text.trim).filter (· ≠ "")

/-- The fields of the query. -/
def form (r : Request) : Form := Form.ofText r.query

end Request

end SensorGateway.Http
