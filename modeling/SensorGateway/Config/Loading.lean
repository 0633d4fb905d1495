/-
# SensorGateway.Config.Loading -- from texts to usable settings

Settings come from a YAML text or are the defaults. Variables of the environment
override some of them, in a fixed order; the first that makes no sense is an error.
Settings are usable when every server has a URL and its own id and channels have
room for an event.
-/
import SensorGateway.Config.Reading
import SensorGateway.Text.Utf8

namespace SensorGateway.Config

/-- Why there are no settings. -/
inductive LoadError where
  /-- The file cannot be read, or is no text. -/
  | io (cause : String)
  /-- The text is not YAML of the expected shape. -/
  | yaml (fault : Yaml.Fault)
  /-- A variable of the environment has an impossible value. -/
  | env (variableName value : String)
  /-- The settings are not usable. -/
  | invalid (message : String)
deriving DecidableEq, Repr

/-- What an operator is told. -/
def LoadError.message : LoadError → String
  | .io cause => "failed to read config file: " ++ cause
  | .yaml fault => "failed to parse config YAML: " ++ fault.message
  | .env variableName value => "invalid value for " ++ variableName ++ ": " ++ value
  | .invalid message => "invalid configuration: " ++ message

/-! ## The environment -/

/-- The variables of an environment. -/
abbrev Environment := String → Option String

/-- The variable for the host. -/
def hostVariable : String := "GATEWAY_HOST"

/-- The variable for the port. -/
def portVariable : String := "GATEWAY_PORT"

/-- The variable for the control tokens, with commas between. -/
def tokensVariable : String := "GATEWAY_CONTROL_TOKENS"

/-- The variable for the log format. -/
def formatVariable : String := "GATEWAY_LOG_FORMAT"

/-- A port in decimal, perhaps behind a plus sign, with blanks around it. -/
def port? (s : String) : Option UInt16 :=
  let digits := match (Text.trim s).toList with
    | '+' :: rest => rest
    | cs => cs
  let n := Text.decimalValue digits
  if digits ≠ [] ∧ digits.all Char.isDigit ∧ n < UInt16.size then some (UInt16.ofNat n) else none

/-- Tokens with commas between and blanks around; empty ones do not count. -/
def tokens (s : String) : List String :=
  ((Text.splitAt ',' s.toList).map fun cs => String.ofList (Text.trimChars cs)).filter (· ≠ "")

/-- A log format in any case, with blanks around it. -/
def format? (s : String) : Option LogFormat :=
  match Text.asciiLower (Text.trim s) with
  | "fmt" => some .fmt
  | "text" => some .fmt
  | "json" => some .json
  | _ => none

/-- Applies one variable to the settings, if it is set. -/
def override (env : Environment) (name : String) (apply : String → Config → Option Config)
    (c : Config) : Except LoadError Config :=
  match env name with
  | none => .ok c
  | some value =>
    match apply value c with
    | some c => .ok c
    | none => .error (.env name value)

/-- Applies the environment to the settings. -/
def withEnvironment (env : Environment) (c : Config) : Except LoadError Config := do
  let c ← override env hostVariable
    (fun s c => some { c with http := { c.http with host := s } }) c
  let c ← override env portVariable
    (fun s c => (port? s).map fun p => { c with http := { c.http with port := p } }) c
  let c ← override env tokensVariable
    (fun s c => some { c with control := { c.control with tokens := tokens s } }) c
  override env formatVariable
    (fun s c => (format? s).map fun f => { c with logging := { c.logging with format := f } }) c

/-! ## Usable settings -/

/-- Checks servers in order. `index` is the position of the first one, `seen` are the ids
before it. -/
def checkServers (index : Nat) (seen : List ServerId) : List Server → Except LoadError Unit
  | [] => .ok ()
  | s :: rest =>
    if Text.isBlankText s.url then
      .error (.invalid ("server at index " ++ toString index ++ " has no URL"))
    else if seen.contains s.serverId then
      .error (.invalid ("duplicate server id " ++ s.serverId))
    else checkServers (index + 1) (s.serverId :: seen) rest

/-- Whether the settings are usable. -/
def validate (c : Config) : Except LoadError Unit := do
  checkServers 0 [] c.servers
  if c.sessions.channelCapacity = 0 then
    throw (.invalid "sessions.channel_capacity must be greater than zero")

/-! ## Loading -/

/-- The settings of a text. -/
def ofText (s : String) : Except LoadError Config :=
  match ofYaml s with
  | .ok c => .ok c
  | .error fault => .error (.yaml fault)

/-- The usable settings of a text; the environment does not count. -/
def parse (s : String) : Except LoadError Config := do
  let c ← ofText s
  c.validate
  return c

/-- Settings with the environment applied, if they are usable then. -/
def finish (env : Environment) (c : Config) : Except LoadError Config := do
  let c ← c.withEnvironment env
  c.validate
  return c

/-- The settings of a file with the environment applied. -/
def ofFile (content : Except String (List UInt8)) (env : Environment) : Except LoadError Config :=
  match content with
  | .error cause => .error (.io cause)
  | .ok bytes =>
    match Text.Utf8.decode? bytes with
    | none => .error (.io "stream did not contain valid UTF-8")
    | some s => do finish env (← ofText s)

/-- The default settings with the environment applied. -/
def ofDefaults (env : Environment) : Except LoadError Config := finish env {}

end SensorGateway.Config
