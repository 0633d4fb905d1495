/-
# SensorGateway.Config.Reading -- settings from YAML

Settings are a record of records. Whatever is missing has its default; only the URL
of a server and the name and the protocol of an object have none.
-/
import SensorGateway.Config
import SensorGateway.Yaml.Decode

namespace SensorGateway.Config

open Yaml (Fault Node field fieldD)

/-- An integer as a value. It has to fit into a word, signed or unsigned. -/
def integerValue (n : Int) : Except Fault SensorValue :=
  if (Word.int64? n).isSome || (Word.uint64? n).isSome then .ok (SensorValue.ofInt n)
  else .error .outOfRange

/-- A plain scalar as a value. -/
def plainValue (s : String) : Except Fault SensorValue :=
  match Yaml.Plain.meaning s with
  | .null => .error .wrongKind
  | .bool b => .ok (.bool b)
  | .int n => integerValue n
  | .float x => .ok (.float x)
  | .text s => .ok (.text s)

/-- A marked scalar as a value. A mark of one's own is an error, an unknown one makes a text. -/
def taggedValue (tag s : String) : Except Fault SensorValue :=
  if (Yaml.ownTag? tag).isSome || tag = Yaml.coreTag "null" then .error .wrongKind
  else if tag = Yaml.coreTag "bool" then
    match Yaml.Plain.bool? s with
    | some b => .ok (.bool b)
    | none => .error .wrongKind
  else if tag = Yaml.coreTag "int" then
    match Yaml.Plain.integer? s with
    | some n => integerValue n
    | none => .error .wrongKind
  else if tag = Yaml.coreTag "float" then
    match Yaml.Plain.float? s with
    | some x => .ok (.float x)
    | none => .error .wrongKind
  else .ok (.text s)

/-- A sensor value. Only a plain scalar can be anything but text. -/
def readValue : Node → Except Fault SensorValue
  | .scalar _ (some tag) s => taggedValue tag s
  | .scalar .plain none s => plainValue s
  | .scalar _ none s => .ok (.text s)
  | _ => .error .wrongKind

/-- A protocol family by its canonical name. -/
def readProtocol : Node → Except Fault Protocol :=
  Node.choice (Protocol.all.map fun p => (p.name, p))

/-- A log format by its name. -/
def readFormat : Node → Except Fault LogFormat :=
  Node.choice ([LogFormat.fmt, .json].map fun f => (f.name, f))

/-- A number of 16 bits. -/
def readUInt16 (n : Node) : Except Fault UInt16 := (n.natural UInt16.size).map UInt16.ofNat

/-- A number of 64 bits. -/
def readUInt64 (n : Node) : Except Fault UInt64 := (n.natural UInt64.size).map UInt64.ofNat

/-- Where the gateway listens. -/
def readHttp (n : Node) : Except Fault Http := do
  let fs ← n.fields ["host", "port"]
  let d : Http := {}
  return ⟨← fieldD fs "host" Node.text d.host, ← fieldD fs "port" readUInt16 d.port⟩

/-- A sensor. -/
def readSensor (n : Node) : Except Fault Sensor := do
  let fs ← n.fields ["id", "name", "value"]
  let d : Sensor := {}
  return ⟨← fieldD fs "id" (Node.optional Node.int64) d.id, ← fieldD fs "name" Node.text d.name,
    ← fieldD fs "value" readValue d.value⟩

/-- An in-process object. -/
def readLoopback (n : Node) : Except Fault LoopbackObject := do
  let fs ← n.fields ["name", "protocol", "sensors"]
  return ⟨← field fs "name" Node.text, ← field fs "protocol" readProtocol,
    ← fieldD fs "sensors" (Node.items readSensor) []⟩

/-- A server. -/
def readServer (n : Node) : Except Fault Server := do
  let fs ← n.fields ["id", "url", "name", "loopback"]
  return ⟨← fieldD fs "id" (Node.optional Node.text) none, ← field fs "url" Node.text,
    ← fieldD fs "name" (Node.optional Node.text) none,
    ← fieldD fs "loopback" (Node.items readLoopback) []⟩

/-- Who may write. -/
def readControl (n : Node) : Except Fault Control := do
  let fs ← n.fields ["tokens", "idle_timeout_seconds"]
  let d : Control := {}
  return ⟨← fieldD fs "tokens" (Node.items Node.text) d.tokens,
    ← fieldD fs "idle_timeout_seconds" readUInt64 d.idleTimeoutSeconds⟩

/-- The recording buffer. -/
def readRecording (n : Node) : Except Fault Recording := do
  let fs ← n.fields ["max_records"]
  let d : Recording := {}
  return ⟨← fieldD fs "max_records" readUInt64 d.maxRecords⟩

/-- The channels of sessions. -/
def readSessions (n : Node) : Except Fault Sessions := do
  let fs ← n.fields ["channel_capacity", "send_timeout_ms"]
  let d : Sessions := {}
  return ⟨← fieldD fs "channel_capacity" readUInt64 d.channelCapacity,
    ← fieldD fs "send_timeout_ms" readUInt64 d.sendTimeoutMs⟩

/-- Log lines. -/
def readLogging (n : Node) : Except Fault Logging := do
  let fs ← n.fields ["level", "format"]
  let d : Logging := {}
  return ⟨← fieldD fs "level" Node.text d.level, ← fieldD fs "format" readFormat d.format⟩

/-- The settings that a node holds. -/
def ofNode (n : Node) : Except Fault Config := do
  let fs ← n.fields ["http", "servers", "control", "recording", "sessions", "logging"]
  let d : Config := {}
  return ⟨← fieldD fs "http" readHttp d.http,
    ← fieldD fs "servers" (Node.items readServer) d.servers,
    ← fieldD fs "control" readControl d.control,
    ← fieldD fs "recording" readRecording d.recording,
    ← fieldD fs "sessions" readSessions d.sessions,
    ← fieldD fs "logging" readLogging d.logging⟩

/-- The settings that a YAML text holds. -/
def ofYaml (s : String) : Except Fault Config := do ofNode (← Node.ofText s)

end SensorGateway.Config
