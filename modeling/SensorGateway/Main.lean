/-
# SensorGateway.Main -- checks the settings of a gateway

The program loads the settings as the gateway does, starts a gateway with them, and
says what came of it. It ends with status 1 when the gateway cannot start.
-/
import SensorGateway.Startup

namespace SensorGateway.Startup

/-- The variables of the environment that settings depend on. -/
def readEnvironment : IO Config.Environment := do
  let names := [Config.hostVariable, Config.portVariable, Config.tokensVariable,
    Config.formatVariable]
  let values ← names.mapM fun name => do return (name, ← IO.getEnv name)
  return fun name => (values.lookup name).join

/-- The bytes of a file, or why there are none. -/
def readFile (name : String) : IO (Except IO.Error (List UInt8)) := do
  try
    return .ok (← IO.FS.readBinFile name).toList
  catch e => return .error e

/-- The settings of a file. -/
def settingsOf (content : Except IO.Error (List UInt8)) (env : Config.Environment) :
    Except Config.LoadError Config :=
  Config.ofFile (content.mapError toString) env

/-- The settings and where they come from. A file that is named has to be there. -/
def loadSettings : IO (Except Config.LoadError Config × String) := do
  let env ← readEnvironment
  match ← IO.getEnv fileVariable with
  | some name => return (settingsOf (← readFile name) env, name)
  | none =>
    match ← readFile defaultFile with
    | .error (.noFileOrDirectory ..) => return (Config.ofDefaults env, "defaults")
    | content => return (settingsOf content env, defaultFile)

/-- Loads the settings, starts a gateway, and reports. -/
def check : IO UInt32 := do
  let (settings, source) ← loadSettings
  let started := do
    let c ← settings.mapError Failure.config
    return (c, ← start c ⟨default, 0⟩)
  match started with
  | .ok (c, s) =>
    for line in report c source s do IO.println line
    return 0
  | .error e =>
    IO.eprintln e.message
    return 1

end SensorGateway.Startup

/-- Checks the settings of a gateway. -/
def main : IO UInt32 := SensorGateway.Startup.check
