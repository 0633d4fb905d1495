/-
# SensorGateway.Http.Message -- the bodies of requests

Bodies are JSON records. A request for sensors lists them in two fields, which mean
the same; a request to write names one sensor and its value; a request for control may
hold a token.
-/
import SensorGateway.Sensor.Key
import SensorGateway.Sensor.Value

namespace SensorGateway.Http

/-- A request for the sensors of an object. -/
structure SubscribeRequest where
  sensorIds : List SensorKey
  sensors : List SensorKey
deriving DecidableEq, Repr

/-- All sensors that are asked for. -/
def SubscribeRequest.keys (r : SubscribeRequest) : KeySet := .ofList (r.sensorIds ++ r.sensors)

instance : Json.Wire SubscribeRequest where
  encode r := .obj
    [("sensor_ids", Json.Wire.encode r.sensorIds), ("sensors", Json.Wire.encode r.sensors)]
  decode r := do
    let fs ← Json.Fields.ofReading
      [.of (List SensorKey) "sensor_ids", .of (List SensorKey) "sensors"] r
    return ⟨← fs.getD "sensor_ids" [], ← fs.getD "sensors" []⟩

/-- A request to write a value. -/
structure SetRequest where
  key : SensorKey
  value : SensorValue
deriving DecidableEq, Repr

instance : Json.Wire SetRequest where
  encode r := .obj
    [("sensor_id", Json.Wire.encode r.key), ("value", Json.Wire.encode r.value)]
  decode r := do
    let fs ← Json.Fields.ofReading [.of SensorKey "sensor_id", .of SensorValue "value"] r
    return ⟨← fs.get "sensor_id", ← fs.get "value"⟩

/-- A request for control. -/
structure TakeRequest where
  token : Option String
deriving DecidableEq, Repr

instance : Json.Wire TakeRequest where
  encode r := .obj [("token", Json.Wire.encode r.token)]
  decode r := do
    let fs ← Json.Fields.ofReading [.of (Option String) "token"] r
    return ⟨← fs.getD "token" none⟩

end SensorGateway.Http
