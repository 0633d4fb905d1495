import SensorGateway.Adapter
import SensorGateway.Adapter.Call
import SensorGateway.Adapter.Loopback
import SensorGateway.Adapter.Scripted
import SensorGateway.Address
import SensorGateway.Arbiter
import SensorGateway.Binary64
import SensorGateway.Binary64.Layout
import SensorGateway.Binary64.Reading
import SensorGateway.Binary64.Shortest
import SensorGateway.Bus
import SensorGateway.Bus.Session
import SensorGateway.Config
import SensorGateway.Config.Listening
import SensorGateway.Config.Loading
import SensorGateway.Config.Reading
import SensorGateway.Event
import SensorGateway.EventStream
import SensorGateway.Export.Csv
import SensorGateway.Export.Document
import SensorGateway.Export.Filter
import SensorGateway.Export.Table
import SensorGateway.Gateway.Interest
import SensorGateway.Gateway.Recording
import SensorGateway.Gateway.State
import SensorGateway.Gateway.Writing
import SensorGateway.Http.Endpoint
import SensorGateway.Http.Form
import SensorGateway.Http.Handler
import SensorGateway.Http.MediaType
import SensorGateway.Http.Message
import SensorGateway.Http.Page
import SensorGateway.Http.Percent
import SensorGateway.Http.Request
import SensorGateway.Http.Response
import SensorGateway.Instant
import SensorGateway.Instant.Reading
import SensorGateway.Instant.Text
import SensorGateway.Json
import SensorGateway.Json.Number
import SensorGateway.Json.Reading
import SensorGateway.Json.Wire
import SensorGateway.Main
import SensorGateway.Murmur
import SensorGateway.Proofs.Adapter.History
import SensorGateway.Proofs.Adapter.Holding
import SensorGateway.Proofs.Adapter.Writing
import SensorGateway.Proofs.Address.Reading
import SensorGateway.Proofs.Address.Socket
import SensorGateway.Proofs.Address.Text
import SensorGateway.Proofs.Bus.Delivery
import SensorGateway.Proofs.Bus.FanOut
import SensorGateway.Proofs.Bus.Interest
import SensorGateway.Proofs.Bus.Place
import SensorGateway.Proofs.Bus.Run
import SensorGateway.Proofs.Bus.Sending
import SensorGateway.Proofs.Config.Identity
import SensorGateway.Proofs.Config.Listening
import SensorGateway.Proofs.EventStream.Framing
import SensorGateway.Proofs.Export.Agreement
import SensorGateway.Proofs.Export.Csv
import SensorGateway.Proofs.Gateway.Account
import SensorGateway.Proofs.Gateway.Assembly
import SensorGateway.Proofs.Gateway.Baseline
import SensorGateway.Proofs.Gateway.Books
import SensorGateway.Proofs.Gateway.Calm
import SensorGateway.Proofs.Gateway.Control
import SensorGateway.Proofs.Gateway.Coverage
import SensorGateway.Proofs.Gateway.Echo
import SensorGateway.Proofs.Gateway.Enumeration
import SensorGateway.Proofs.Gateway.Episode
import SensorGateway.Proofs.Gateway.Exactness
import SensorGateway.Proofs.Gateway.Families
import SensorGateway.Proofs.Gateway.FirstSight
import SensorGateway.Proofs.Gateway.Holding
import SensorGateway.Proofs.Gateway.Interest
import SensorGateway.Proofs.Gateway.Leftovers
import SensorGateway.Proofs.Gateway.Memory
import SensorGateway.Proofs.Gateway.Observations
import SensorGateway.Proofs.Gateway.Parts
import SensorGateway.Proofs.Gateway.Quiet
import SensorGateway.Proofs.Gateway.Replica
import SensorGateway.Proofs.Gateway.Revisions
import SensorGateway.Proofs.Gateway.Run
import SensorGateway.Proofs.Gateway.Secrecy
import SensorGateway.Proofs.Gateway.Serving
import SensorGateway.Proofs.Gateway.Silence
import SensorGateway.Proofs.Gateway.Subscription
import SensorGateway.Proofs.Gateway.Tenure
import SensorGateway.Proofs.General.Lists
import SensorGateway.Proofs.General.Words
import SensorGateway.Proofs.Http.Writing
import SensorGateway.Proofs.Instant.Calendar
import SensorGateway.Proofs.Instant.Order
import SensorGateway.Proofs.Instant.Text
import SensorGateway.Proofs.Json.Double
import SensorGateway.Proofs.Json.Plain
import SensorGateway.Proofs.Json.Reading
import SensorGateway.Proofs.Json.RoundTrip
import SensorGateway.Proofs.Json.Token
import SensorGateway.Proofs.Json.Wire
import SensorGateway.Proofs.Murmur.Blocks
import SensorGateway.Proofs.Murmur.Mixing
import SensorGateway.Proofs.Overlap.Order
import SensorGateway.Proofs.Overlap.Repair
import SensorGateway.Proofs.Overlap.Seclusion
import SensorGateway.Proofs.Overlap.Snapshot
import SensorGateway.Proofs.Overlap.Steps
import SensorGateway.Proofs.Recorder.Log
import SensorGateway.Proofs.Recorder.Tracking
import SensorGateway.Proofs.Text.Bytes
import SensorGateway.Proofs.Text.Digits
import SensorGateway.Proofs.Text.Hex
import SensorGateway.Proofs.Text.Trimming
import SensorGateway.Proofs.Update.Splitting
import SensorGateway.Protocol
import SensorGateway.Record
import SensorGateway.Recorder
import SensorGateway.Registry
import SensorGateway.Sensor.Key
import SensorGateway.Sensor.Value
import SensorGateway.SessionId
import SensorGateway.Sorted.Map
import SensorGateway.Sorted.Set
import SensorGateway.Startup
import SensorGateway.Status
import SensorGateway.Text.Blank
import SensorGateway.Text.Hex
import SensorGateway.Text.Utf8
import SensorGateway.Topic
import SensorGateway.Update
import SensorGateway.Word
import SensorGateway.Yaml.Cursor
import SensorGateway.Yaml.Decode
import SensorGateway.Yaml.Node
import SensorGateway.Yaml.Plain
import SensorGateway.Yaml.Scalar
import SensorGateway.Yaml.Token
