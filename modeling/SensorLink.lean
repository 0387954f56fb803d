import SensorLink.Bridge
import SensorLink.Bytes
import SensorLink.Command
import SensorLink.CommandLoop
import SensorLink.Connector
import SensorLink.DevEui
import SensorLink.Double.Backend
import SensorLink.Double.CounterEngine
import SensorLink.Double.Log
import SensorLink.Double.Planned
import SensorLink.Double.Proxy
import SensorLink.Double.Recorder
import SensorLink.Double.Script
import SensorLink.Double.ScriptedEngine
import SensorLink.Double.Server
import SensorLink.Engine
import SensorLink.Files.Calls
import SensorLink.Files.NameTree
import SensorLink.Files.Path
import SensorLink.Files.Tree
import SensorLink.Files.Walk
import SensorLink.Frame
import SensorLink.Frame.Buffer
import SensorLink.Frame.Reader
import SensorLink.IoError
import SensorLink.Main
import SensorLink.Mount
import SensorLink.Proofs.Bridge.Answers
import SensorLink.Proofs.Bridge.Correlation
import SensorLink.Proofs.Command.Wire
import SensorLink.Proofs.Connector.Paths
import SensorLink.Proofs.Connector.Relayed
import SensorLink.Proofs.DevEui.Display
import SensorLink.Proofs.DevEui.Spelling
import SensorLink.Proofs.Engine.Advance
import SensorLink.Proofs.Files.Below
import SensorLink.Proofs.Files.Change
import SensorLink.Proofs.Files.Directories
import SensorLink.Proofs.Files.Place
import SensorLink.Proofs.Files.Sibling
import SensorLink.Proofs.Frame.Blocking
import SensorLink.Proofs.Frame.Conserved
import SensorLink.Proofs.Frame.Decode
import SensorLink.Proofs.Frame.Length
import SensorLink.Proofs.Frame.Read
import SensorLink.Proofs.Frame.Stream
import SensorLink.Proofs.Frame.Wire
import SensorLink.Proofs.Loop.Budget
import SensorLink.Proofs.Loop.Counter
import SensorLink.Proofs.Loop.Ends
import SensorLink.Proofs.Loop.Manager
import SensorLink.Proofs.Loop.Report
import SensorLink.Proofs.Loop.Restart
import SensorLink.Proofs.Loop.Sends
import SensorLink.Proofs.Loop.StartUp
import SensorLink.Proofs.Loop.Stored
import SensorLink.Proofs.Loop.Trace
import SensorLink.Proofs.Loop.Updates
import SensorLink.Proofs.Record.Atomic
import SensorLink.Proofs.Record.Codec
import SensorLink.Proofs.Record.Draft
import SensorLink.Proofs.Record.Footprint
import SensorLink.Proofs.Record.Leftover
import SensorLink.Proofs.Rest.Url
import SensorLink.Proofs.Session.Messages
import SensorLink.Proofs.Settings.Usable
import SensorLink.Proofs.Socket.Attempts
import SensorLink.Proofs.Socket.Correlation
import SensorLink.Proofs.Socket.Run
import SensorLink.Proofs.Storage.Acts
import SensorLink.Proofs.Storage.Cell
import SensorLink.Proofs.Storage.Contract
import SensorLink.Proofs.Storage.Dependable
import SensorLink.Proofs.Storage.Discipline
import SensorLink.Proofs.Storage.Drivers
import SensorLink.Proofs.Storage.Faults
import SensorLink.Proofs.Storage.Filled
import SensorLink.Proofs.Storage.Footprint
import SensorLink.Proofs.Storage.Mounting
import SensorLink.Proofs.Storage.Restart
import SensorLink.Proofs.Storage.Told
import SensorLink.Proofs.Text.Blank
import SensorLink.Proofs.Text.Hex
import SensorLink.Record
import SensorLink.Record.File
import SensorLink.Relay.Launch
import SensorLink.Relay.Options
import SensorLink.Request
import SensorLink.Rest
import SensorLink.Rest.Endpoint
import SensorLink.Rest.Message
import SensorLink.Rest.Setup
import SensorLink.Rest.Target
import SensorLink.Session
import SensorLink.Settings.Document
import SensorLink.Settings.Relay
import SensorLink.Settings.Sensor
import SensorLink.Settings.Value
import SensorLink.Socket
import SensorLink.Socket.Link
import SensorLink.SocketAddress
import SensorLink.Status
import SensorLink.Storage
import SensorLink.Storage.Config
import SensorLink.Storage.Error
import SensorLink.Text.Blank
import SensorLink.Text.Hex
import SensorLink.Text.Hidden
import SensorLink.Text.Number
import SensorLink.Text.Quoted
import SensorLink.Toml
import SensorLink.Toml.Outline
import SensorLink.Toml.Quoted
import SensorLink.Toml.Scalar
