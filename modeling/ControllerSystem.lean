import ControllerSystem.Lib.LTS
import ControllerSystem.Lib.ChunkedReader
import ControllerSystem.Lib.QuotedText
import ControllerSystem.Packet
import ControllerSystem.Socket.SmsFraming
import ControllerSystem.Socket.SmsBounds
import ControllerSystem.CmpHandler
import ControllerSystem.Lib.Calls
import ControllerSystem.ControlCenter.Handlers
import ControllerSystem.ControlCenter.Responses
import ControllerSystem.ControlCenter.Center
import ControllerSystem.ControlCenter.KeepAlive
import ControllerSystem.ControlCenter.Registry
import ControllerSystem.Controller.Handlers
import ControllerSystem.ControllerAw2401.Handlers
import ControllerSystem.Lib.ReadModifyWrite
import ControllerSystem.ControllerAw2401.PortSet
import ControllerSystem.Lib.KeepAlive
import ControllerSystem.ControlCenter.Server
import ControllerSystem.ControlCenter.Binding
import ControllerSystem.ControlCenter.Drops
import ControllerSystem.Controller.Device
import ControllerSystem.Controller.Server
import ControllerSystem.Drops
import ControllerSystem.Lib.DecimalText
import ControllerSystem.Body
import ControllerSystem.ControlCenter.Bodies
import ControllerSystem.ControllerClient.Handlers
import ControllerSystem.ControllerServer.Handlers
import ControllerSystem.Relay
import ControllerSystem.ControllerAw2401.Responses
import ControllerSystem.Lib.Deliveries
import ControllerSystem.Network
import ControllerSystem.Controller.Bound
import ControllerSystem.Controller.Descriptors
import ControllerSystem.Lib.Mailbox
import ControllerSystem.ControllerAw2401.Areawell
import ControllerSystem.ControlCenter.MessageLoop
import ControllerSystem.Socket.SmsLifecycle
import ControllerSystem.Lib.ArrivingStream
import ControllerSystem.Socket.SmsReceive
import ControllerSystem.Lib.ChildProcess
import ControllerSystem.Watching
import ControllerSystem.Lib.Interp
import ControllerSystem.ControlCenter.MongoDB
import ControllerSystem.ControlCenter.PowerPorts
import ControllerSystem.ControllerAw2401.Standalone
import ControllerSystem.Controller.Streams
import ControllerSystem.Controller.AccessLog
import ControllerSystem.Controller.HandOff
import ControllerSystem.ControlCenter.ExportLog
import ControllerSystem.ControlCenter.Signup
import ControllerSystem.PortSetting
import ControllerSystem.ControlCenter.BindOutcome
import ControllerSystem.ControlCenter.LogLine
import ControllerSystem.ControlCenter.LogLengths
import ControllerSystem.ControlCenter.BodyBounds
import ControllerSystem.ConfigHandler
import ControllerSystem.Controller.Init
import ControllerSystem.Socket.InetSocket
import ControllerSystem.ControllerClient.AccessLog
import ControllerSystem.Controller.Reconnect
import ControllerSystem.Lib.Tokens
import ControllerSystem.WmsClient.Receive
import ControllerSystem.ControlCenter.HttpClient
import ControllerSystem.Lib.FileTree
import ControllerSystem.Controller.Mkdirp
import ControllerSystem.Dispatch
import ControllerSystem.ControlCenter.EnquireLinkAck
import ControllerSystem.Controller.ConfStore
import ControllerSystem.Lib.Counter
import ControllerSystem.Sequence
import ControllerSystem.Lib.TextPointer
import ControllerSystem.CJson.Item
import ControllerSystem.CJson.Strings
import ControllerSystem.CJson.Parse
import ControllerSystem.CJson.Print
import ControllerSystem.CJson.Roundtrip
import ControllerSystem.CJson.Buffer
import ControllerSystem.CJson.WellFormed
import ControllerSystem.CJson.Lookup
import ControllerSystem.ControlCenter.SignupJson
import ControllerSystem.Replies
import ControllerSystem.CJson.OnHeap
import ControllerSystem.CJson.OnHeapParse
import ControllerSystem.ControlCenter.SignupHeap
import ControllerSystem.ControlCenter.Answered
