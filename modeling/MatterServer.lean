import MatterServer.Mdns.Wire
import MatterServer.Mdns.Message
import MatterServer.Mdns.Parse
import MatterServer.Mdns.RoundTrip
import MatterServer.Mdns.Compression
import MatterServer.Mdns.Zone
import MatterServer.Mdns.Responder
import MatterServer.Config.Json
import MatterServer.Config.Logger
import MatterServer.Config.EnvFile
import MatterServer.Config.Load
import MatterServer.Server.Events
import MatterServer.Server.Commands
import MatterServer.Server.Storage
import MatterServer.Websocket.Model
import MatterServer.Websocket.Lock
import MatterServer.Websocket.Queue
import MatterServer.Websocket.Registry
