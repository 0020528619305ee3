import SocketBridge.Address.Elements
import SocketBridge.Bridge.Endpoint
import SocketBridge.Bridge.Settle
import SocketBridge.Bridge.Start
import SocketBridge.Cli.Run
import SocketBridge.Config.File
import SocketBridge.Echo.Start
import SocketBridge.Host.Offline
import SocketBridge.Main
import SocketBridge.Record.Cursor
import SocketBridge.Resolve.Resolver
import SocketBridge.Shutdown
import SocketBridge.Tokens
import SocketBridge.Proofs.Echo.Conservation
import SocketBridge.Proofs.Stream.Buffer
import SocketBridge.Proofs.Text.Utf8
import SocketBridge.Proofs.Stream.Run
import SocketBridge.Proofs.Stream.Slices
import SocketBridge.Proofs.Stream.Records
import SocketBridge.Proofs.Decoder
import SocketBridge.Proofs.Stream.Text
import SocketBridge.Proofs.Record.RoundTrip
import SocketBridge.Proofs.Bridge.Silence
import SocketBridge.Proofs.Bridge.Writes
import SocketBridge.Proofs.Echo.Progress
import SocketBridge.Proofs.Record.Canonical
import SocketBridge.Proofs.Resolve.Blocks
import SocketBridge.Proofs.Bridge.Connects
import SocketBridge.Proofs.Bridge.Accepts
import SocketBridge.Proofs.Address.Literal
import SocketBridge.Proofs.Bridge.Counters
import SocketBridge.Proofs.Bridge.Accounting
import SocketBridge.Proofs.Resolve.Narrowing
import SocketBridge.Proofs.Address.Stored
import SocketBridge.Proofs.Echo.Isolation
import SocketBridge.Proofs.Echo.Teardown
import SocketBridge.Proofs.Shutdown.History
import SocketBridge.Proofs.Config.Rules
import SocketBridge.Proofs.Config.Valid
import SocketBridge.Proofs.Resolve.Calls
import SocketBridge.Proofs.Resolve.Preference
import SocketBridge.Proofs.Address.Elements
import SocketBridge.Proofs.Resolve.Missing
import SocketBridge.Proofs.Config.Written
import SocketBridge.Proofs.Record.Calls
import SocketBridge.Proofs.Record.Cursor
import SocketBridge.Proofs.Record.Truncation
import SocketBridge.Proofs.Echo.Calls
import SocketBridge.Proofs.Stream.Lost
import SocketBridge.Proofs.Tokens
import SocketBridge.Proofs.Bridge.Reads
import SocketBridge.Proofs.Bridge.Endpoint
import SocketBridge.Proofs.Kind
import SocketBridge.Proofs.Config.Partial
