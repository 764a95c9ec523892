import Conduit.Base64
import Conduit.CommandLine
import Conduit.Config.Basic
import Conduit.Config.Dotenv
import Conduit.Config.Environment
import Conduit.Config.Files
import Conduit.Config.Loader
import Conduit.Decimal.Reader
import Conduit.Decimal.Shortest
import Conduit.Decimal.Style
import Conduit.Demo.Audit
import Conduit.Demo.Messages
import Conduit.Demo.Routes
import Conduit.Error.Api
import Conduit.Error.Extraction
import Conduit.Error.Pipeline
import Conduit.Exchange
import Conduit.Form
import Conduit.Hex
import Conduit.Http.Header
import Conduit.Http.Method
import Conduit.Http.Response
import Conduit.Http.Uri
import Conduit.Inspect.Errors
import Conduit.Inspect.Exchange
import Conduit.Inspect.Http
import Conduit.Inspect.Pipeline
import Conduit.Inspect.Routing
import Conduit.Inspect.Settings
import Conduit.Inspect.WebSocket
import Conduit.Json.Basic
import Conduit.Json.Cursor
import Conduit.Json.Literal
import Conduit.Json.Numeral
import Conduit.Json.Reader
import Conduit.Json.Writer
import Conduit.Logging.Filter
import Conduit.Logging.Settings
import Conduit.Main
import Conduit.Mismatch
import Conduit.Net.SocketAddress
import Conduit.Pipeline.Auth
import Conduit.Pipeline.Chain
import Conduit.Pipeline.Context
import Conduit.Pipeline.Contract
import Conduit.Pipeline.Decoder
import Conduit.Pipeline.Encoder
import Conduit.Pipeline.Registrar
import Conduit.Pipeline.Registry
import Conduit.Pipeline.Rehearsal
import Conduit.Pipeline.Resolver
import Conduit.Pipeline.Session
import Conduit.Pipeline.Stage
import Conduit.Power
import Conduit.Proofs.Base64
import Conduit.Proofs.ByteOrder
import Conduit.Proofs.Checks
import Conduit.Proofs.CommaLists
import Conduit.Proofs.Config.BaseSpec
import Conduit.Proofs.Config.Overrides
import Conduit.Proofs.Json.Members
import Conduit.Proofs.Notices
import Conduit.Proofs.Pipeline.Acceptance
import Conduit.Proofs.Pipeline.AuthGate
import Conduit.Proofs.Pipeline.Closing
import Conduit.Proofs.Pipeline.Codecs
import Conduit.Proofs.Pipeline.FrameDecoding
import Conduit.Proofs.Pipeline.FrameLimit
import Conduit.Proofs.Pipeline.FrameLoop
import Conduit.Proofs.Pipeline.Groups
import Conduit.Proofs.Pipeline.HandlerGate
import Conduit.Proofs.Pipeline.InBand
import Conduit.Proofs.Pipeline.Indexing
import Conduit.Proofs.Pipeline.Positions
import Conduit.Proofs.Pipeline.Registration
import Conduit.Proofs.Pipeline.Rendering
import Conduit.Proofs.Pipeline.Reply
import Conduit.Proofs.Pipeline.Resolution
import Conduit.Proofs.Pipeline.Rounds
import Conduit.Proofs.Pipeline.RouteTable
import Conduit.Proofs.Pipeline.Sealing
import Conduit.Proofs.Pipeline.Sent
import Conduit.Proofs.Pipeline.Shadowing
import Conduit.Proofs.Pipeline.Stages
import Conduit.Proofs.Pipeline.Tiers
import Conduit.Proofs.Pipeline.Tokens
import Conduit.Proofs.Pipeline.Upgrade
import Conduit.Proofs.Routing.Children
import Conduit.Proofs.Routing.Conflicts
import Conduit.Proofs.Routing.Counting
import Conduit.Proofs.Routing.Lookup
import Conduit.Proofs.Routing.Matching
import Conduit.Proofs.Routing.Order
import Conduit.Proofs.Routing.Patterns
import Conduit.Proofs.Routing.Refusals
import Conduit.Proofs.Routing.Registrations
import Conduit.Proofs.Routing.Representation
import Conduit.Proofs.Routing.Shape
import Conduit.Proofs.Routing.Store
import Conduit.Proofs.Routing.Verbs
import Conduit.Proofs.Server.Admission
import Conduit.Proofs.Server.BodyLimits
import Conduit.Proofs.Server.Dispatch
import Conduit.Proofs.Server.Draining
import Conduit.Proofs.Server.RequestIds
import Conduit.Proofs.Server.Upgrades
import Conduit.Proofs.Spec.Inheritance
import Conduit.Proofs.Spec.Overriding
import Conduit.Proofs.Spec.RoundTrip
import Conduit.Proofs.Spec.Walk
import Conduit.Proofs.Text
import Conduit.Proofs.Uuid
import Conduit.Proofs.WebSocket.ConnectionLines
import Conduit.Proofs.WebSocket.Endpoint
import Conduit.Proofs.WebSocket.Handshake
import Conduit.Proofs.WebSocket.Subprotocols
import Conduit.Routing.Params
import Conduit.Routing.Pattern
import Conduit.Routing.Router
import Conduit.Routing.Tree
import Conduit.Routing.Verbs
import Conduit.Server.Dispatch
import Conduit.Server.Lifecycle
import Conduit.Server.Settings
import Conduit.Server.Shutdown
import Conduit.Sha1
import Conduit.Shape.Basic
import Conduit.Shape.FromForm
import Conduit.Shape.FromJson
import Conduit.Shape.FromToml
import Conduit.Spec
import Conduit.Text
import Conduit.Text.Alphanumeric
import Conduit.Text.Unprintable
import Conduit.Text.UpperCase
import Conduit.Toml.Basic
import Conduit.Toml.Quoted
import Conduit.Toml.Reader
import Conduit.Toml.Scalar
import Conduit.Utf8
import Conduit.Uuid
import Conduit.WebSocket.Endpoint
import Conduit.WebSocket.Error
import Conduit.WebSocket.Frame
import Conduit.WebSocket.Handshake
import Conduit.WebSocket.Loopback
import Conduit.WebSocket.Socket
