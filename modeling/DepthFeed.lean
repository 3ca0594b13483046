import DepthFeed.Agent.Runner
import DepthFeed.Book.Class
import DepthFeed.Book.Incremental
import DepthFeed.Book.Level
import DepthFeed.Book.Side
import DepthFeed.Book.Snapshot
import DepthFeed.Config.Basic
import DepthFeed.Config.Document
import DepthFeed.Config.Tour
import DepthFeed.Gateway.Controller
import DepthFeed.Gateway.Error
import DepthFeed.Gateway.Inbound
import DepthFeed.Gateway.Interrupt
import DepthFeed.Gateway.Replay
import DepthFeed.Gateway.Schedule
import DepthFeed.Gateway.Writer
import DepthFeed.Json.Read
import DepthFeed.Json.Scan
import DepthFeed.Json.Value
import DepthFeed.Main
import DepthFeed.Number.Binary64
import DepthFeed.Number.Shortest
import DepthFeed.Protocol.Agents
import DepthFeed.Protocol.Answer
import DepthFeed.Protocol.Books
import DepthFeed.Protocol.Config
import DepthFeed.Protocol.Decode
import DepthFeed.Protocol.Encode
import DepthFeed.Protocol.Errors
import DepthFeed.Protocol.Gateway
import DepthFeed.Protocol.Outbound
import DepthFeed.Protocol.Pipeline
import DepthFeed.Protocol.Reader
import DepthFeed.Protocol.Records
import DepthFeed.Protocol.Steps
import DepthFeed.Protocol.Timing
import DepthFeed.Reader.Control
import DepthFeed.Reader.Feed
import DepthFeed.Reader.Handshake
import DepthFeed.Reader.Supervised
import DepthFeed.Reader.Threads
import DepthFeed.Reader.Worker
import DepthFeed.Record.Basic
import DepthFeed.Record.Codec
import DepthFeed.Text.Escape
import DepthFeed.Time.Clock
import DepthFeed.Time.Duration
import DepthFeed.Proofs.Reader.Frame
import DepthFeed.Proofs.Reader.Exclusion
import DepthFeed.Proofs.Reader.History
import DepthFeed.Proofs.Reader.Rounds
import DepthFeed.Proofs.Reader.Teardown
import DepthFeed.Proofs.Reader.Transport
import DepthFeed.Proofs.Reader.Connect
import DepthFeed.Proofs.Record.Layout
import DepthFeed.Proofs.Book.Search
import DepthFeed.Proofs.Book.Update
import DepthFeed.Proofs.Book.Invariant
import DepthFeed.Proofs.Book.Snapshot
import DepthFeed.Proofs.Book.Depth
import DepthFeed.Proofs.Book.Rebuild
import DepthFeed.Proofs.Book.SortedMap
import DepthFeed.Proofs.Book.Replay
import DepthFeed.Proofs.Gateway.Retry
import DepthFeed.Proofs.Gateway.Poll
import DepthFeed.Proofs.Agent.Loop
import DepthFeed.Proofs.Gateway.Firing
import DepthFeed.Proofs.Gateway.Lanes
import DepthFeed.Proofs.Json.Reading
import DepthFeed.Proofs.Config.RoundTrip
import DepthFeed.Proofs.Gateway.Chains
import DepthFeed.Proofs.Time.Advance
import DepthFeed.Proofs.Reader.Cycle
