import DepthFeed.Json.Read
import DepthFeed.Protocol.Records
import DepthFeed.Protocol.Books
import DepthFeed.Protocol.Errors
import DepthFeed.Protocol.Config
import DepthFeed.Protocol.Timing
import DepthFeed.Protocol.Outbound
import DepthFeed.Config.Tour
import DepthFeed.Protocol.Reader
import DepthFeed.Protocol.Gateway
import DepthFeed.Protocol.Agents
import DepthFeed.Protocol.Pipeline

/-!
# Answering requests

One request is one line of JSON naming its kind under `op`; the answer is one
line of JSON. A request that cannot be read, or that asks for something the
library cannot take, is answered `{"error": "bad_input", "message": ...}`.
-/

namespace DepthFeed

namespace Protocol

/-- What a request may learn from the machine it runs on: the wall clock in
nanoseconds since the Unix epoch. -/
structure Host where
  wallClockNanos : Nat

/-- The `system_clock` request: whether the wall clock is past the epoch and
past the start of 2020. -/
def answerSystemClock (host : Host) : Json :=
  .obj [("after_epoch", .bool (decide (0 < host.wallClockNanos))),
    ("current_time_after_epoch", .bool (decide (0 < host.wallClockNanos))),
    ("after_2020", .bool (decide (1577836800000000000 < host.wallClockNanos)))]

/-- The `demo_gateway_config` request: the configuration tour's log. -/
def answerTour : Json :=
  match GatewayConfig.tour with
  | .ok lines => .obj [("success", .bool true), ("stdout", .arr (lines.map .str)), ("stderr", .arr [])]
  | .error e =>
    .obj [("success", .bool false), ("stdout", .arr []), ("stderr", .arr [.str ("Error: " ++ e.message)])]

def answer (host : Host) (req : Json) : Decode Json :=
  match req.get? "op" with
  | some (.str kind) =>
    match kind with
    | "record" => answerRecord req
    | "decode" => answerDecode req
    | "price_level" => answerPriceLevel req
    | "book_side" => answerBookSide req
    | "incremental_book" => answerBook IncrementalBook req
    | "snapshot_book" => answerBook SnapshotBook req
    | "error" => answerError req
    | "config" => answerConfig req
    | "system_clock" => pure (answerSystemClock host)
    | "clock" => answerClock req
    | "schedule" => answerSchedule req
    | "interrupt" => answerInterrupt req
    | "backoff" => answerBackoff req
    | "controller" => answerController req
    | "writer" => answerWriter req
    | "writer_agent" => answerWriterAgent req
    | "replay_queue" => answerReplayQueue req
    | "demo_gateway_config" => pure answerTour
    | "reader" => answerReader req
    | "gateway" => answerGateway req
    | "agent" => answerAgent req
    | "gateway_agent" => answerGatewayAgent req
    | "pipeline" => answerPipeline req
    | other => refuse ("unknown op " ++ other)
  | _ => refuse "missing op"

def badInput (message : String) : Json :=
  .obj [("error", .str "bad_input"), ("message", .str message)]

/-- The answer of a request whose run stopped the process. -/
def abortedAnswer : Json := .obj [("error", .str "panic")]

def answerLine (host : Host) (line : String) : String :=
  match Json.parse line with
  | .error e => (badInput ("invalid JSON request: " ++ e.message)).compact
  | .ok req =>
    match answer host req with
    | .ok j => j.compact
    | .error (.badInput m) => (badInput m).compact
    | .error .aborted => abortedAnswer.compact

end Protocol

end DepthFeed
