import DepthFeed.Protocol.Encode
import DepthFeed.Protocol.Decode
import DepthFeed.Config.Document
import DepthFeed.Gateway.Controller

/-!
# Requests on configurations

A configuration comes from a document (a string, or any other value written out
compactly first) or from the defaults, then goes through the builders listed
under `with`. The `config` request shows it, validates it, writes it as a
document and reads that document back.
-/

namespace DepthFeed

namespace Protocol

def configJson (c : GatewayConfig) : Json :=
  .obj [("reconnect_interval", durationJson c.reconnectInterval),
    ("keep_alive_interval", durationJson c.keepAliveInterval),
    ("sanity_check_interval", durationJson c.sanityCheckInterval),
    ("max_reconnect_attempts", .int c.maxReconnectAttempts.toNat),
    ("max_silent_interval", durationJson c.maxSilentInterval),
    ("initial_backoff", durationJson c.initialBackoff),
    ("connect_timeout", durationJson c.connectTimeout)]

def applyBuilder (c : GatewayConfig) (op : Op) : Decode GatewayConfig :=
  match op.name with
  | "reconnect_interval" => return { c with reconnectInterval := ← readDuration op.arg }
  | "keep_alive_interval" => return { c with keepAliveInterval := ← readDuration op.arg }
  | "sanity_check_interval" => return { c with sanityCheckInterval := ← readDuration op.arg }
  | "max_silent_interval" => return { c with maxSilentInterval := ← readDuration op.arg }
  | "initial_backoff" => return { c with initialBackoff := ← readDuration op.arg }
  | "connect_timeout" => return { c with connectTimeout := ← readDuration op.arg }
  | "max_reconnect_attempts" => return { c with maxReconnectAttempts := (← readU32 op.arg).toUInt32 }
  | other => refuse ("unknown config field " ++ other)

/-- The configuration a request describes under `json` and `with`, or the
error reading its document. A document that is not a string is read from its
compact text; the builders are looked at only once the document has been read. -/
def readConfig (req : Json) (docKey : String) : Decode (Except ConfigError GatewayConfig) := do
  let base : Except ConfigError GatewayConfig := match req.field? docKey with
    | none => .ok GatewayConfig.default
    | some (.str s) => GatewayConfig.ofJson s
    | some other => GatewayConfig.ofJson other.compact
  match base with
  | .error e => pure (.error e)
  | .ok c =>
    let builders ← match req.field? "with" with
      | none => pure []
      | some v => (← readArray v).mapM readOp
    return .ok (← builders.foldlM applyBuilder c)

def answerConfig (req : Json) : Decode Json := do
  match (← readConfig req "json") with
  | .error e => pure (configErrorJson e)
  | .ok c =>
    let doc := c.toDocument
    let reparsed := match GatewayConfig.ofJson doc with
      | .ok c' => .obj [("equal", .bool (decide (c' = c))), ("config", configJson c')]
      | .error e => configErrorJson e
    let validate := match c.validate with
      | .ok () => .null
      | .error e => configErrorJson e
    pure (.obj [("config", configJson c), ("validate", validate), ("json", .str doc),
      ("reparsed", reparsed), ("max_attempts", .int (Controller.ofConfig c).maxAttempts)])

end Protocol

end DepthFeed
