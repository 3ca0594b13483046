import DepthFeed.Protocol.Encode
import DepthFeed.Protocol.Decode
import DepthFeed.Config.Document

/-!
# Requests that build errors

The `error` request names an error type and describes one of its values;
the answer is that error's object. Error descriptions are also how scripts
elsewhere say which error a collaborator fails with.
-/

namespace DepthFeed

namespace Protocol

/-- The variant name and argument of an error description: a bare name or a
one-key object. -/
def readVariant (j : Json) : Decode (String × Json) := do
  let op ← readOp j
  pure (op.name, op.arg)

def readTransportError (j : Json) : Decode TransportError := do
  match (← readVariant j) with
  | ("ConnectionLost", _) => pure .connectionLost
  | ("Interrupted", _) => pure .interrupted
  | ("Io", m) => return .io (← readString m)
  | ("Protocol", m) => return .protocol (← readString m)
  | (other, _) => refuse ("unknown TransportError variant " ++ other)

def readReaderError (j : Json) : Decode ReaderError := do
  match (← readVariant j) with
  | ("ConnectionLost", _) => pure .connectionLost
  | ("ReplayOverflow", n) => return .replayOverflow (← readLimited "capacity" n)
  | ("ChannelClosed", _) => pure .channelClosed
  | ("Interrupted", _) => pure .interrupted
  | ("Transport", t) => return .transport (← readTransportError t)
  | (other, _) => refuse ("unknown ReaderError variant " ++ other)

/-- The reader error a description names, or `fallback` when it names none. -/
def readerErrorOr (fallback : ReaderError) (j : Json) : ReaderError :=
  match readReaderError j with
  | .ok e => e
  | .error _ => fallback

/-- The failure a connect script step names: the lost connection when the
description names no reader error. -/
def scriptedFailure (j : Json) : ReaderError := readerErrorOr .connectionLost j

/-- The failure a scripted disconnect is set to: none for null, an interrupt
when the description names no reader error. -/
def scriptedDisconnect : Json → Option ReaderError
  | .null => none
  | j => some (readerErrorOr .interrupted j)

def readAttemptError (j : Json) : Decode AttemptError := do
  match (← readVariant j) with
  | ("Timeout", d) => return .timeout (← readDuration d)
  | ("Failed", r) => return .failed (← readReaderError r)
  | (other, _) => refuse ("unknown AttemptError variant " ++ other)

def readConnectError (j : Json) : Decode ConnectError := do
  match (← readVariant j) with
  | ("Interrupted", _) => pure .interrupted
  | ("Exhausted", spec) =>
    let attempts ← keyValue spec "attempts" readU32
    let cause ← keyValue spec "source" readAttemptError
    pure (.exhausted attempts cause)
  | (other, _) => refuse ("unknown ConnectError variant " ++ other)

def readLane (j : Json) : Decode Lane := do
  match (← readString j) with
  | "Data" => pure .data
  | "Control" => pure .control
  | other => refuse ("unknown lane " ++ other)

def readWriterError (j : Json) : Decode WriterError := do
  match (← readVariant j) with
  | ("QueueFull", l) => return .queueFull (← readLane l)
  | ("FrameTooLarge", v) => do
    match (← readArray v) with
    | [len, limit] => return .frameTooLarge (← readU64 len) (← readU64 limit)
    | _ => refuse "FrameTooLarge takes [len, limit]"
  | ("Io", m) => return .io (← readString m)
  | (other, _) => refuse ("unknown WriterError variant " ++ other)

/-- Reads a configuration error; a document must fail to read or to validate,
and the error is the one that gives. -/
def readConfigError (j : Json) : Decode ConfigError := do
  match (← readVariant j) with
  | ("Invalid", v) => do
    match (← readArray v) with
    | [field, reason] => return .invalid (← readString field) (← readString reason)
    | _ => refuse "Invalid takes [field, reason]"
  | ("Json", doc) => do
    match GatewayConfig.ofJson (← readString doc) with
    | .error e => pure e
    | .ok _ => refuse "document parsed; no Json error"
  | (other, _) => refuse ("unknown ConfigError variant " ++ other)

def readGatewayError (j : Json) : Decode GatewayError := do
  match (← readVariant j) with
  | ("Connect", c) => return .connect (← readConnectError c)
  | ("Reader", r) => return .reader (← readReaderError r)
  | ("Writer", w) => return .writer (← readWriterError w)
  | (other, _) => refuse ("unknown GatewayError variant " ++ other)

def answerError (req : Json) : Decode Json := do
  let (ty, spec) ← readVariant ((req.get? "value").getD .null)
  match ty with
  | "TransportError" => return transportErrorJson (← readTransportError spec)
  | "ReaderError" => return readerErrorJson (← readReaderError spec)
  | "AttemptError" => return attemptErrorJson (← readAttemptError spec)
  | "ConnectError" => return connectErrorJson (← readConnectError spec)
  | "WriterError" => return writerErrorJson (← readWriterError spec)
  | "ConfigError" => return configErrorJson (← readConfigError spec)
  | "GatewayError" => return gatewayErrorJson (← readGatewayError spec)
  | "Lane" => return .obj [("display", .str (← readLane spec).name)]
  | other => refuse ("unknown error type " ++ other)

end Protocol

end DepthFeed
