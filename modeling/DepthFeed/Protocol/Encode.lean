import DepthFeed.Json.Value
import DepthFeed.Record.Codec
import DepthFeed.Book.Side
import DepthFeed.Gateway.Error

/-!
# Writing answers

How the values of the library appear in answers. A level is `[price, size,
count]`, or null when all three are absent; an optional level is `"none"`
when missing. Errors are objects naming the error's kind by its path of
wrappers (`ReaderError::TransportError::Io`), its text, its causes when it
has any, and whether it is fatal for the errors that can be.
-/

namespace DepthFeed

namespace Protocol

def levelJson (e : LevelEntry) : Json :=
  if e = LevelEntry.absent then .null
  else .arr [.int e.price.toInt, .int e.size.toInt, .int e.count.toInt]

def priceLevelJson (l : PriceLevel) : Json := levelJson l.toEntry

def optLevelJson : Option PriceLevel → Json
  | some l => priceLevelJson l
  | none => .str "none"

def u64Json (n : UInt64) : Json := .int n.toNat

def optNatJson : Option Nat → Json
  | some n => .int n
  | none => .null

def orderingJson : Ordering → Json
  | .lt => .str "Less"
  | .eq => .str "Equal"
  | .gt => .str "Greater"

def sideUpdateJson : SideUpdate → Json
  | .applied i => .obj [("Applied", .int i)]
  | .notPresent => .str "NotPresent"
  | .beyondCapacity i => .obj [("BeyondCapacity", .int i)]

def sideKindName : SideKind → String
  | .bid => "Bid"
  | .ask => "Ask"

def durationJson (d : Duration) : Json :=
  .obj [("secs", .int d.secs), ("nanos", .int d.subsecNanos)]

def recordJson (r : MarketRecord) : Json :=
  .obj [
    ("action", .str (match r.action with | .trade => "Trade" | .modify => "Modify")),
    ("side", .str (match r.side with | .bid => "Bid" | .ask => "Ask" | .unsided => "None")),
    ("depth", match r.depth with | some d => .int d.toNat | none => .null),
    ("flags", .int r.flags.toNat),
    ("exchange_id", .int r.exchangeId.toNat),
    ("security_id", u64Json r.securityId),
    ("timestamp_event", u64Json r.timestampEvent),
    ("timestamp_sent", u64Json r.timestampSent),
    ("timestamp_recv", u64Json r.timestampRecv),
    ("sequence", u64Json r.sequence),
    ("price", .int r.price.toInt),
    ("size", .int r.size.toInt),
    ("is_level_delta", .bool r.isLevelDelta),
    ("bids", .arr (r.bids.toList.map levelJson)),
    ("asks", .arr (r.asks.toList.map levelJson))]

/-- An error object: kind, text, causes when there are any, and fatality
when the kind has it. -/
def errorJson (kind message : String) (causes : List String) (fatal : Option Bool) : Json :=
  .obj ([("error", .str kind), ("message", .str message)] ++
    (if causes.isEmpty then [] else [("chain", .arr (causes.map Json.str))]) ++
    (match fatal with | some b => [("is_fatal", .bool b)] | none => []))

def TransportError.kind : TransportError → String
  | .connectionLost => "TransportError::ConnectionLost"
  | .interrupted => "TransportError::Interrupted"
  | .io _ => "TransportError::Io"
  | .protocol _ => "TransportError::Protocol"

def ReaderError.kind : ReaderError → String
  | .connectionLost => "ReaderError::ConnectionLost"
  | .replayOverflow _ => "ReaderError::ReplayOverflow"
  | .channelClosed => "ReaderError::ChannelClosed"
  | .interrupted => "ReaderError::Interrupted"
  | .transport e => "ReaderError::" ++ TransportError.kind e

def AttemptError.kind : AttemptError → String
  | .timeout _ => "AttemptError::Timeout"
  | .failed _ => "AttemptError::Failed"

def ConnectError.kind : ConnectError → String
  | .interrupted => "ConnectError::Interrupted"
  | .exhausted _ _ => "ConnectError::Exhausted"

def WriterError.kind : WriterError → String
  | .queueFull _ => "WriterError::QueueFull"
  | .frameTooLarge _ _ => "WriterError::FrameTooLarge"
  | .io _ => "WriterError::Io"

def ConfigError.kind : ConfigError → String
  | .document _ => "ConfigError::Json"
  | .invalid _ _ => "ConfigError::Invalid"

def GatewayError.kind : GatewayError → String
  | .connect e => "GatewayError::" ++ ConnectError.kind e
  | .reader e => "GatewayError::" ++ ReaderError.kind e
  | .writer e => "GatewayError::" ++ WriterError.kind e

def transportErrorJson (e : TransportError) : Json :=
  errorJson (TransportError.kind e) e.message e.causes none

def readerErrorJson (e : ReaderError) : Json :=
  errorJson (ReaderError.kind e) e.message e.causes (some e.isFatal)

def attemptErrorJson (e : AttemptError) : Json :=
  errorJson (AttemptError.kind e) e.message e.causes none

def connectErrorJson (e : ConnectError) : Json :=
  errorJson (ConnectError.kind e) e.message e.causes none

def writerErrorJson (e : WriterError) : Json :=
  errorJson (WriterError.kind e) e.message e.causes none

def configErrorJson (e : ConfigError) : Json :=
  errorJson (ConfigError.kind e) e.message e.causes none

def gatewayErrorJson (e : GatewayError) : Json :=
  errorJson (GatewayError.kind e) e.message e.causes (some e.isFatal)

end Protocol

end DepthFeed
