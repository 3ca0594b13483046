import DepthFeed.Json.Scan
import DepthFeed.Time.Duration

/-!
# Gateway errors

The failures of the feed machinery, each with its text and the chain of
underlying causes, outermost first. A wrapper that only forwards another
error shows that error's text and causes unchanged (a reader failing on its
transport, every error of the gateway). Only a closed distribution channel
ends a reader for good; the gateway also stops on a failed connect and on an
interrupted reader.
-/

namespace DepthFeed

/-- A failure of the exchange transport. -/
inductive TransportError where
  | connectionLost
  | interrupted
  | io (message : String)
  | protocol (message : String)
  deriving DecidableEq, Repr

/-- A failure of the feed reader. -/
inductive ReaderError where
  | connectionLost
  | replayOverflow (capacity : Nat)
  | channelClosed
  | interrupted
  | transport (e : TransportError)
  deriving DecidableEq, Repr

/-- The failure of one connect attempt. -/
inductive AttemptError where
  | timeout (after : Duration)
  | failed (e : ReaderError)
  deriving DecidableEq

/-- The failure of a whole connect. -/
inductive ConnectError where
  | interrupted
  | exhausted (attempts : Nat) (cause : AttemptError)
  deriving DecidableEq

/-- The two queues of the outbound writer. -/
inductive Lane where
  | data
  | control
  deriving DecidableEq, Repr

/-- A failure of the outbound writer. -/
inductive WriterError where
  | queueFull (lane : Lane)
  | frameTooLarge (len limit : Nat)
  | io (message : String)
  deriving DecidableEq, Repr

/-- A configuration that cannot be used. -/
inductive ConfigError where
  | document (e : Json.TextError)
  | invalid (field : String) (reason : String)
  deriving DecidableEq

/-- A failure of the supervising gateway. -/
inductive GatewayError where
  | connect (e : ConnectError)
  | reader (e : ReaderError)
  | writer (e : WriterError)
  deriving DecidableEq

namespace TransportError

def message : TransportError → String
  | .connectionLost => "connection closed by the remote end"
  | .interrupted => "transport call interrupted"
  | .io m => "transport i/o error: " ++ m
  | .protocol m => "protocol error: " ++ m

/-- The causes of a transport error: an i/o error carries its own. -/
def causes : TransportError → List String
  | .io m => [m]
  | _ => []

end TransportError

namespace ReaderError

def message : ReaderError → String
  | .connectionLost => "feed connection lost"
  | .replayOverflow n => "replay queue overflowed its capacity of " ++ toString n ++ " records"
  | .channelClosed => "distribution channel closed"
  | .interrupted => "reader operation interrupted"
  | .transport e => e.message

def causes : ReaderError → List String
  | .transport e => e.causes
  | _ => []

def isFatal : ReaderError → Bool
  | .channelClosed => true
  | _ => false

end ReaderError

def Lane.name : Lane → String
  | .data => "data"
  | .control => "control"

namespace AttemptError

def message : AttemptError → String
  | .timeout after => "connect attempt timed out after " ++ after.debugText
  | .failed e => "connect attempt failed: " ++ e.message

def causes : AttemptError → List String
  | .timeout _ => []
  | .failed e => e.message :: e.causes

end AttemptError

namespace ConnectError

def message : ConnectError → String
  | .interrupted => "connect interrupted"
  | .exhausted n _ => "connect failed after " ++ toString n ++ " attempts"

def causes : ConnectError → List String
  | .interrupted => []
  | .exhausted _ a => a.message :: a.causes

end ConnectError

namespace WriterError

def message : WriterError → String
  | .queueFull lane => lane.name ++ " write queue is full"
  | .frameTooLarge len limit =>
    "frame of " ++ toString len ++ " bytes exceeds the " ++ toString limit ++ " byte limit"
  | .io m => "socket write failed: " ++ m

def causes : WriterError → List String
  | .io m => [m]
  | _ => []

end WriterError

namespace ConfigError

def message : ConfigError → String
  | .document e => "invalid configuration document: " ++ e.message
  | .invalid field reason => "invalid value for " ++ field ++ ": " ++ reason

def causes : ConfigError → List String
  | .document e => [e.message]
  | .invalid _ _ => []

end ConfigError

namespace GatewayError

def message : GatewayError → String
  | .connect e => e.message
  | .reader e => e.message
  | .writer e => e.message

def causes : GatewayError → List String
  | .connect e => e.causes
  | .reader e => e.causes
  | .writer e => e.causes

/-- A failed connect or an interrupted reader stops the gateway, as does a
fatal reader error; writer errors never do. -/
def isFatal : GatewayError → Bool
  | .connect _ => true
  | .reader .interrupted => true
  | .reader e => e.isFatal
  | .writer _ => false

end GatewayError

end DepthFeed
