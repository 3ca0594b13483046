import DepthFeed.Gateway.Error

/-!
# Gateway configuration

`GatewayConfig` holds the timing and retry settings of one inbound gateway:
how often to reconnect, send keep-alives and check the book, how many retries
follow a failed first connect, how long the feed may stay silent, and the
first backoff and per-attempt timeout of a connect.

`validate` names the first interval that is zero, in the order reconnect,
keep-alive, sanity check, silence, connect timeout, initial backoff.
-/

namespace DepthFeed

/-- Timing and retry settings for one inbound gateway. -/
structure GatewayConfig where
  reconnectInterval : Duration
  keepAliveInterval : Duration
  sanityCheckInterval : Duration
  maxReconnectAttempts : UInt32
  maxSilentInterval : Duration
  initialBackoff : Duration
  connectTimeout : Duration
  deriving DecidableEq

namespace GatewayConfig

/-- The production settings: reconnect every 12 hours, keep-alive every 30 s,
sanity check every hour, five retries, 30 s of silence, 1 s first backoff,
10 s per attempt. -/
def default : GatewayConfig where
  reconnectInterval := Duration.ofSecs 43200
  keepAliveInterval := Duration.ofSecs 30
  sanityCheckInterval := Duration.ofSecs 3600
  maxReconnectAttempts := 5
  maxSilentInterval := Duration.ofSecs 30
  initialBackoff := Duration.ofSecs 1
  connectTimeout := Duration.ofSecs 10

/-- The intervals that must be positive, by name, in the order they are checked. -/
def intervals (c : GatewayConfig) : List (String × Duration) :=
  [("reconnect_interval", c.reconnectInterval),
   ("keep_alive_interval", c.keepAliveInterval),
   ("sanity_check_interval", c.sanityCheckInterval),
   ("max_silent_interval", c.maxSilentInterval),
   ("connect_timeout", c.connectTimeout),
   ("initial_backoff", c.initialBackoff)]

def validate (c : GatewayConfig) : Except ConfigError Unit :=
  match c.intervals.find? (·.2.isZero) with
  | some (field, _) => .error (.invalid field "must be greater than zero")
  | none => .ok ()

end GatewayConfig

end DepthFeed
