import DepthFeed.Config.Document
import DepthFeed.Gateway.Controller

/-!
# A tour of the configuration

`tour` is the log of a short walk through the configuration API: load a
partial document, list the backoffs a connect would wait through, write the
configuration back as a document, and show the two ways a zero interval is
refused. Each entry is one log line: a level, the target, the message and its
fields.
-/

namespace DepthFeed

namespace GatewayConfig

/-- The configuration in debug form, every interval in the unit that fits it. -/
def debugText (c : GatewayConfig) : String :=
  "GatewayConfig \x7b reconnect_interval: " ++ c.reconnectInterval.debugText ++
    ", keep_alive_interval: " ++ c.keepAliveInterval.debugText ++
    ", sanity_check_interval: " ++ c.sanityCheckInterval.debugText ++
    ", max_reconnect_attempts: " ++ toString c.maxReconnectAttempts.toNat ++
    ", max_silent_interval: " ++ c.maxSilentInterval.debugText ++
    ", initial_backoff: " ++ c.initialBackoff.debugText ++
    ", connect_timeout: " ++ c.connectTimeout.debugText ++ " \x7d"

def tourDocument : String := "\x7b \"keep_alive_interval_ms\": 15000, \"max_reconnect_attempts\": 3 \x7d"

/-- The document with a zero sanity-check interval the tour shows refused. -/
def tourZeroDocument : String := "\x7b \"sanity_check_interval_ms\": 0 \x7d"

def tourLine (level message : String) : String := level ++ " gateway_config: " ++ message

/-- The backoff lines of a connect under `c`: one per attempt, each backoff
following the last. -/
def backoffLines (c : GatewayConfig) : List String :=
  let controller := Controller.ofConfig c
  let rec go : Nat → Nat → Duration → List String
    | 0, _, _ => []
    | n + 1, attempt, backoff =>
      tourLine "INFO" ("backoff after a failed attempt attempt=" ++ toString attempt ++
        " backoff=" ++ backoff.debugText) :: go n (attempt + 1) (Controller.nextBackoff backoff)
  go controller.maxAttempts 1 c.initialBackoff

def verdictLine : Except ConfigError Unit → String
  | .ok () => tourLine "INFO" "unexpectedly valid"
  | .error e => tourLine "WARN" ("rejected configuration error=" ++ e.message)

def tour : Except ConfigError (List String) := do
  let c ← ofJson tourDocument
  let zeroed := (ofJson tourZeroDocument).map fun _ => ()
  pure ([tourLine "INFO" ("loaded partial configuration config=" ++ c.debugText)] ++
    backoffLines c ++
    [tourLine "INFO" "serialized form:"] ++ c.toPrettyDocument ++
    [verdictLine { c with connectTimeout := Duration.zero }.validate, verdictLine zeroed])

end GatewayConfig

end DepthFeed
