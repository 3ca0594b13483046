import DepthFeed.Config.Basic

/-!
# Connect controller

A connect makes attempts within a budget of one plus `maxReconnectAttempts`,
sleeping a backoff between them that starts at the initial backoff and doubles
up to ten seconds. The caller's interrupt is read before each attempt, after
each failed one and during each backoff. A backoff whose deadline overflows the
monotonic clock, from its reading then, aborts the process: the connect has no
outcome (`none`).
-/

namespace DepthFeed

/-- Timeout, retry budget and first backoff of a connect. -/
structure Controller where
  connectTimeout : Duration
  maxReconnectAttempts : UInt32
  initialBackoff : Duration
  deriving DecidableEq

/-- What a connect needs of the world it runs in. -/
structure Connector (σ : Type) where
  /-- One attempt under the watchdog. -/
  attempt : σ → Except AttemptError Unit × σ
  /-- Whether the caller's interrupt is raised. -/
  callerRaised : σ → Bool
  /-- A backoff sleep; false when the caller's interrupt cut it short. -/
  sleep : σ → Duration → Bool × σ
  /-- The monotonic clock's reading, from which a sleep fixes its deadline. -/
  uptime : σ → Duration

namespace Controller

def ofConfig (c : GatewayConfig) : Controller :=
  ⟨c.connectTimeout, c.maxReconnectAttempts, c.initialBackoff⟩

/-- The attempt budget: the first attempt plus the retries, saturating. -/
def maxAttempts (c : Controller) : Nat := min (c.maxReconnectAttempts.toNat + 1) 4294967295

theorem maxAttempts_pos (c : Controller) : 0 < c.maxAttempts := by
  simp only [maxAttempts]
  omega

def maxBackoff : Duration := Duration.ofSecs 10

def nextBackoff (d : Duration) : Duration := d.double.min maxBackoff

/-- The end of the monotonic clock's range, `2 ^ 63` seconds, in nanoseconds:
a deadline, the clock's reading plus a sleep, must stay below it. -/
def deadlineLimit : Nat := 9223372036854775808000000000

/-- The longest sleep whose deadline can be fixed when the clock reads `now`. -/
def sleepHorizon (now : Duration) : Duration := Duration.ofNanos (deadlineLimit - 1 - now.toNanos)

/-- The text of the abort caused by a sleep too long to schedule. -/
def deadlineOverflow : String := "overflow when adding duration to instant"

/-- Attempts from attempt number `attempt + 1` on, with `fuel` attempts left;
`none` when a backoff is too long to schedule. -/
def connectFrom {σ : Type} (c : Controller) (k : Connector σ) :
    Nat → Nat → Duration → σ → Option (Except ConnectError Unit × σ)
  | 0, _, _, s => some (.error .interrupted, s)
  | fuel + 1, attempt, backoff, s =>
    if k.callerRaised s then some (.error .interrupted, s) else
    let attempt := attempt + 1
    match k.attempt s with
    | (.ok (), s) => some (.ok (), s)
    | (.error cause, s) =>
      if k.callerRaised s then some (.error .interrupted, s)
      else if c.maxAttempts ≤ attempt then some (.error (.exhausted attempt cause), s)
      else if sleepHorizon (k.uptime s) < backoff then none
      else
        let (slept, s) := k.sleep s backoff
        if !slept then some (.error .interrupted, s)
        else connectFrom c k fuel attempt (nextBackoff backoff) s

/-- Connects, retrying within the budget; `none` when the process aborts on a
backoff too long to schedule. -/
def connect {σ : Type} (c : Controller) (k : Connector σ) (s : σ) :
    Option (Except ConnectError Unit × σ) :=
  c.connectFrom k c.maxAttempts 0 c.initialBackoff s

end Controller

end DepthFeed
