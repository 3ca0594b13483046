import DepthFeed.Protocol.Errors
import DepthFeed.Protocol.Steps
import DepthFeed.Time.Clock
import DepthFeed.Gateway.Schedule
import DepthFeed.Gateway.Interrupt
import DepthFeed.Gateway.Controller

/-!
# Requests on clocks, schedules, interrupts and connects

`clock` moves a manual clock; `schedule` runs a schedule against one;
`interrupt` builds and raises a family of tokens; `backoff` lists successive
backoffs; `controller` runs a whole connect against a scripted connector.
-/

namespace DepthFeed

namespace Protocol

/-- A clock move shared by `clock` and `schedule`, if `op` is one. -/
def clockMove (c : ManualClock) (op : Op) : Option (Decode ManualClock) :=
  match op.name with
  | "advance" => some (return c.advance (← readDuration op.arg))
  | "set" => some (return c.set (← readU64 op.arg).toUInt64)
  | _ => none

/-- A clock operation: a move, or `read`, which leaves the clock as it is. -/
def clockStep (c : ManualClock) (op : Op) : Option (Decode ManualClock) :=
  match op.name with
  | "read" => some (pure c)
  | _ => clockMove c op

/-- The `clock` request: the reading after each operation. -/
def answerClock (req : Json) : Decode Json := do
  let start ← fieldOr req "start" 0 readU64
  let ops ← readOps req
  let rec go : List Op → ManualClock → Decode (List Json)
    | [], _ => pure []
    | op :: ops, c => do
      match clockStep c op with
      | some step => do
        let c ← step
        return u64Json c.now :: (← go ops c)
      | none => unknownOp "clock" op
  return .obj [("steps", .arr (← go ops ⟨start.toUInt64⟩))]

/-- A schedule with its clock. -/
structure Scheduled where
  schedule : Schedule
  clock : ManualClock

def scheduleStep (s : Scheduled) (op : Op) : Decode (Json × Scheduled) :=
  match clockMove s.clock op with
  | some step => return (.null, { s with clock := ← step })
  | none =>
    match op.name with
    | "start" => pure (.null, { s with schedule := s.schedule.start s.clock.now })
    | "check" =>
      let (fired, sch) := s.schedule.check s.clock.now
      pure (.bool fired, { s with schedule := sch })
    | "force_trigger" | "trigger" | "new_handle_trigger" =>
      pure (.null, { s with schedule := s.schedule.trigger })
    | "is_pending" => pure (.bool s.schedule.forced, s)
    | "is_started" => pure (.bool s.schedule.isStarted, s)
    | "name" => pure (.str s.schedule.name, s)
    | _ => unknownOp "schedule" op

def answerSchedule (req : Json) : Decode Json := do
  let interval ← keyOr req "interval" Duration.zero readDuration
  let start ← fieldOr req "clock" 0 readU64
  let ops ← readOps req
  let (steps, _) ← runSteps scheduleStep (fun s => [("now", u64Json s.clock.now)]) ops
    ⟨Schedule.new "driver" interval, ⟨start.toUInt64⟩⟩
  pure (.obj [("steps", .arr steps)])

def readToken (f : Interrupts) (j : Json) : Decode Nat := do
  let i ← readU64 j
  if i < f.tokens.length then pure i else refuse ("no token " ++ toString i)

def interruptStep (f : Interrupts) (op : Op) : Decode (Json × Interrupts) :=
  match op.name with
  | "new" => let (i, f) := f.new; pure (.int i, f)
  | "child" => do let (i, f) := f.child (← readToken f op.arg); pure (.int i, f)
  | "clone" => do let (i, f) := f.clone (← readToken f op.arg); pure (.int i, f)
  | "raise" => return (.null, f.raise (← readToken f op.arg))
  | "is_raised" => return (.bool (f.isRaised (← readToken f op.arg)), f)
  | "sleep_zero" => do
    match Interrupts.sleep (fun _ => f) (← readToken f op.arg) Duration.zero with
    | some slept => pure (.bool slept, f)
    | none => abortRequest
  | _ => unknownOp "interrupt" op

def answerInterrupt (req : Json) : Decode Json := do
  let ops ← readOps req
  let (steps, _) ← runSteps interruptStep
    (fun f => [("raised", .arr ((List.range f.tokens.length).map fun i => .bool (f.isRaised i)))])
    ops Interrupts.empty
  pure (.obj [("steps", .arr steps)])

def answerBackoff (req : Json) : Decode Json := do
  let initial ← keyOr req "initial" Duration.zero readDuration
  let steps ← fieldOr req "steps" 0 (readLimited "steps")
  let retries ← fieldOr req "max_reconnect_attempts" 0 readU32
  let rec seq : Nat → Duration → List Json
    | 0, d => [durationJson d]
    | n + 1, d => durationJson d :: seq n (Controller.nextBackoff d)
  let c : Controller := ⟨Duration.zero, retries.toUInt32, initial⟩
  pure (.obj [("sequence", .arr (seq steps initial)), ("max_attempts", .int c.maxAttempts),
    ("max_backoff", durationJson Controller.maxBackoff)])

/-- What a scripted connector does on one connect call. -/
inductive ConnectStep where
  | succeed
  | fail (e : ReaderError)
  | hang
  | raiseThenFail (e : ReaderError)
  | raiseThenSucceed
  | raiseLaterThenFail (e : ReaderError)

/-- Reads a connect script step; a step that is not one of the known kinds
succeeds. -/
def readConnectStep (j : Json) : ConnectStep :=
  match readOp j with
  | .ok ⟨"fail", r⟩ => .fail (scriptedFailure r)
  | .ok ⟨"hang", _⟩ => .hang
  | .ok ⟨"raise_then_fail", r⟩ => .raiseThenFail (scriptedFailure r)
  | .ok ⟨"raise_then_ok", _⟩ => .raiseThenSucceed
  | .ok ⟨"raise_later_then_fail", r⟩ => .raiseLaterThenFail (scriptedFailure r)
  | _ => .succeed

def readConnectScript (j : Json) (key : String) : Decode (List ConnectStep) :=
  fieldOr j key [] fun v => return (← readArray v).map readConnectStep

/-- How long after a `raiseLaterThenFail` step its raise lands: ten milliseconds. -/
def raiseDelay : Nat := 10 * 1000000

/-- A connector that follows a script, succeeding once it runs out, and the
caller's interrupt it may raise. Time passes only while an attempt hangs or a
backoff sleeps; `raiseIn` is how much of it is left before a raise that an
earlier step started lands. A raise still pending when the connect ends has
not landed by then. -/
structure ScriptedConnector where
  script : List ConnectStep
  calls : Nat
  callerRaised : Bool
  raiseIn : Option Nat

namespace ScriptedConnector

/-- Lets `d` nanoseconds pass; true, with the caller's interrupt raised, when
the pending raise lands within them and so cuts the wait short. -/
def wait (s : ScriptedConnector) (d : Nat) : Bool × ScriptedConnector :=
  match s.raiseIn with
  | some r =>
    if r ≤ d then (true, { s with callerRaised := true, raiseIn := none })
    else (false, { s with raiseIn := some (r - d) })
  | none => (false, s)

/-- Starts a raise that lands `raiseDelay` from now, unless one lands sooner. -/
def raiseLater (s : ScriptedConnector) : ScriptedConnector :=
  { s with raiseIn := some (min (s.raiseIn.getD raiseDelay) raiseDelay) }

/-- The scripted connector as the controller sees it, attempts timing out
after `timeout`. A hanging attempt ends either at the timeout or, earlier,
when the pending raise lands; a sleep likewise. Its clock reads zero: time is
counted from the connect on. -/
def connector (timeout : Duration) : Connector ScriptedConnector where
  attempt s :=
    let s' := { s with script := s.script.drop 1, calls := s.calls + 1 }
    match s.script.head?.getD .succeed with
    | .succeed => (.ok (), s')
    | .fail e => (.error (.failed e), s')
    | .hang =>
      match s'.wait timeout.toNanos with
      | (true, s') => (.error (.failed .interrupted), s')
      | (false, s') => (.error (.timeout timeout), s')
    | .raiseThenFail e => (.error (.failed e), { s' with callerRaised := true })
    | .raiseThenSucceed => (.ok (), { s' with callerRaised := true })
    | .raiseLaterThenFail e => (.error (.failed e), s'.raiseLater)
  callerRaised s := s.callerRaised
  sleep s d :=
    if s.callerRaised then (false, s)
    else
      let (landed, s) := s.wait d.toNanos
      (!landed, s)
  uptime _ := Duration.zero

end ScriptedConnector

def answerController (req : Json) : Decode Json := do
  let timeout ← fieldOr req "connect_timeout" (Duration.ofSecs 5) readDuration
  let retries ← fieldOr req "max_reconnect_attempts" 0 readU32
  let backoff ← fieldOr req "initial_backoff" (Duration.ofMillis 1) readDuration
  let script ← readConnectScript req "script"
  let preRaised ← fieldOr req "pre_raised" false readBool
  let c : Controller := ⟨timeout, retries.toUInt32, backoff⟩
  let some (r, s) := c.connect (ScriptedConnector.connector timeout) ⟨script, 0, preRaised, none⟩
    | abortRequest
  let result := match r with
    | .ok () => .str "ok"
    | .error e => connectErrorJson e
  pure (.obj [("result", result), ("calls", .int s.calls), ("max_attempts", .int c.maxAttempts),
    ("caller_raised", .bool s.callerRaised)])

end Protocol

end DepthFeed
