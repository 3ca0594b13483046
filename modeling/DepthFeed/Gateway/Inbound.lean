import DepthFeed.Gateway.Controller
import DepthFeed.Gateway.Schedule
import DepthFeed.Gateway.Writer
import DepthFeed.Config.Basic
import DepthFeed.Agent.Runner

/-!
# The inbound gateway

`InboundGateway` owns the reader of one instrument and a connect controller.
Its duty cycle (`poll`) checks three schedules in order: `reconnect`, forced
early by a lost connection, a silent feed or a crossed book; `keepAlive`, which
queues a frame on the writer's control lane; and `sanityCheck`, which inspects
the book. The schedules wait for `start`; `shutdown` raises the gateway's
interrupt.
-/

namespace DepthFeed

/-- What the gateway needs of the reader it supervises. -/
structure Supervised (σ : Type) where
  /-- One connect attempt under a watchdog of the given timeout, the caller's
  interrupt raised or not. -/
  attempt : Duration → Bool → σ → Except AttemptError Unit × σ
  /-- Parks the worker and tears the session down. -/
  disconnect : Bool → σ → Except ReaderError Unit × σ
  /-- Receive time of the latest frame, zero before the first. -/
  lastRecvNanos : σ → UInt64
  /-- Whether the reader reported a dead connection since its last connect. -/
  connectionLost : σ → Bool
  /-- Whether the best bid is at or above the best ask. -/
  bookIsCrossed : Bool → σ → Except ReaderError Bool × σ
  /-- The clock's reading. -/
  now : σ → UInt64

/-- The outbound writer keep-alives go to, and the frame they send. -/
structure KeepAlive where
  writer : Writer
  frame : List UInt8

/-- A supervisor for one instrument's reader. -/
structure InboundGateway (σ : Type) where
  reader : σ
  controller : Controller
  config : GatewayConfig
  interrupted : Bool
  keepAlive : Option KeepAlive
  connectedAt : Option UInt64
  reconnect : Schedule
  keepAliveSchedule : Schedule
  sanityCheck : Schedule

/-- The gateway's computations: they fail with a gateway error, keeping every
change made before the failure, or abort the process (`none`), which ends
everything. -/
abbrev GatewayM (σ : Type) := ExceptT GatewayError (OptionT (StateM (InboundGateway σ)))

namespace InboundGateway

variable {σ : Type}

def new (reader : σ) (config : GatewayConfig) : InboundGateway σ where
  reader := reader
  controller := Controller.ofConfig config
  config := config
  interrupted := false
  keepAlive := none
  connectedAt := none
  reconnect := Schedule.new "reconnect" config.reconnectInterval
  keepAliveSchedule := Schedule.new "keep_alive" config.keepAliveInterval
  sanityCheck := Schedule.new "sanity_check" config.sanityCheckInterval

/-- Sends `frame` on `writer`'s control lane at every keep-alive. -/
def withKeepAlive (g : InboundGateway σ) (writer : Writer) (frame : List UInt8) : InboundGateway σ :=
  { g with keepAlive := some ⟨writer, frame⟩ }

/-- Whether the gateway is between a successful connect and the next disconnect. -/
def isConnected (g : InboundGateway σ) : Bool := g.connectedAt.isSome

def forceReconnect (g : InboundGateway σ) : InboundGateway σ := { g with reconnect := g.reconnect.trigger }

def forceKeepAlive (g : InboundGateway σ) : InboundGateway σ :=
  { g with keepAliveSchedule := g.keepAliveSchedule.trigger }

def shutdown (g : InboundGateway σ) : InboundGateway σ := { g with interrupted := true }

/-- The reader as the controller's connector, under the gateway's interrupt as
it stands when the connect begins. A shutdown raised by another thread while
the connect runs is not modelled: every operation on the gateway here runs to
its end before the next one begins. No time passes in a backoff, and the
clock reads zero. -/
def connector (k : Supervised σ) (g : InboundGateway σ) : Connector σ where
  attempt s := k.attempt g.controller.connectTimeout g.interrupted s
  callerRaised _ := g.interrupted
  sleep s _ := (!g.interrupted, s)
  uptime _ := Duration.zero

def abort {α : Type} : GatewayM σ α := ExceptT.lift OptionT.fail

/-- Connects through the controller and notes the time; aborts on a backoff
too long to schedule. -/
def connect (k : Supervised σ) : GatewayM σ Unit := do
  let g ← get
  match g.controller.connect (connector k g) g.reader with
  | none => abort
  | some (res, reader) =>
    set { g with reader := reader }
    match res with
    | .error e => throw (.connect e)
    | .ok () => modify fun g => { g with connectedAt := some (k.now g.reader) }

def start (k : Supervised σ) : GatewayM σ Unit := do
  connect k
  modify fun g =>
    let now := k.now g.reader
    { g with
      reconnect := g.reconnect.start now
      keepAliveSchedule := g.keepAliveSchedule.start now
      sanityCheck := g.sanityCheck.start now }

/-- Forces a reconnect when connected and the connection is lost or the feed
has been silent too long. -/
def checkLiveness (k : Supervised σ) (g : InboundGateway σ) : InboundGateway σ :=
  match g.connectedAt with
  | none => g
  | some since =>
    if k.connectionLost g.reader then g.forceReconnect
    else
      let last := max (k.lastRecvNanos g.reader).toNat since.toNat
      let silent := (k.now g.reader).toNat - last
      if g.config.maxSilentInterval.toNanos < silent then g.forceReconnect else g

/-- Disconnects, then connects. Only an interrupted disconnect stops it. -/
def reconnectNow (k : Supervised σ) : GatewayM σ Unit := do
  let g ← get
  let (res, reader) := k.disconnect g.interrupted g.reader
  set { g with reader := reader, connectedAt := none }
  match res with
  | .error .interrupted => throw (.reader .interrupted)
  | _ => connect k

/-- Queues the keep-alive frame, when a writer is configured. -/
def sendKeepAlive : GatewayM σ Unit := do
  let g ← get
  match g.keepAlive with
  | none => pure ()
  | some ka =>
    match ka.writer.enqueue .control ka.frame with
    | .error e => throw (.writer e)
    | .ok w => set { g with keepAlive := some { ka with writer := w } }

/-- Inspects the book and forces a reconnect when it is crossed; skipped while
disconnected or with the connection lost. -/
def runSanityCheck (k : Supervised σ) : GatewayM σ Unit := do
  let g ← get
  if g.connectedAt.isNone || k.connectionLost g.reader then return
  let (res, reader) := k.bookIsCrossed g.interrupted g.reader
  set { g with reader := reader }
  match res with
  | .error e => throw (.reader e)
  | .ok crossed => if crossed then modify forceReconnect

def reconnectDue (k : Supervised σ) : GatewayM σ Bool :=
  modifyGet fun g => let (due, s) := g.reconnect.check (k.now g.reader); (due, { g with reconnect := s })

def keepAliveDue (k : Supervised σ) : GatewayM σ Bool :=
  modifyGet fun g =>
    let (due, s) := g.keepAliveSchedule.check (k.now g.reader)
    (due, { g with keepAliveSchedule := s })

def sanityCheckDue (k : Supervised σ) : GatewayM σ Bool :=
  modifyGet fun g => let (due, s) := g.sanityCheck.check (k.now g.reader); (due, { g with sanityCheck := s })

def poll (k : Supervised σ) : GatewayM σ Nat := do
  modify (checkLiveness k)
  let reconnecting ← reconnectDue k
  if reconnecting then reconnectNow k
  let keepingAlive ← keepAliveDue k
  if keepingAlive then sendKeepAlive
  let checking ← sanityCheckDue k
  if checking then runSanityCheck k
  pure ([reconnecting, keepingAlive, checking].count true)

/-- Disconnects under a fresh interrupt, ignoring a failure. -/
def close (k : Supervised σ) (g : InboundGateway σ) : InboundGateway σ :=
  let (_, reader) := k.disconnect false g.reader
  { g with reader := reader, connectedAt := none }

/-- Runs a gateway computation: its result, `none` when it aborted. -/
def run {α : Type} (m : GatewayM σ α) (g : InboundGateway σ) :
    Option (Except GatewayError α) × InboundGateway σ :=
  StateT.run (OptionT.run (ExceptT.run m)) g

/-- The gateway as an agent: it starts by connecting, each cycle is a poll,
closing disconnects, and only the errors `GatewayError.isFatal` names stop it. -/
def agent (k : Supervised σ) : Agent (InboundGateway σ) GatewayError where
  roleName := "market-inbound-gateway"
  onStart g :=
    match (start k).run g with
    | (some (.ok ()), g) => (.ok, g)
    | (some (.error e), g) => (.failed e, g)
    | (none, g) => (.aborted Controller.deadlineOverflow, g)
  doWork g :=
    match (poll k).run g with
    | (some (.ok n), g) => (.done n, g)
    | (some (.error e), g) => (.failed e, g)
    | (none, g) => (.aborted Controller.deadlineOverflow, g)
  onClose g := close k g
  isFatal e := e.isFatal

end InboundGateway

end DepthFeed
