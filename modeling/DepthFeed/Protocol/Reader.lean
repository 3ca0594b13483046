import DepthFeed.Protocol.Books
import DepthFeed.Protocol.Errors
import DepthFeed.Protocol.Steps
import DepthFeed.Reader.Control

/-!
# Requests on the feed reader

The `reader` request builds a reader over a scripted feed and a book of the
requested kind, and applies operations to it. The worker's duty cycles are
called by the request itself: `pump` and `work` call them directly, and the
supervisor operations (`connect`, `controller_connect`, `disconnect`,
`inspect`) first pump, then run with the worker taking turns whenever they
wait. Their steps report both: `pumped` and `worker`, the latter left out
when the operation ran with its interrupt already raised.
-/

namespace DepthFeed

namespace Protocol

def statsJson (s : ReaderStats) : Json :=
  .obj [("published", .int s.published.toNat), ("buffered", .int s.buffered.toNat),
    ("replayed", .int s.replayed.toNat), ("discarded", .int s.discarded.toNat),
    ("overflows", .int s.overflows.toNat), ("connects", .int s.connects.toNat)]

def workJson : Except ReaderError Nat → Json
  | .ok n => .int n
  | .error e => readerErrorJson e

/-- One frame holding the records of a list, encoded back to back. -/
def readFrame (j : Json) : Decode (List UInt8) := do
  let records ← (← readArray j).mapM readRecord
  pure (records.flatMap MarketRecord.encode)

def feedJson (f : ScriptedFeed) : Json :=
  .obj [("attached", .bool f.attached), ("pending", .int f.frames.length),
    ("attaches", .int f.attaches), ("detaches", .int f.detaches)]

/-- Whether a supervisor operation runs with its interrupt already raised. -/
def readRaised (j : Json) : Decode Bool := fieldOr j "interrupted" false readBool

section

variable {β : Type} [BookRequest β]

def defaultSnapshotFailure : String := "snapshot endpoint unavailable"

/-- The snapshot plan a mode names, if it names one: its failure text and its
book are read only when the plan has them. -/
def snapshotPlanOf (mode : String) (failure : Decode String) (book : Decode (Option β)) :
    Option (Decode (SnapshotPlan β)) :=
  match mode with
  | "after_drain" => some (return .afterDrain (← book))
  | "fail" => some (return .fail (← failure))
  | "drop_during" => some (return .dropDuring (← book))
  | _ => none

/-- Reads the snapshot plan of a connect: `mode` (after the drain when missing)
must name a plan, a failing plan takes its text from `message`. -/
def readSnapshotPlan (j : Json) : Decode (SnapshotPlan β) := do
  let mode ← fieldOr j "mode" "after_drain" readString
  match snapshotPlanOf mode (fieldOr j "message" defaultSnapshotFailure readString)
      (fieldOpt j "snapshot" (buildBook specFuel)) with
  | some plan => plan
  | none => refuse ("unknown snapshot mode " ++ mode)

def inspectionJson (b : β) : Json :=
  .obj [("book", BookRequest.stateJson b), ("best_bid", optLevelJson (Book.bestBid b)),
    ("best_ask", optLevelJson (Book.bestAsk b)), ("is_crossed", .bool (Book.isCrossed b))]

/-- Pumps, then runs a supervisor operation; the step's fields. -/
def superviseStep (s : Session β) (raised : Bool) (body : Session β → Decode (Json × Session β)) :
    Decode (List (String × Json) × Session β) := do
  let (pumped, s) := s.pump
  let (result, s) ← body { s with driven := !raised, log := [] }
  let worker := if raised then [] else [("worker", Json.arr (s.log.map workJson))]
  pure (("result", result) :: ("pumped", .arr (pumped.map workJson)) :: worker,
    { s with driven := true, log := [] })

/-- Runs a supervisor computation, showing its value or its failure. -/
def supervisorJson {α : Type} (m : Supervisor β α) (render : α → Json) (s : Session β) : Json × Session β :=
  match Supervisor.run m s with
  | (.ok a, s) => (render a, s)
  | (.error e, s) => (readerErrorJson e, s)

def readerStep (s : Session β) (op : Op) : Decode (List (String × Json) × Session β) := do
  let plain (result : Json) (s : Session β) : Decode (List (String × Json) × Session β) :=
    pure ([("result", result)], s)
  match op.name with
  | "push" => do
    let frame ← readFrame op.arg
    plain .null (s.withFeed fun f => f.push frame)
  | "push_raw" => do
    let frame ← readBytes op.arg
    plain .null (s.withFeed fun f => f.push frame)
  | "pump" =>
    let (rs, s) := s.pump
    plain (.arr (rs.map workJson)) s
  | "work" => do
    let n ← readLimited "work" op.arg
    if !s.reader.workerAlive then plain (.str "no worker") s else
    let (rs, s) := Session.work n s
    plain (.arr (rs.map workJson)) s
  | "connect" => do
    let raised ← readRaised op.arg
    let plan ← readSnapshotPlan op.arg
    superviseStep { s with snapshots := plan } raised fun s =>
      pure (supervisorJson (Supervisor.connect raised) (fun () => .str "ok") s)
  | "controller_connect" => do
    let raised ← readRaised op.arg
    let plan ← readSnapshotPlan op.arg
    let timeout ← fieldOr op.arg "connect_timeout" (Duration.ofSecs 5) readDuration
    let retries ← fieldOr op.arg "max_reconnect_attempts" 0 readU32
    let backoff ← fieldOr op.arg "initial_backoff" (Duration.ofMillis 1) readDuration
    let c : Controller := ⟨timeout, retries.toUInt32, backoff⟩
    superviseStep { s with snapshots := plan } raised fun s =>
      match c.connect (Session.connector raised) s with
      | some (.ok (), s) => pure (.str "ok", s)
      | some (.error e, s) => pure (connectErrorJson e, s)
      | none => abortRequest
  | "disconnect" => do
    let raised ← readRaised op.arg
    superviseStep s raised fun s =>
      pure (supervisorJson (Supervisor.disconnect raised) (fun () => .str "ok") s)
  | "inspect" => do
    let raised ← readRaised op.arg
    superviseStep s raised fun s => pure (supervisorJson (Supervisor.inspect raised id) inspectionJson s)
  | "stats" => plain (statsJson s.reader.stats) s
  | "worker_stats" =>
    plain (if s.reader.workerAlive then statsJson s.reader.stats else .str "no worker") s
  | "state" => plain (.str s.reader.state.name) s
  | "last_recv_nanos" => plain (u64Json s.reader.lastRecvNanos) s
  | "connection_lost" => plain (.bool s.reader.connectionLost) s
  | "replay_capacity" => plain (.int s.reader.replay.capacity) s
  | "set_clock" => do
    let t ← readU64 op.arg
    plain .null (s.withReader fun r => { r with clock := r.clock.set t.toUInt64 })
  | "advance_clock" => do
    let d ← readDuration op.arg
    plain .null (s.withReader fun r => { r with clock := r.clock.advance d })
  | "drop_connection" => plain .null (s.withFeed fun f => { f with dropPending := true })
  | "read_error" => do
    let m ← readString op.arg
    plain .null (s.withFeed fun f => { f with readError := some m })
  | "fail_attaches" => do
    let n ← readLimited "fail_attaches" op.arg
    plain .null (s.withFeed fun f => { f with failAttaches := n })
  | "fail_detach" =>
    let m := match op.arg with
      | .str m => some m
      | _ => none
    plain .null (s.withFeed fun f => { f with failDetach := m })
  | "stall" => do
    let b ← readBool op.arg
    plain .null (s.withFeed fun f => { f with stall := b })
  | "collect" =>
    let (records, r) := s.reader.collect
    plain (.arr (records.map recordJson)) { s with reader := r }
  | "close_channel" => plain .null (s.withReader (·.closeChannel))
  | "drop_worker" => plain .null (s.withReader (·.dropWorker))
  | "feed" => plain (feedJson s.reader.feed) s
  | _ => unknownOp "reader" op

def answerReaderWith (β : Type) [BookRequest β] (req : Json) : Decode Json := do
  let book : β ← buildBook specFuel ((req.field? "initial").getD (.obj []))
  let capacity ← fieldOr req "replay_capacity" ReplayQueue.defaultCapacity (readLimited "replay_capacity")
  let start ← fieldOr req "clock" 1000 readU64
  let ops ← readOps req
  let reader := Reader.new ScriptedFeed.new book capacity ⟨start.toUInt64⟩
  let (steps, _) ← runFieldSteps readerStep (fun s => [("state", .str s.reader.state.name)]) ops
    (Session.new reader .direct (.afterDrain none))
  pure (.obj [("steps", .arr steps)])

end

def answerReader (req : Json) : Decode Json := do
  match (← fieldOr req "book" "incremental" readString) with
  | "incremental" => answerReaderWith IncrementalBook req
  | "snapshot" => answerReaderWith SnapshotBook req
  | other => refuse ("unknown book " ++ other)

end Protocol

end DepthFeed
