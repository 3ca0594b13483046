import DepthFeed.Protocol.Reader
import DepthFeed.Protocol.Gateway
import DepthFeed.Reader.Supervised

/-!
# Requests on the whole pipeline

The `pipeline` request runs the reader's worker under an agent runner and
supervises it with the inbound gateway, both sharing one clock. After every
operation the worker is let come to rest (`Session.settle`): it runs until it
has finished, is parked, or has drained the feed, so no answer depends on
how the two threads happened to interleave.

The request's replay capacity is not looked at: the pipeline's reader
always holds back up to the default 2048 records.
-/

namespace DepthFeed

namespace Protocol

/-- The gateway over the shared reader, its keep-alive sink, the records
taken off the channel and not yet collected, and whether the worker's runner
has been joined. -/
structure Pipeline where
  rig : GatewayRig (Session IncrementalBook)
  buffer : List MarketRecord
  joined : Bool

def readerExitJson : Option (Except ReaderError Unit) → Json
  | some (.error e) => readerErrorJson e
  | _ => .str "ok"

/-- The pipeline with the worker at rest and the channel emptied into the buffer. -/
def Pipeline.settle (p : Pipeline) : Pipeline :=
  let g := p.rig.gateway
  let s := g.reader.settle
  let (records, r) := s.reader.collect
  { p with
    rig := { p.rig with gateway := { g with reader := { s with reader := r } } }
    buffer := p.buffer ++ records }

/-- Reads the snapshot plan of the `snapshot` operation: a failing plan always
has the default text, and a mode that names no plan returns the book after the
drain. -/
def readPipelinePlan (j : Json) : Decode (SnapshotPlan IncrementalBook) := do
  let mode ← fieldOr j "mode" "after_drain" readString
  let book := fieldOpt j "book" (buildBook specFuel)
  (snapshotPlanOf mode (pure defaultSnapshotFailure) book).getD (return .afterDrain (← book))

/-- One operation of the `pipeline` request, before settling. -/
def pipelineStep (p : Pipeline) (op : Op) : Decode (Json × Pipeline) := do
  let k : Supervised (Session IncrementalBook) := Session.supervised
  let g := p.rig.gateway
  let s := g.reader
  let onGateway (g : InboundGateway (Session IncrementalBook)) : Pipeline :=
    { p with rig := { p.rig with gateway := g } }
  let onSession (s : Session IncrementalBook) : Pipeline := onGateway { g with reader := s }
  match op.name with
  | "push" => do
    let frame ← readFrame op.arg
    pure (.null, onSession (s.withFeed fun f => f.push frame))
  | "push_raw" => do
    let frame ← readBytes op.arg
    pure (.null, onSession (s.withFeed fun f => f.push frame))
  | "start" =>
    let (res, g) := (InboundGateway.start k).run g
    return (← gatewayAnswer (fun () => .str "ok") res, onGateway g)
  | "poll" =>
    let (res, g) := (InboundGateway.poll k).run g
    return (← gatewayAnswer (fun (n : Nat) => .int n) res, onGateway g)
  | "close" => pure (.null, onGateway (g.close k))
  | "force_reconnect" => pure (.null, onGateway g.forceReconnect)
  | "force_keep_alive" => pure (.null, onGateway g.forceKeepAlive)
  | "shutdown" => pure (.null, onGateway g.shutdown)
  | "advance" => do
    let d ← readDuration op.arg
    pure (.null, onSession (s.withReader fun r => { r with clock := r.clock.advance d }))
  | "set_clock" => do
    let t ← readU64 op.arg
    pure (.null, onSession (s.withReader fun r => { r with clock := r.clock.set t.toUInt64 }))
  | "snapshot" => do
    let plan ← readPipelinePlan op.arg
    pure (.null, onSession { s with snapshots := plan })
  | "drop_connection" => pure (.null, onSession (s.withFeed fun f => { f with dropPending := true }))
  | "read_error" => do
    let m ← readString op.arg
    pure (.null, onSession (s.withFeed fun f => { f with readError := some m }))
  | "fail_attaches" => do
    let n ← readLimited "fail_attaches" op.arg
    pure (.null, onSession (s.withFeed fun f => { f with failAttaches := n }))
  | "close_channel" => pure (.null, onSession (s.withReader (·.closeChannel)))
  | "collect" => pure (.arr (p.buffer.map recordJson), { p with buffer := [] })
  | "stats" => pure (statsJson s.reader.stats, p)
  | "connection_lost" => pure (.bool s.reader.connectionLost, p)
  | "last_recv_nanos" => pure (u64Json s.reader.lastRecvNanos, p)
  | "replay_capacity" => pure (.int s.reader.replay.capacity, p)
  | "feed" => pure (feedJson s.reader.feed, p)
  | "drain_writer" =>
    let (result, rig) := p.rig.drainWriter
    pure (result, { p with rig := rig })
  | "stop_reader" =>
    if p.joined then pure (.str "stopped", p) else
    let s := s.stopWorker
    pure (readerExitJson s.exit, { onSession s with joined := true })
  | _ => unknownOp "pipeline" op

def answerPipeline (req : Json) : Decode Json := do
  let start ← fieldOr req "clock" 1700000000000000000 readU64
  let plan : SnapshotPlan IncrementalBook ← match (← fieldOr req "snapshots" "drain" readString) with
    | "drain" => pure (.afterDrain none)
    | "none" => pure .none
    | other => refuse ("unknown snapshots " ++ other)
  let _ ← fieldOpt req "channel_capacity" (readLimited "channel_capacity")
  let book : IncrementalBook ← buildBook specFuel ((req.field? "initial").getD (.obj []))
  match (← readConfig req "config") with
  | .error e => pure (configErrorJson e)
  | .ok c =>
    let keepAlive ← readKeepAlive req
    let ops ← readOps req
    let reader := Reader.new ScriptedFeed.new book ReplayQueue.defaultCapacity ⟨start.toUInt64⟩
    let g := InboundGateway.new (Session.new reader .runner plan) c
    let rig : GatewayRig (Session IncrementalBook) := match keepAlive with
      | none => ⟨g, none⟩
      | some (w, frame) => ⟨g.withKeepAlive w.writer frame, some w.sink⟩
    let (steps, final) ← runSteps (fun p op => do let (r, p) ← pipelineStep p op; pure (r, p.settle))
      (fun p => [("connected", .bool p.rig.gateway.isConnected),
        ("published", .int p.rig.gateway.reader.reader.stats.published.toNat)]) ops ⟨rig, [], false⟩
    let s := final.rig.gateway.reader
    let exit := if final.joined then .str "stopped" else readerExitJson s.stopWorker.exit
    pure (.obj [("reader_name", .str (Reader.agent : Agent (Reader IncrementalBook) ReaderError).roleName), ("steps", .arr steps),
      ("reader_exit", exit), ("uncollected", .int final.buffer.length)])

end Protocol

end DepthFeed
