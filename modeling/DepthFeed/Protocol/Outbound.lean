import DepthFeed.Protocol.Errors
import DepthFeed.Protocol.Steps
import DepthFeed.Gateway.Writer
import DepthFeed.Gateway.Replay

/-!
# Requests on the outbound writer and the replay queue

`writer` queues frames and runs duty cycles against a recording sink;
`writer_agent` queues everything and lets the writer run until every
accepted frame reached the sink; `replay_queue` pushes and drains records.
-/

namespace DepthFeed

namespace Protocol

/-- A writer with the sink it writes to. -/
structure WriterRig where
  writer : Writer
  sink : RecordingSink

/-- Reads the writer limits and refused writes of a request. -/
def readWriterRig (req : Json) : Decode WriterRig := do
  let cap ← fieldOr req "lane_capacity" Writer.defaultLaneCapacity (readLimited "lane_capacity")
  let maxLen ← fieldOr req "max_frame_len" Writer.defaultMaxFrameLen readU64
  let refused ← fieldOr req "fail_writes" [] fun v => do (← readArray v).mapM readU64
  pure ⟨Writer.new cap maxLen, RecordingSink.new refused⟩

def writtenJson (s : RecordingSink) : Json := .arr (s.written.map fun f => .str (hexOfBytes f))

def enqueueJson : Except WriterError Writer → Json
  | .ok _ => .str "ok"
  | .error e => writerErrorJson e

def WriterRig.doWork (r : WriterRig) : Except WriterError Nat × WriterRig :=
  let (res, w, s) := r.writer.doWork RecordingSink.write r.sink
  (res, ⟨w, s⟩)

def writerStep (r : WriterRig) (op : Op) : Decode (Json × WriterRig) :=
  match op.name with
  | "enqueue" | "enqueue_control" => do
    let lane := if op.name = "enqueue" then Lane.data else Lane.control
    let res := r.writer.enqueue lane (← readBytes op.arg)
    pure (enqueueJson res, { r with writer := (res.toOption.getD r.writer) })
  | "has_pending" => pure (.bool r.writer.hasPending, r)
  | "do_work" =>
    let (res, r) := r.doWork
    pure (match res with | .ok n => .int n | .error e => writerErrorJson e, r)
  | "role_name" => pure (.str (Writer.agent RecordingSink.write).roleName, r)
  | _ => unknownOp "writer" op

def answerWriter (req : Json) : Decode Json := do
  let rig ← readWriterRig req
  let ops ← readOps req
  let (steps, _) ← runSteps writerStep (fun r => [("written", writtenJson r.sink)]) ops rig
  pure (.obj [("steps", .arr steps)])

/-- The `writer_agent` request. The agent runs one cycle more than there are
frames: a cycle with frames queued writes at least one or drops it, so the
lanes are empty by then, and cycles on empty lanes change nothing. -/
def answerWriterAgent (req : Json) : Decode Json := do
  let rig ← readWriterRig req
  let data ← fieldOr req "data" [] fun v => do (← readArray v).mapM readBytes
  let control ← fieldOr req "control" [] fun v => do (← readArray v).mapM readBytes
  let frames := data.map (Lane.data, ·) ++ control.map (Lane.control, ·)
  let (queued, writer) := frames.foldl (fun (acc : List Json × Writer) (lane, f) =>
    let res := acc.2.enqueue lane f
    (acc.1 ++ [enqueueJson res], res.toOption.getD acc.2)) ([], rig.writer)
  let a := Writer.agent RecordingSink.write
  let run := a.stop (a.cycles (frames.length + 1) (a.begin (writer, rig.sink)))
  let result := match run.exit with
    | some (.failed e) => writerErrorJson e
    | _ => .str "ok"
  pure (.obj [("name", .str a.roleName), ("queued", .arr queued), ("done", .bool true),
    ("result", result), ("written", writtenJson run.state.2),
    ("has_pending", .bool run.state.1.hasPending)])

def replayStep (q : ReplayQueue) (op : Op) : Decode (Json × ReplayQueue) :=
  match op.name with
  | "push" => do
    let r : MarketRecord ← match op.arg with
      | .obj _ => readRecord op.arg
      | other => do
        let seq ← readU64 other
        pure { MarketRecord.new with sequence := seq.toUInt64 }
    match q.push r with
    | some q => pure (.str "ok", q)
    | none => pure (.str "ReplayFull", q)
  | "drain" =>
    pure (.obj [("drained", .int q.len), ("sequences", .arr (q.records.map fun r => u64Json r.sequence))],
      q.clear)
  | "clear" => pure (.null, q.clear)
  | "len" => pure (.int q.len, q)
  | "is_empty" => pure (.bool q.isEmpty, q)
  | "capacity" => pure (.int q.capacity, q)
  | _ => unknownOp "replay_queue" op

def answerReplayQueue (req : Json) : Decode Json := do
  let cap ← fieldOr req "capacity" 0 (readLimited "capacity")
  let ops ← readOps req
  let (steps, _) ← runSteps replayStep (fun q => [("len", .int q.len)]) ops (ReplayQueue.new cap)
  pure (.obj [("steps", .arr steps)])

end Protocol

end DepthFeed
