import DepthFeed.Protocol.Config
import DepthFeed.Protocol.Errors
import DepthFeed.Protocol.Steps
import DepthFeed.Protocol.Outbound
import DepthFeed.Gateway.Inbound
import DepthFeed.Time.Clock

/-!
# Requests on the inbound gateway

The `gateway` request supervises a scripted reader: its connects follow a
script, and its disconnect failure, lost flag, crossed book and receive time
are set by operations. Each step shows the gateway's connection and the
reader's counts.
-/

namespace DepthFeed

namespace Protocol

/-- What a scripted reader does on one connect. -/
inductive ReaderConnect where
  | succeed
  | fail (e : ReaderError)
  | hang

/-- A reader whose behaviour is set by its owner, counting what it is asked. -/
structure ScriptedReader where
  script : List ReaderConnect
  connects : Nat
  connectCalls : Nat
  disconnects : Nat
  inspections : Nat
  lost : Bool
  crossed : Bool
  inspectFails : Bool
  lastRecv : UInt64
  disconnectError : Option ReaderError
  clock : ManualClock

/-- A scripted reader at clock reading `now`, with nothing set. -/
def ScriptedReader.new (script : List ReaderConnect) (now : UInt64) : ScriptedReader :=
  ⟨script, 0, 0, 0, 0, false, false, false, 0, none, ⟨now⟩⟩

/-- The scripted reader as the gateway sees it. A connect takes the next
script step (succeeding once the script is empty); a hanging connect is cut
off by the watchdog. -/
def ScriptedReader.supervised : Supervised ScriptedReader where
  attempt timeout _ r :=
    let step : ReaderConnect := r.script.head?.getD .succeed
    let r := { r with connectCalls := r.connectCalls + 1, script := r.script.drop 1 }
    match step with
    | .succeed => (.ok (), { r with connects := r.connects + 1, lost := false })
    | .fail e => (.error (.failed e), r)
    | .hang => (.error (.timeout timeout), r)
  disconnect _ r :=
    let r := { r with disconnects := r.disconnects + 1 }
    match r.disconnectError with
    | some e => (.error e, r)
    | none => (.ok (), r)
  lastRecvNanos r := r.lastRecv
  connectionLost r := r.lost
  bookIsCrossed _ r :=
    let r := { r with inspections := r.inspections + 1 }
    if r.inspectFails then (.error .interrupted, r) else (.ok r.crossed, r)
  now r := r.clock.now

/-- Reads a connect step of a scripted reader; a step that is not one of the
known kinds succeeds. -/
def readReaderConnect (j : Json) : ReaderConnect :=
  match readOp j with
  | .ok ⟨"fail", r⟩ => .fail (scriptedFailure r)
  | .ok ⟨"hang", _⟩ => .hang
  | _ => .succeed

/-- Reads a list of connect steps under `key`, empty when missing. -/
def readReaderScript (j : Json) (key : String) : Decode (List ReaderConnect) :=
  fieldOr j key [] fun v => return (← readArray v).map readReaderConnect

/-- A gateway request's keep-alive writer, its sink and its frame, if it has one. -/
def readKeepAlive (req : Json) : Decode (Option (WriterRig × List UInt8)) :=
  fieldOpt req "keep_alive" fun j => do
    let rig ← readWriterRig j
    let frame ← keyOr j "frame" "ping".toUTF8.toList readBytes
    pure (rig, frame)

/-- A gateway with the sink its keep-alive writer writes to. -/
structure GatewayRig (σ : Type) where
  gateway : InboundGateway σ
  sink : Option RecordingSink

def GatewayRig.drainWriter {σ : Type} (r : GatewayRig σ) : Json × GatewayRig σ :=
  match r.gateway.keepAlive, r.sink with
  | some ka, some sink =>
    let (res, w, sink) := ka.writer.doWork RecordingSink.write sink
    let result := match res with
      | .ok n => .int n
      | .error e => writerErrorJson e
    (.obj [("result", result), ("written", writtenJson sink)],
      ⟨{ r.gateway with keepAlive := some { ka with writer := w } }, some sink⟩)
  | _, _ => (.str "no writer", r)

def gatewayJson {α : Type} (render : α → Json) : Except GatewayError α → Json
  | .ok a => render a
  | .error e => gatewayErrorJson e

/-- The outcome of a gateway computation as an answer, the request ending
when the computation aborted. -/
def gatewayAnswer {α : Type} (render : α → Json) : Option (Except GatewayError α) → Decode Json
  | some r => pure (gatewayJson render r)
  | none => abortRequest

def gatewayStep (r : GatewayRig ScriptedReader) (op : Op) : Decode (Json × GatewayRig ScriptedReader) := do
  let k := ScriptedReader.supervised
  let g := r.gateway
  let onGateway (g : InboundGateway ScriptedReader) : GatewayRig ScriptedReader := { r with gateway := g }
  let onReader (f : ScriptedReader → ScriptedReader) : GatewayRig ScriptedReader :=
    onGateway { g with reader := f g.reader }
  match op.name with
  | "start" =>
    let (res, g) := (InboundGateway.start k).run g
    return (← gatewayAnswer (fun () => .str "ok") res, onGateway g)
  | "poll" =>
    let (res, g) := (InboundGateway.poll k).run g
    return (← gatewayAnswer (fun (n : Nat) => .int n) res, onGateway g)
  | "close" => pure (.null, onGateway (g.close k))
  | "advance" => do
    let d ← readDuration op.arg
    pure (.null, onReader fun s => { s with clock := s.clock.advance d })
  | "set_clock" => do
    let t ← readU64 op.arg
    pure (.null, onReader fun s => { s with clock := s.clock.set t.toUInt64 })
  | "set_last_recv" => do
    let t ← readU64 op.arg
    pure (.null, onReader fun s => { s with lastRecv := t.toUInt64 })
  | "set_lost" => do
    let b ← readBool op.arg
    pure (.null, onReader fun s => { s with lost := b })
  | "set_crossed" => do
    let b ← readBool op.arg
    pure (.null, onReader fun s => { s with crossed := b })
  | "set_inspect_fails" => do
    let b ← readBool op.arg
    pure (.null, onReader fun s => { s with inspectFails := b })
  | "set_disconnect" => do
    pure (.null, onReader fun s => { s with disconnectError := scriptedDisconnect op.arg })
  | "push_connect" => do
    let steps := (← readArray op.arg).map readReaderConnect
    pure (.null, onReader fun s => { s with script := s.script ++ steps })
  | "force_reconnect" | "trigger_reconnect" => pure (.null, onGateway g.forceReconnect)
  | "force_keep_alive" | "trigger_keep_alive" => pure (.null, onGateway g.forceKeepAlive)
  | "shutdown" => pure (.null, onGateway g.shutdown)
  | "config" => pure (configJson g.config, r)
  | "role_name" => pure (.str "market-inbound-gateway", r)
  | "drain_writer" => pure r.drainWriter
  | _ => unknownOp "gateway" op

def gatewayView (r : GatewayRig ScriptedReader) : List (String × Json) :=
  let s := r.gateway.reader
  [("connected", .bool r.gateway.isConnected), ("connects", .int s.connects),
    ("connect_calls", .int s.connectCalls), ("disconnects", .int s.disconnects),
    ("inspections", .int s.inspections)]

/-- Sets a scripted reader's initial values from a `fake` object. -/
def readFakeSettings (r : ScriptedReader) (j : Json) : Decode ScriptedReader := do
  let crossed ← fieldOr j "crossed" r.crossed readBool
  let lost ← fieldOr j "lost" r.lost readBool
  let inspectFails ← fieldOr j "inspect_fails" r.inspectFails readBool
  let lastRecv ← fieldOr j "last_recv" r.lastRecv.toNat readU64
  let disconnectError := match j.get? "disconnect" with
    | some e => scriptedDisconnect e
    | none => r.disconnectError
  pure { r with crossed, lost, inspectFails, lastRecv := lastRecv.toUInt64, disconnectError }

/-- Builds the scripted gateway a request describes, or the configuration error.
The configuration is read first, so its error is the answer whatever else the
request gets wrong. -/
def readScriptedGateway (req : Json) : Decode (Except ConfigError (GatewayRig ScriptedReader)) := do
  match (← readConfig req "config") with
  | .error e => pure (.error e)
  | .ok c =>
    let start ← fieldOr req "clock" 1700000000000000000 readU64
    let keepAlive ← readKeepAlive req
    let script ← readReaderScript req "connect_script"
    let fresh := ScriptedReader.new script start.toUInt64
    let reader ← fieldOr req "fake" fresh (readFakeSettings fresh)
    let g := InboundGateway.new reader c
    match keepAlive with
    | none => pure (.ok ⟨g, none⟩)
    | some (rig, frame) => pure (.ok ⟨g.withKeepAlive rig.writer frame, some rig.sink⟩)

def answerGateway (req : Json) : Decode Json := do
  match (← readScriptedGateway req) with
  | .error e => pure (configErrorJson e)
  | .ok rig =>
    let ops ← readOps req
    let (steps, _) ← runSteps gatewayStep gatewayView ops rig
    pure (.obj [("steps", .arr steps)])

end Protocol

end DepthFeed
