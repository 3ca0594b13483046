import DepthFeed.Protocol.Gateway
import DepthFeed.Agent.Runner

/-!
# Requests on agent runners

`agent` runs a scripted agent: each cycle takes the next scripted outcome
(work, a failure, an abort) and idles once the script is done. The request's
mode says when the run is stopped. `gateway_agent` runs the inbound gateway
over a scripted reader as an agent, until it fails fatally or right after it
started.
-/

namespace DepthFeed

namespace Protocol

/-- One scripted cycle. -/
inductive ScriptedCycle where
  | work (n : Nat)
  | fail (message : String)
  | abort (message : String)

/-- A scripted agent's state: the cycles left, and whether it started and closed. -/
structure ScriptedAgent where
  script : List ScriptedCycle
  started : Bool
  closed : Bool

/-- A scripted agent. The full one notes its start and close, can fail to
start, and takes failures starting with `fatal` as fatal; the minimal one
keeps the defaults: nothing noted and every failure fatal. -/
def scriptedAgent (minimal : Bool) (startError : Option String) : Agent ScriptedAgent String where
  roleName := if minimal then "minimal" else "scripted"
  onStart s :=
    if minimal then (.ok, s) else
    let s := { s with started := true }
    match startError with
    | some m => (.failed m, s)
    | none => (.ok, s)
  doWork s :=
    match s.script with
    | [] => (.done 0, s)
    | c :: rest =>
      let s := { s with script := rest }
      match c with
      | .work n => (.done n, s)
      | .fail m => (.failed m, s)
      | .abort m => (.aborted m, s)
  onClose s := if minimal then s else { s with closed := true }
  isFatal m := minimal || m.startsWith "fatal"

/-- The text a script step carries: a string itself, anything else empty. -/
def stepText : Json → String
  | .str s => s
  | _ => ""

/-- Reads a scripted cycle; a step that is not one of the known kinds, or
whose count is not one, does no work. -/
def readScriptedCycle (j : Json) : ScriptedCycle :=
  match readOp j with
  | .ok ⟨"ok", n⟩ => .work ((readU64 n).toOption.getD 0)
  | .ok ⟨"err", m⟩ => .fail (stepText m)
  | .ok ⟨"panic", m⟩ => .abort (stepText m)
  | _ => .work 0

def exitJson : Option (Exit String) → Json
  | some (.failed m) => .obj [("error", .str m)]
  | some (.aborted m) => .obj [("panic", .str m)]
  | _ => .str "ok"

def answerAgent (req : Json) : Decode Json := do
  let script ← fieldOr req "script" [] fun v => return (← readArray v).map readScriptedCycle
  let minimal ← fieldOr req "minimal" false readBool
  let startError ← fieldOpt req "start_error" readString
  let mode ← fieldOr req "mode" "until_finished" readString
  let a := scriptedAgent minimal startError
  let running := a.cycles (script.length + 1) (a.begin ⟨script, false, false⟩)
  let joined := a.stop running
  let consumed := decide (script.length < running.calls)
  let common := [("name", Json.str a.roleName), ("started", .bool joined.state.started),
    ("closed", .bool joined.state.closed)]
  match mode with
  | "until_finished" =>
    pure (.obj (common ++ [("finished", .bool running.finished), ("result", exitJson joined.exit),
      ("calls", .int running.calls)]))
  | "join_when_consumed" =>
    pure (.obj (common ++ [("consumed", .bool consumed), ("result", exitJson joined.exit)]))
  | "stop_when_consumed" =>
    pure (.obj (common ++ [("consumed", .bool consumed), ("result", exitJson joined.exit),
      ("finished", .bool true)]))
  | "drop_when_consumed" =>
    pure (.obj (common ++ [("consumed", .bool consumed), ("result", .bool joined.state.closed)]))
  | other => refuse ("unknown agent mode " ++ other)

/-- Polls a gateway agent may take before the wait for its end gives up. -/
def gatewayAgentPolls : Nat := 1000

def answerGatewayAgent (req : Json) : Decode Json := do
  match (← readScriptedGateway req) with
  | .error e => pure (configErrorJson e)
  | .ok rig =>
    let g := rig.gateway
    let a := InboundGateway.agent ScriptedReader.supervised
    let started := a.begin g
    let (waited, running) ← match (← fieldOr req "mode" "until_finished" readString) with
      | "until_finished" =>
        let r := a.cycles gatewayAgentPolls started
        pure (r.finished, r)
      | "stop_after_start" => pure (!started.finished, started)
      | other => refuse ("unknown gateway_agent mode " ++ other)
    let joined := a.stop running
    let s := joined.state.reader
    let result ← match joined.exit with
      | some (.failed e) => pure (gatewayErrorJson e)
      | some (.aborted _) => abortRequest
      | _ => pure (.str "ok")
    pure (.obj [("name", .str a.roleName), ("waited", .bool waited), ("result", result),
      ("connects", .int s.connects), ("connect_calls", .int s.connectCalls),
      ("disconnects", .int s.disconnects), ("inspections", .int s.inspections),
      ("keep_alive_frames_queued", .bool rig.sink.isSome)])

end Protocol

end DepthFeed
