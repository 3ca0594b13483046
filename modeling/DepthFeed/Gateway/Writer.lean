import DepthFeed.Gateway.Error
import DepthFeed.Agent.Runner

/-!
# Outbound writer

Frames wait on two bounded lanes, data and control; an overlong frame or one
for a full lane is refused. A duty cycle writes every control frame, then
every data frame, in arrival order; the first failed write drops that frame,
ends the cycle and is reported instead of the count. As an agent the writer
never stops on its own.
-/

namespace DepthFeed

/-- The two lanes of queued frames and their limits. -/
structure Writer where
  laneCapacity : Nat
  maxFrameLen : Nat
  data : List (List UInt8)
  control : List (List UInt8)
  deriving DecidableEq

namespace Writer

def defaultLaneCapacity : Nat := 128

def defaultMaxFrameLen : Nat := 1024

def new (laneCapacity maxFrameLen : Nat) : Writer := ⟨max 1 laneCapacity, maxFrameLen, [], []⟩

def lane (w : Writer) : Lane → List (List UInt8)
  | .data => w.data
  | .control => w.control

def enqueue (w : Writer) (l : Lane) (frame : List UInt8) : Except WriterError Writer :=
  if w.maxFrameLen < frame.length then .error (.frameTooLarge frame.length w.maxFrameLen)
  else if w.laneCapacity ≤ (w.lane l).length then .error (.queueFull l)
  else match l with
    | .data => .ok { w with data := w.data ++ [frame] }
    | .control => .ok { w with control := w.control ++ [frame] }

theorem lane_enqueue {w w' : Writer} {l : Lane} {frame : List UInt8} (h : w.enqueue l frame = .ok w') :
    w'.lane l = w.lane l ++ [frame] ∧ w'.laneCapacity = w.laneCapacity ∧ w'.maxFrameLen = w.maxFrameLen := by
  unfold enqueue at h
  split at h
  · cases h
  · split at h
    · cases h
    · cases l <;> cases h <;> simp [lane]

theorem enqueue_of_maxFrameLen_lt (w : Writer) (l : Lane) (frame : List UInt8)
    (h : w.maxFrameLen < frame.length) :
    w.enqueue l frame = .error (.frameTooLarge frame.length w.maxFrameLen) := by
  simp [enqueue, h]

def hasPending (w : Writer) : Bool := !w.data.isEmpty || !w.control.isEmpty

/-- Writes frames in order through `write` (the failure text of a refused
write, and the sink after) until one fails: the frames written, the failure
if any, the frames left, and the sink after. -/
def writeAll {σ : Type} (write : σ → List UInt8 → Option String × σ) :
    List (List UInt8) → σ → Nat × Option String × List (List UInt8) × σ
  | [], s => (0, none, [], s)
  | f :: fs, s =>
    match write s f with
    | (some m, s) => (0, some m, fs, s)
    | (none, s) =>
      let (n, failure, rest, s) := writeAll write fs s
      (n + 1, failure, rest, s)

/-- One duty cycle: control frames first, then data frames. -/
def doWork {σ : Type} (write : σ → List UInt8 → Option String × σ) (w : Writer) (sink : σ) :
    Except WriterError Nat × Writer × σ :=
  let (nc, failure, restControl, sink) := writeAll write w.control sink
  match failure with
  | some m => (.error (.io m), { w with control := restControl }, sink)
  | none =>
    let (nd, failure, restData, sink) := writeAll write w.data sink
    let w := { w with control := [], data := restData }
    match failure with
    | some m => (.error (.io m), w, sink)
    | none => (.ok (nc + nd), w, sink)

/-- The writer with its sink as an agent; no error is fatal. -/
def agent {σ : Type} (write : σ → List UInt8 → Option String × σ) : Agent (Writer × σ) WriterError where
  roleName := "socket-writer"
  onStart ws := (.ok, ws)
  doWork ws :=
    match ws.1.doWork write ws.2 with
    | (.ok n, w, s) => (.done n, (w, s))
    | (.error e, w, s) => (.failed e, (w, s))
  onClose ws := ws
  isFatal _ := false

end Writer

/-- A sink that records the frames written to it and refuses the calls whose
numbers (from zero, refused calls counted) are listed. -/
structure RecordingSink where
  calls : Nat
  refused : List Nat
  written : List (List UInt8)
  deriving DecidableEq

namespace RecordingSink

def new (refused : List Nat) : RecordingSink := ⟨0, refused, []⟩

/-- One write call: the failure text if refused, and the sink after. -/
def write (s : RecordingSink) (frame : List UInt8) : Option String × RecordingSink :=
  if s.refused.contains s.calls then
    (some ("write " ++ toString s.calls ++ " refused"), { s with calls := s.calls + 1 })
  else (none, { s with calls := s.calls + 1, written := s.written ++ [frame] })

end RecordingSink

end DepthFeed
