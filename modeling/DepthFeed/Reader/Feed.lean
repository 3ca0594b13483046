import DepthFeed.Record.Codec
import DepthFeed.Gateway.Error

/-!
# The scripted feed

An exchange transport whose frames, failures and counts its owner sets.
Frames are read first in, first out while attached; an armed drop or read
error fails the next read and detaches. A frame is a run of 544-byte records
(`nextRecord`). The reads since the last attach are counted, so a snapshot
source can wait for the worker to drain the feed.
-/

namespace DepthFeed

/-- A transport driven by a script. -/
structure ScriptedFeed where
  frames : List (List UInt8)
  attached : Bool
  dropPending : Bool
  readError : Option String
  failAttaches : Nat
  failDetach : Option String
  stall : Bool
  attaches : Nat
  detaches : Nat
  readsSinceAttach : Nat

namespace ScriptedFeed

def new : ScriptedFeed where
  frames := []
  attached := false
  dropPending := false
  readError := none
  failAttaches := 0
  failDetach := none
  stall := false
  attaches := 0
  detaches := 0
  readsSinceAttach := 0

def push (f : ScriptedFeed) (frame : List UInt8) : ScriptedFeed := { f with frames := f.frames ++ [frame] }

/-- Attaches, unless attaches are still to be refused. Every call counts. -/
def attach (f : ScriptedFeed) : Except TransportError Unit × ScriptedFeed :=
  let f := { f with attaches := f.attaches + 1 }
  match f.failAttaches with
  | n + 1 => (.error (.protocol "subscription rejected"), { f with failAttaches := n })
  | 0 => (.ok (), { f with attached := true, readsSinceAttach := 0 })

/-- Detaches, failing afterwards when a detach failure is set. Every call counts. -/
def detach (f : ScriptedFeed) : Except TransportError Unit × ScriptedFeed :=
  let f := { f with attached := false, detaches := f.detaches + 1 }
  match f.failDetach with
  | some m => (.error (.protocol m), f)
  | none => (.ok (), f)

/-- Reads the next frame: nothing while detached; an armed drop or read
error detaches and fails; otherwise the first queued frame, if any. -/
def read (f : ScriptedFeed) : Except TransportError (Option (List UInt8)) × ScriptedFeed :=
  let f := { f with readsSinceAttach := f.readsSinceAttach + 1 }
  if !f.attached then (.ok none, f)
  else if f.dropPending then (.error .connectionLost, { f with attached := false, dropPending := false })
  else match f.readError with
    | some m => (.error (.io m), { f with attached := false, readError := none })
    | none =>
      match f.frames with
      | [] => (.ok none, f)
      | frame :: rest => (.ok (some frame), { f with frames := rest })

/-- Splits the first record off a frame: `none` in stall mode, an error when
less than a record is left. -/
def nextRecord (f : ScriptedFeed) (frame : List UInt8) :
    Except TransportError (Option (MarketRecord × List UInt8)) :=
  if f.stall then .ok none
  else if frame.length < recordLen then
    .error (.protocol ("truncated record: " ++ toString frame.length ++ " bytes"))
  else
    match MarketRecord.decode (frame.take recordLen) with
    | .ok r => .ok (some (r, frame.drop recordLen))
    | .error e => .error (.protocol e.message)

end ScriptedFeed

end DepthFeed
