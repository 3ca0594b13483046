import DepthFeed.Json.Value
import DepthFeed.Record.Codec
import DepthFeed.Time.Duration

/-!
# Reading requests

A request is a JSON object; `Decode` reads its parts and runs what they
describe, or ends the request: refused with a message naming what was wrong,
or aborted when the run itself stops the process. Integers are checked
against the range of the field they fill, sizes, capacities and indices
against a limit of `2 ^ 20`.

Operation lists hold bare names (`"reset"`) or one-key objects
(`{"update": [1, 2, 3]}`).
-/

namespace DepthFeed

namespace Protocol

/-- Why a request has no answer of its own. -/
inductive Refusal where
  | badInput (message : String)
  | aborted

/-- A reading of part of a request, or the reason it ends. -/
abbrev Decode := Except Refusal

def refuse {α : Type} (message : String) : Decode α := .error (.badInput message)

def abortRequest {α : Type} : Decode α := .error .aborted

def sizeLimit : Nat := 1048576

def readU64 (j : Json) : Decode Nat :=
  match j with
  | .int n => if 0 ≤ n ∧ n < 18446744073709551616 then pure n.toNat else refuse ("expected unsigned 64-bit integer, got " ++ j.compact)
  | _ => refuse ("expected unsigned 64-bit integer, got " ++ j.compact)

def readBelow (bound : Nat) (j : Json) : Decode Nat := do
  let n ← readU64 j
  if n < bound then pure n else refuse ("integer out of range: " ++ toString n)

def readU8 (j : Json) : Decode UInt8 := return (← readBelow 256 j).toUInt8

def readU16 (j : Json) : Decode UInt16 := return (← readBelow 65536 j).toUInt16

def readU32 (j : Json) : Decode Nat := readBelow 4294967296 j

/-- A size, capacity, count or index, at most `sizeLimit`; `what` names it in
the refusal. -/
def readLimited (what : String) (j : Json) : Decode Nat := do
  let n ← readU64 j
  if n ≤ sizeLimit then pure n else refuse (what ++ " above driver limit " ++ toString sizeLimit)

def readI64 (j : Json) : Decode Int64 :=
  match j with
  | .int n =>
    if -9223372036854775808 ≤ n ∧ n < 9223372036854775808 then pure (Int64.ofInt n)
    else refuse ("expected signed 64-bit integer, got " ++ j.compact)
  | _ => refuse ("expected signed 64-bit integer, got " ++ j.compact)

def readBool (j : Json) : Decode Bool :=
  match j with
  | .bool b => pure b
  | _ => refuse ("expected bool, got " ++ j.compact)

def readString (j : Json) : Decode String :=
  match j with
  | .str s => pure s
  | _ => refuse ("expected string, got " ++ j.compact)

def readArray (j : Json) : Decode (List Json) :=
  match j with
  | .arr items => pure items
  | _ => refuse ("expected array, got " ++ j.compact)

/-- The value under `key` read by `f`, or `default` when missing or null. -/
def fieldOr {α : Type} (j : Json) (key : String) (default : α) (f : Json → Decode α) : Decode α :=
  match j.field? key with
  | some v => f v
  | none => pure default

/-- The value under `key` read by `f`, or `default` when the key is missing;
a null there is read like any other value. -/
def keyOr {α : Type} (j : Json) (key : String) (default : α) (f : Json → Decode α) : Decode α :=
  match j.get? key with
  | some v => f v
  | none => pure default

/-- The value under `key` read by `f`, a missing key read as null. -/
def keyValue {α : Type} (j : Json) (key : String) (f : Json → Decode α) : Decode α :=
  f ((j.get? key).getD .null)

/-- The value under `key` read by `f`, if present and not null. -/
def fieldOpt {α : Type} (j : Json) (key : String) (f : Json → Decode α) : Decode (Option α) :=
  match j.field? key with
  | some v => return some (← f v)
  | none => pure none

/-- One operation of a request: its name and its argument, null when bare. -/
structure Op where
  name : String
  arg : Json

def readOp (j : Json) : Decode Op :=
  match j with
  | .str name => pure ⟨name, .null⟩
  | .obj [(name, arg)] => pure ⟨name, arg⟩
  | _ => refuse ("malformed operation " ++ j.compact)

/-- Reads the operation list under `ops`, empty when missing. -/
def readOps (j : Json) : Decode (List Op) := do
  match j.field? "ops" with
  | none => pure []
  | some v => (← readArray v).mapM readOp

def unknownOp {α : Type} (kind : String) (op : Op) : Decode α :=
  refuse ("unknown " ++ kind ++ " op " ++ op.name)

/-- A duration: nanoseconds, `{"ms": n}` or `{"secs": s, "nanos": n}`. -/
def readDuration (j : Json) : Decode Duration :=
  match j with
  | .int _ => return Duration.ofNanos (← readU64 j)
  | .obj _ =>
    match j.field? "ms" with
    | some ms => return Duration.ofMillis (← readU64 ms)
    | none => do
      let secs ← fieldOr j "secs" 0 readU64
      let nanos ← fieldOr j "nanos" 0 readU32
      if nanosPerSec ≤ nanos then refuse "nanos must be below 1e9"
      else pure (Duration.ofNanos (secs * nanosPerSec + nanos))
  | _ => refuse ("expected duration, got " ++ j.compact)

/-- Bytes: a string's UTF-8 bytes, `{"hex": ...}`, or `{"fill": n, "byte": b}`. -/
def readBytes (j : Json) : Decode (List UInt8) :=
  match j with
  | .str s => pure s.toUTF8.toList
  | .obj _ =>
    match j.field? "hex" with
    | some h => do
      match bytesOfHex (← readString h).toList with
      | some bs => pure bs
      | none => refuse "bad hex digit"
    | none =>
      match j.field? "fill" with
      | some n => do
        let count ← readLimited "fill" n
        let byte ← fieldOr j "byte" 120 readU8
        pure (List.replicate count byte)
      | none => refuse ("expected bytes, got " ++ j.compact)
  | _ => refuse ("expected bytes, got " ++ j.compact)

/-- A level triple `[price, size, count]`, null for the absent level. -/
def readLevel (j : Json) : Decode LevelEntry :=
  match j with
  | .null => pure LevelEntry.absent
  | .arr [p, s, c] => return ⟨← readI64 p, ← readI64 s, ← readI64 c⟩
  | _ => refuse "level entry must be [price, size, count]"

def readLevels10 (j : Json) : Decode (Vector LevelEntry 10) := do
  let items ← readArray j
  if 10 < items.length then refuse "too many level entries" else
  let levels ← items.mapM readLevel
  pure (Vector.ofFn fun i => levels.getD i.val LevelEntry.absent)

/-- A record: each field optional, null or missing meaning its absent value. -/
def readRecord (j : Json) : Decode MarketRecord :=
  match j with
  | .null => pure MarketRecord.new
  | .obj _ => do
    let r := MarketRecord.new
    pure {
      actionRaw := ← fieldOr j "action" r.actionRaw readU8
      sideRaw := ← fieldOr j "side" r.sideRaw readU8
      depthRaw := ← fieldOr j "depth" r.depthRaw readU8
      flagsRaw := ← fieldOr j "flags" r.flagsRaw readU8
      reserved := ← fieldOr j "reserved" r.reserved readU16
      exchangeId := ← fieldOr j "exchange_id" r.exchangeId readU16
      securityId := ← fieldOr j "security_id" r.securityId (fun v => return (← readU64 v).toUInt64)
      timestampEvent := ← fieldOr j "timestamp_event" r.timestampEvent (fun v => return (← readU64 v).toUInt64)
      timestampSent := ← fieldOr j "timestamp_sent" r.timestampSent (fun v => return (← readU64 v).toUInt64)
      timestampRecv := ← fieldOr j "timestamp_recv" r.timestampRecv (fun v => return (← readU64 v).toUInt64)
      sequence := ← fieldOr j "sequence" r.sequence (fun v => return (← readU64 v).toUInt64)
      price := ← fieldOr j "price" r.price readI64
      size := ← fieldOr j "size" r.size readI64
      bids := ← fieldOr j "bids" r.bids readLevels10
      asks := ← fieldOr j "asks" r.asks readLevels10
    }
  | _ => refuse "record must be an object"

end Protocol

end DepthFeed
