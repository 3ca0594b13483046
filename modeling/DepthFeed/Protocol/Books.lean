import DepthFeed.Protocol.Steps
import DepthFeed.Protocol.Encode
import DepthFeed.Book.Incremental
import DepthFeed.Book.Snapshot

/-!
# Requests on books

`book_side` edits one side; `incremental_book` and `snapshot_book` edit a
whole book. A book specification is such a request without its kind: the
book it builds, by running its operations, takes part in `copy_from` and
`cmp_sequence`, and serves as a snapshot for the feed reader.
-/

namespace DepthFeed

namespace Protocol

def readSideKind (j : Json) : Decode SideKind := do
  match (← readString j) with
  | "Bid" => pure .bid
  | "Ask" => pure .ask
  | other => refuse ("unknown side kind " ++ other)

/-- Builds a side from a specification: kind, bound and levels to load. -/
def readSideSpec (j : Json) : Decode BookSide := do
  let kind ← keyOr j "kind" .bid readSideKind
  let maxLevels ← fieldOr j "max_levels" 128 (readLimited "max_levels")
  let levels ← fieldOr j "levels" [] fun v => do (← readArray v).mapM readLevel
  pure (levels.foldl (fun s e => (s.update e.price e.size e.count).2) (BookSide.new kind maxLevels))

def sideStep (s : BookSide) (op : Op) : Decode (Json × BookSide) :=
  match op.name with
  | "update" => do
    let e ← readLevel op.arg
    let (u, s) := s.update e.price e.size e.count
    pure (sideUpdateJson u, s)
  | "clear" => pure (.null, s.clear)
  | "copy_from" => return (.null, s.copyFrom (← readSideSpec op.arg))
  | "write_to" => do
    let _ ← fieldOr op.arg "prefill" (Vector.replicate 10 LevelEntry.absent) readLevels10
    pure (.arr (s.writeEntries.toList.map levelJson), s)
  | "update_from" => do
    let entries ← (← readArray op.arg).mapM readLevel
    let (d, s) := s.updateFrom entries
    pure (optNatJson d, s)
  | "priority" => do
    match (← readArray op.arg) with
    | [a, b] => return (orderingJson (s.priority (← readI64 a) (← readI64 b)), s)
    | _ => refuse "priority takes [a, b]"
  | "best" => pure (optLevelJson s.best?, s)
  | "level" => return (optLevelJson (s.level? (← readLimited "index" op.arg)), s)
  | "depth" => pure (.int s.depth, s)
  | "is_empty" => pure (.bool s.isEmpty, s)
  | "max_levels" => pure (.int s.maxLevels, s)
  | "kind" => pure (.str (sideKindName s.kind), s)
  | _ => unknownOp "book_side" op

def answerBookSide (req : Json) : Decode Json := do
  let s ← readSideSpec req
  let ops ← readOps req
  let (steps, _) ← runSteps sideStep
    (fun s => [("levels", .arr (s.levels.map priceLevelJson))]) ops s
  pure (.obj [("steps", .arr steps)])

/-- How requests build, edit and show one kind of book. -/
class BookRequest (β : Type) extends Book β where
  /-- The book a specification starts from, before its operations. -/
  fresh : Json → Decode β
  /-- The operations only this kind of book has. -/
  ownStep : β → Op → Option (Decode (Json × β))
  /-- The book as shown in answers. -/
  stateJson : β → Json

def sidesJson (sequence : UInt64) (bids asks : List PriceLevel) : Json :=
  .obj [("sequence", u64Json sequence), ("bids", .arr (bids.map priceLevelJson)),
    ("asks", .arr (asks.map priceLevelJson))]

def readPositionLevel (j : Json) : Decode (Nat × LevelEntry) := do
  match (← readArray j) with
  | [pos, p, s, c] => return (← readU64 pos, ⟨← readI64 p, ← readI64 s, ← readI64 c⟩)
  | _ => refuse "set_bid/set_ask take [position, price, size, count]"

instance : BookRequest IncrementalBook where
  fresh spec := return IncrementalBook.new (← fieldOr spec "max_levels" IncrementalBook.defaultMaxLevels (readLimited "max_levels"))
  ownStep b op := match op.name with
    | "set_sequence_number" => some (return (.null, b.setSequenceNumber (← readU64 op.arg).toUInt64))
    | "update_bid" => some do
      let e ← readLevel op.arg
      let (u, b) := b.updateBid e.price e.size e.count
      pure (sideUpdateJson u, b)
    | "update_ask" => some do
      let e ← readLevel op.arg
      let (u, b) := b.updateAsk e.price e.size e.count
      pure (sideUpdateJson u, b)
    | "max_levels" => some (pure (.arr [.int b.bids.maxLevels, .int b.asks.maxLevels], b))
    | _ => none
  stateJson b := sidesJson b.sequence b.bids.levels b.asks.levels

instance : BookRequest SnapshotBook where
  fresh spec := return SnapshotBook.new (← fieldOr spec "depth" visibleDepth (readLimited "depth"))
  ownStep b op := match op.name with
    | "set_sequence_number" => some (return (.null, b.setSequenceNumber (← readU64 op.arg).toUInt64))
    | "set_bid" => some do
      let (pos, e) ← readPositionLevel op.arg
      let (c, b) := b.setBid pos e.price e.size e.count
      pure (.bool c, b)
    | "set_ask" => some do
      let (pos, e) ← readPositionLevel op.arg
      let (c, b) := b.setAsk pos e.price e.size e.count
      pure (.bool c, b)
    | "depth" => some (pure (.int b.depth, b))
    | _ => none
  stateJson b := sidesJson b.sequence b.bids b.asks

section

variable {β : Type} [BookRequest β]

mutual

/-- One operation on a book; `fuel` bounds how deeply specifications nest. -/
def bookStep : Nat → β → Op → Decode (Json × β)
  | 0, _, _ => refuse "book specifications nest too deeply"
  | fuel + 1, b, op =>
    match op.name with
    | "update_from" => do
      let (d, b) := Book.updateFrom b (← readRecord op.arg)
      pure (optNatJson d, b)
    | "write_to" => return (recordJson (Book.writeTo b (← readRecord op.arg)), b)
    | "reset" => pure (.null, Book.reset b)
    | "copy_from" => return (.null, Book.copyFrom b (← buildBook fuel op.arg))
    | "cmp_sequence" => return (orderingJson (Book.cmpSequence b (← buildBook fuel op.arg)), b)
    | "best_bid" => pure (optLevelJson (Book.bestBid b), b)
    | "best_ask" => pure (optLevelJson (Book.bestAsk b), b)
    | "is_crossed" => pure (.bool (Book.isCrossed b), b)
    | "sequence_number" => pure (u64Json (Book.sequenceNumber b), b)
    | _ =>
      match BookRequest.ownStep b op with
      | some r => r
      | none => unknownOp "book" op
termination_by fuel => (fuel, 0, 0)

def buildBook (fuel : Nat) (spec : Json) : Decode β := do
  let b ← BookRequest.fresh spec
  let ops ← readOps spec
  runOpsQuiet fuel ops b
termination_by (fuel, 2, 0)

def runOpsQuiet : Nat → List Op → β → Decode β
  | _, [], b => pure b
  | fuel, op :: ops, b => do
    let (_, b) ← bookStep fuel b op
    runOpsQuiet fuel ops b
termination_by fuel ops => (fuel, 1, ops.length)

end

def specFuel : Nat := 256

def answerBook (β : Type) [BookRequest β] (req : Json) : Decode Json := do
  let b : β ← BookRequest.fresh req
  let ops ← readOps req
  let (steps, _) ← runSteps (bookStep specFuel) (fun b => [("book", BookRequest.stateJson b)]) ops b
  pure (.obj [("steps", .arr steps)])

end

end Protocol

end DepthFeed
