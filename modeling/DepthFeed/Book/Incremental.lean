import DepthFeed.Book.Side
import DepthFeed.Book.Class

/-!
# Incremental books

An `IncrementalBook` follows venues that publish level changes. A record that
names a side and a price changes that one level (with an order count of one);
any other non-trade record applies each of its present level entries in turn.
Only changes within the first ten positions are reported.
-/

namespace DepthFeed

/-- A book of two bounded sorted sides. -/
structure IncrementalBook where
  sequence : UInt64
  bids : BookSide
  asks : BookSide
  deriving DecidableEq, Repr

namespace IncrementalBook

/-- An empty book holding at most `maxLevels` levels per side. -/
def new (maxLevels : Nat) : IncrementalBook :=
  ⟨absentU64, BookSide.new .bid maxLevels, BookSide.new .ask maxLevels⟩

def defaultMaxLevels : Nat := 128

def visible (i : Option Nat) : Option Nat := i.filter (· < visibleDepth)

def setSequenceNumber (b : IncrementalBook) (n : UInt64) : IncrementalBook :=
  { b with sequence := n }

def updateBid (b : IncrementalBook) (price size count : Int64) : SideUpdate × IncrementalBook :=
  let (u, s) := b.bids.update price size count
  (u, { b with bids := s })

def updateAsk (b : IncrementalBook) (price size count : Int64) : SideUpdate × IncrementalBook :=
  let (u, s) := b.asks.update price size count
  (u, { b with asks := s })

/-- Applies a record: a trade changes nothing but the sequence number, a
single-level change updates its side, anything else applies both sides'
entries. -/
def updateFrom (b : IncrementalBook) (r : MarketRecord) : Option Nat × IncrementalBook :=
  let b := { b with sequence := r.sequence }
  if r.action = .trade then (none, b)
  else if r.isLevelDelta then
    if r.side = .bid then
      let (u, b) := b.updateBid r.price r.size 1
      (visible u.index?, b)
    else
      let (u, b) := b.updateAsk r.price r.size 1
      (visible u.index?, b)
  else
    let (bi, bids) := b.bids.updateFrom r.bids.toList
    let (ai, asks) := b.asks.updateFrom r.asks.toList
    (minIndex? (visible bi) (visible ai), { b with bids, asks })

/-- Writes the sequence number and the first ten levels of each side. -/
def writeTo (b : IncrementalBook) (r : MarketRecord) : MarketRecord :=
  { r with sequence := b.sequence, bids := b.bids.writeEntries, asks := b.asks.writeEntries }

def reset (b : IncrementalBook) : IncrementalBook :=
  { b with sequence := absentU64, bids := b.bids.clear, asks := b.asks.clear }

/-- Takes another book's sequence number and levels, within this book's bounds. -/
def copyFrom (b other : IncrementalBook) : IncrementalBook :=
  { b with sequence := other.sequence, bids := b.bids.copyFrom other.bids,
           asks := b.asks.copyFrom other.asks }

instance : Book IncrementalBook where
  sequenceNumber b := b.sequence
  writeTo := writeTo
  updateFrom := updateFrom
  reset := reset
  copyFrom := copyFrom
  bestBid b := b.bids.best?
  bestAsk b := b.asks.best?

end IncrementalBook

end DepthFeed
