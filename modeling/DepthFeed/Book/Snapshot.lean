import DepthFeed.Book.Class

/-!
# Snapshot books

A `SnapshotBook` follows venues that publish the whole visible depth on every
update. Its sides are fixed-length lists of levels, copied position by
position from a record; the first position that changed is reported.
-/

namespace DepthFeed

/-- A book of two positional level lists of one length, its depth. -/
structure SnapshotBook where
  sequence : UInt64
  bids : List PriceLevel
  asks : List PriceLevel
  sides_length : asks.length = bids.length
  deriving DecidableEq, Repr

namespace SnapshotBook

def new (depth : Nat) : SnapshotBook :=
  ⟨absentU64, List.replicate depth PriceLevel.empty, List.replicate depth PriceLevel.empty, rfl⟩

def depth (b : SnapshotBook) : Nat := b.bids.length

def setSequenceNumber (b : SnapshotBook) (n : UInt64) : SnapshotBook := { b with sequence := n }

/-- Overwrites the level at a position; whether it changed. A position past
the depth changes nothing. -/
def setLevel (levels : List PriceLevel) (pos : Nat) (price size count : Int64) :
    Bool × List PriceLevel :=
  match levels[pos]? with
  | none => (false, levels)
  | some l => (l.changes price size count, levels.set pos ⟨price, size, count⟩)

@[simp] theorem length_setLevel (levels : List PriceLevel) (pos : Nat) (price size count : Int64) :
    (setLevel levels pos price size count).2.length = levels.length := by
  unfold setLevel
  split <;> simp

def setBid (b : SnapshotBook) (pos : Nat) (price size count : Int64) : Bool × SnapshotBook :=
  let set := setLevel b.bids pos price size count
  (set.1, { b with bids := set.2, sides_length := by simpa [set] using b.sides_length })

def setAsk (b : SnapshotBook) (pos : Nat) (price size count : Int64) : Bool × SnapshotBook :=
  let set := setLevel b.asks pos price size count
  (set.1, { b with asks := set.2, sides_length := by simpa [set] using b.sides_length })

/-- Copies entries onto levels position by position, as far as both reach;
the first position that changed. -/
def copySide : List PriceLevel → List LevelEntry → Nat → Option Nat × List PriceLevel
  | l :: ls, e :: es, pos =>
    let (first, rest) := copySide ls es (pos + 1)
    let changed := l.changes e.price e.size e.count
    (if changed then some pos else first, PriceLevel.ofEntry e :: rest)
  | ls, _, _ => (none, ls)

@[simp] theorem length_copySide (ls : List PriceLevel) (es : List LevelEntry) (pos : Nat) :
    (copySide ls es pos).2.length = ls.length := by
  induction ls generalizing es pos with
  | nil => cases es <;> rfl
  | cons l ls ih =>
    cases es with
    | nil => rfl
    | cons e es => simp [copySide, ih]

/-- Applies a record: a trade changes nothing but the sequence number, any
other record overwrites both sides. -/
def updateFrom (b : SnapshotBook) (r : MarketRecord) : Option Nat × SnapshotBook :=
  let b := { b with sequence := r.sequence }
  if r.action = .trade then (none, b)
  else
    let bids := copySide b.bids r.bids.toList 0
    let asks := copySide b.asks r.asks.toList 0
    (minIndex? bids.1 asks.1,
      { b with bids := bids.2, asks := asks.2, sides_length := by simpa [bids, asks] using b.sides_length })

/-- The first ten positions as record entries, absent past the depth. -/
def writeSide (levels : List PriceLevel) : Vector LevelEntry 10 :=
  Vector.ofFn fun i => match levels[i.val]? with
    | some l => l.toEntry
    | none => LevelEntry.absent

/-- Writes the sequence number and the first ten positions of each side. -/
def writeTo (b : SnapshotBook) (r : MarketRecord) : MarketRecord :=
  { r with sequence := b.sequence, bids := writeSide b.bids, asks := writeSide b.asks }

/-- Empties every position and forgets the sequence number. -/
def reset (b : SnapshotBook) : SnapshotBook :=
  { sequence := absentU64, bids := b.bids.map fun _ => PriceLevel.empty,
    asks := b.asks.map fun _ => PriceLevel.empty, sides_length := by simpa using b.sides_length }

def firstLevel? (levels : List PriceLevel) : Option PriceLevel :=
  levels.head?.filter fun l => !l.isEmpty

instance : Book SnapshotBook where
  sequenceNumber b := b.sequence
  writeTo := writeTo
  updateFrom := updateFrom
  reset := reset
  copyFrom _ other := other
  bestBid b := firstLevel? b.bids
  bestAsk b := firstLevel? b.asks

end SnapshotBook

end DepthFeed
