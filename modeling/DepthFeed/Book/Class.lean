import DepthFeed.Book.Level

/-!
# Books

A book rebuilds the visible depth of one instrument from records and writes
it back into records. `Book` is what the feed reader needs of one: apply a
record (answering the least visible position that changed), write the book
into a record, start over, take another book's contents, and read the best
level of each side.
-/

namespace DepthFeed

/-- A sequence-numbered book that records update and are written from. -/
class Book (β : Type) where
  /-- The sequence number of the last record applied. -/
  sequenceNumber : β → UInt64
  /-- The record with the book's sequence number and levels written into it. -/
  writeTo : β → MarketRecord → MarketRecord
  /-- Applies a record; the least visible position that changed. -/
  updateFrom : β → MarketRecord → Option Nat × β
  /-- The book with no levels and no sequence number. -/
  reset : β → β
  /-- This book holding the other book's contents. -/
  copyFrom : β → β → β
  /-- The best bid level. -/
  bestBid : β → Option PriceLevel
  /-- The best ask level. -/
  bestAsk : β → Option PriceLevel

namespace Book

variable {β : Type} [Book β]

/-- A book is crossed when its best bid is at or above its best ask. -/
def isCrossed (b : β) : Bool :=
  match bestBid b, bestAsk b with
  | some bid, some ask => decide (ask.price.toInt ≤ bid.price.toInt)
  | _, _ => false

def cmpSequence (b other : β) : Ordering :=
  compare (sequenceNumber b).toNat (sequenceNumber other).toNat

end Book

end DepthFeed
