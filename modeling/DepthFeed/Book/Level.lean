import DepthFeed.Record.Basic

/-!
# Price levels

A `PriceLevel` is one aggregated level of a book: price, total size and order
count. The empty level has an absent price; `update` overwrites all three
fields and says whether any of them changed.
-/

namespace DepthFeed

/-- One aggregated price level. -/
structure PriceLevel where
  price : Int64
  size : Int64
  count : Int64
  deriving DecidableEq, Repr, Inhabited

/-- The smaller of two optional positions, either one missing. -/
def minIndex? : Option Nat → Option Nat → Option Nat
  | some a, some b => some (min a b)
  | some a, none => some a
  | none, b => b

namespace PriceLevel

def empty : PriceLevel := ⟨absentI64, absentI64, absentI64⟩

def isEmpty (l : PriceLevel) : Bool := l.price == absentI64

def toEntry (l : PriceLevel) : LevelEntry := ⟨l.price, l.size, l.count⟩

def ofEntry (e : LevelEntry) : PriceLevel := ⟨e.price, e.size, e.count⟩

/-- Whether overwriting the level with these fields changes it. -/
def changes (l : PriceLevel) (price size count : Int64) : Bool :=
  l.price != price || l.size != size || l.count != count

/-- The level written as `SIZExPRICE (COUNT)`, or `-` when empty. -/
def display (l : PriceLevel) : String :=
  if l.isEmpty then "-"
  else toString l.size.toInt ++ "x" ++ toString l.price.toInt ++ " (" ++
    toString l.count.toInt ++ ")"

end PriceLevel

end DepthFeed
