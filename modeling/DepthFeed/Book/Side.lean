import DepthFeed.Book.Level

/-!
# Book sides

A `BookSide` holds at most `maxLevels` price levels, best first: bids by
descending price, asks by ascending price. `update` finds a price by binary
search under the side's priority order, then removes, overwrites or inserts
the level, dropping the worst level when an insertion overflows the bound.

The search halves its range without stopping early on a match and settles on
the last probe, so on levels that are not in priority order (a side copied
from one of the other kind) it still answers deterministically.
-/

namespace DepthFeed

/-- Which side of the book. -/
inductive SideKind where
  | bid
  | ask
  deriving DecidableEq, Repr

/-- The outcome of updating one level of a side. -/
inductive SideUpdate where
  | applied (index : Nat)
  | notPresent
  | beyondCapacity (index : Nat)
  deriving DecidableEq, Repr

def SideUpdate.index? : SideUpdate → Option Nat
  | .applied i => some i
  | _ => none

/-- One side of an incremental book. -/
structure BookSide where
  kind : SideKind
  maxLevels : Nat
  levels : List PriceLevel
  deriving DecidableEq, Repr

namespace BookSide

def new (kind : SideKind) (maxLevels : Nat) : BookSide := ⟨kind, maxLevels, []⟩

def depth (s : BookSide) : Nat := s.levels.length

def isEmpty (s : BookSide) : Bool := s.levels.isEmpty

def best? (s : BookSide) : Option PriceLevel := s.levels.head?

def level? (s : BookSide) (i : Nat) : Option PriceLevel := s.levels[i]?

def clear (s : BookSide) : BookSide := { s with levels := [] }

/-- Takes the levels of another side, as many as this side's bound allows. -/
def copyFrom (s other : BookSide) : BookSide := { s with levels := other.levels.take s.maxLevels }

/-- How price `a` compares with price `b` in priority: for bids the higher
price comes first, for asks the lower. -/
def priority (s : BookSide) (a b : Int64) : Ordering :=
  match s.kind with
  | .bid => compare b.toInt a.toInt
  | .ask => compare a.toInt b.toInt

/-- The halving loop of the search: `base` and `size` of the live range. -/
def searchLoop (s : BookSide) (price : Int64) : Nat → Nat → Nat → Nat
  | 0, base, _ => base
  | fuel + 1, base, size =>
    if size ≤ 1 then base else
    let half := size / 2
    let mid := base + half
    let probe := match s.levels[mid]? with
      | some l => s.priority l.price price
      | none => .gt
    searchLoop s price fuel (if probe = .gt then base else mid) (size - half)

/-- The position of a price: `.ok i` when level `i` holds it, `.error i`
with the position where it would be inserted otherwise. -/
def search (s : BookSide) (price : Int64) : Except Nat Nat :=
  let n := s.levels.length
  if n = 0 then .error 0 else
  let base := s.searchLoop price n 0 n
  match s.levels[base]? with
  | none => .error base
  | some l =>
    match s.priority l.price price with
    | .eq => .ok base
    | .lt => .error (base + 1)
    | .gt => .error base

/-- Applies one level: size zero removes a held price, any other size
overwrites a held price or inserts a new one within the bound. -/
def update (s : BookSide) (price size count : Int64) : SideUpdate × BookSide :=
  match s.search price with
  | .ok i =>
    if size = 0 then (.applied i, { s with levels := s.levels.eraseIdx i })
    else (.applied i, { s with levels := s.levels.set i ⟨price, size, count⟩ })
  | .error i =>
    if size = 0 then (.notPresent, s)
    else if s.maxLevels ≤ i then (.beyondCapacity i, s)
    else
      let kept := if s.levels.length = s.maxLevels then s.levels.dropLast else s.levels
      (.applied i, { s with levels := kept.insertIdx i ⟨price, size, count⟩ })

/-- The first ten levels as record entries, absent past the side's depth. -/
def writeEntries (s : BookSide) : Vector LevelEntry 10 :=
  Vector.ofFn fun i => match s.levels[i.val]? with
    | some l => l.toEntry
    | none => LevelEntry.absent

/-- Applies every entry whose price is present, in order; the least position
any of them changed. -/
def updateFrom (s : BookSide) (entries : List LevelEntry) : Option Nat × BookSide :=
  entries.foldl (fun (acc : Option Nat × BookSide) e =>
    if e.isNull then acc else
    let (u, s') := acc.2.update e.price e.size e.count
    (minIndex? acc.1 u.index?, s')) (none, s)

end BookSide

end DepthFeed
