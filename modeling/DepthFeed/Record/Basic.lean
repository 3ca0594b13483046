/-!
# Market records

A `MarketRecord` is one market-by-price message: four raw header bytes,
identifiers, three timestamps, a sequence number, a single-level change and
ten levels a side. Absent values are marked by the largest word, since zero
is a legal size and sequence number; the raw header bytes survive a round
trip, and `action`, `side`, `depth` and `flags` interpret them.
-/

namespace DepthFeed

def absentI64 : Int64 := 9223372036854775807

def absentU64 : UInt64 := 18446744073709551615

/-- The number of price levels a record carries per side. -/
def visibleDepth : Nat := 10

/-- One price level as carried in a record. -/
structure LevelEntry where
  price : Int64
  size : Int64
  count : Int64
  deriving DecidableEq, Repr, Inhabited

namespace LevelEntry

def absent : LevelEntry := ⟨absentI64, absentI64, absentI64⟩

def isNull (e : LevelEntry) : Bool := e.price == absentI64

end LevelEntry

/-- What a record reports: a change to the book or a trade. -/
inductive Action where
  | modify
  | trade
  deriving DecidableEq, Repr

/-- The book side a record's single-level change applies to. -/
inductive Side where
  | bid
  | ask
  | unsided
  deriving DecidableEq, Repr

def Action.toRaw : Action → UInt8
  | .modify => 0
  | .trade => 1

def Side.toRaw : Side → UInt8
  | .bid => 0
  | .ask => 1
  | .unsided => 2

/-- A market-by-price record. -/
structure MarketRecord where
  actionRaw : UInt8
  sideRaw : UInt8
  depthRaw : UInt8
  flagsRaw : UInt8
  exchangeId : UInt16
  reserved : UInt16
  securityId : UInt64
  timestampEvent : UInt64
  timestampSent : UInt64
  timestampRecv : UInt64
  sequence : UInt64
  price : Int64
  size : Int64
  bids : Vector LevelEntry 10
  asks : Vector LevelEntry 10
  deriving DecidableEq

namespace MarketRecord

def new : MarketRecord where
  actionRaw := 0
  sideRaw := 2
  depthRaw := 255
  flagsRaw := 0
  exchangeId := 0
  reserved := 0
  securityId := 0
  timestampEvent := absentU64
  timestampSent := absentU64
  timestampRecv := absentU64
  sequence := absentU64
  price := absentI64
  size := absentI64
  bids := Vector.replicate 10 LevelEntry.absent
  asks := Vector.replicate 10 LevelEntry.absent

instance : Inhabited MarketRecord := ⟨new⟩

/-- Back to `new`, keeping the exchange and security identifiers. -/
def reset (r : MarketRecord) : MarketRecord :=
  { new with exchangeId := r.exchangeId, securityId := r.securityId }

/-- The action byte read as an action: 1 is a trade, anything else a change. -/
def action (r : MarketRecord) : Action := if r.actionRaw = 1 then .trade else .modify

/-- The side byte read as a side: 0 bid, 1 ask, anything else no side. -/
def side (r : MarketRecord) : Side :=
  if r.sideRaw = 0 then .bid else if r.sideRaw = 1 then .ask else .unsided

/-- The visible depth of the change, absent when the byte is 255. -/
def depth (r : MarketRecord) : Option UInt8 := if r.depthRaw = 255 then none else some r.depthRaw

/-- The known flags: only bit 0, market by price, is defined. -/
def flags (r : MarketRecord) : UInt8 := r.flagsRaw &&& 1

def setAction (r : MarketRecord) (a : Action) : MarketRecord := { r with actionRaw := a.toRaw }

def setSide (r : MarketRecord) (s : Side) : MarketRecord := { r with sideRaw := s.toRaw }

def setDepth (r : MarketRecord) (d : Option UInt8) : MarketRecord :=
  { r with depthRaw := d.getD 255 }

def setFlags (r : MarketRecord) (bits : UInt8) : MarketRecord := { r with flagsRaw := bits }

/-- A record changes a single level when it names a side and a price. -/
def isLevelDelta (r : MarketRecord) : Bool := r.side != .unsided && r.price != absentI64

end MarketRecord

end DepthFeed
