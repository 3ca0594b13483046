import DepthFeed.Protocol.Steps
import DepthFeed.Protocol.Encode
import DepthFeed.Book.Level

/-!
# Requests on records and price levels

`record` edits one record through its setters and shows it after each step,
`decode` reads a record from bytes, and `price_level` edits one level.
-/

namespace DepthFeed

namespace Protocol

def readAction (j : Json) : Decode Action := do
  match (← readString j) with
  | "Modify" => pure .modify
  | "Trade" => pure .trade
  | other => refuse ("unknown action " ++ other)

def readSide (j : Json) : Decode Side := do
  match (← readString j) with
  | "Bid" => pure .bid
  | "Ask" => pure .ask
  | "None" => pure .unsided
  | other => refuse ("unknown side " ++ other)

def recordStep (r : MarketRecord) (op : Op) : Decode (Json × MarketRecord) :=
  match op.name with
  | "reset" => pure (.null, r.reset)
  | "default" => pure (.null, MarketRecord.new)
  | "set_action" => return (.null, r.setAction (← readAction op.arg))
  | "set_side" => return (.null, r.setSide (← readSide op.arg))
  | "set_depth" =>
    match op.arg with
    | .null => pure (.null, r.setDepth none)
    | v => return (.null, r.setDepth (some (← readU8 v)))
  | "set_flags" => return (.null, r.setFlags (← readU8 op.arg))
  | "encode" => pure (.str (hexOfBytes r.encode), r)
  | "round_trip" =>
    let same := match MarketRecord.decode r.encode with
      | .ok r' => decide (r' = r)
      | .error _ => false
    pure (.bool same, r)
  | _ => unknownOp "record" op

def answerRecord (req : Json) : Decode Json := do
  let r ← readRecord ((req.get? "record").getD .null)
  let ops ← readOps req
  let (steps, r) ← runSteps recordStep (fun r => [("record", recordJson r)]) ops r
  pure (.obj [("record", recordJson r), ("hex", .str (hexOfBytes r.encode)),
    ("len", .int recordLen), ("steps", .arr steps)])

def answerDecode (req : Json) : Decode Json := do
  let bytes ← readBytes ((req.get? "bytes").getD .null)
  match MarketRecord.decode bytes with
  | .ok r =>
    pure (.obj [("record", recordJson r), ("hex", .str (hexOfBytes r.encode)),
      ("equal_bytes", .bool (r.encode == bytes))])
  | .error e => pure (.obj [("error", .str "WireError::Length"), ("message", .str e.message)])

def readPriceLevel (j : Json) : Decode PriceLevel := return PriceLevel.ofEntry (← readLevel j)

def priceLevelStep (l : PriceLevel) (op : Op) : Decode (Json × PriceLevel) :=
  match op.name with
  | "new" | "from_entry" => return (.null, ← readPriceLevel op.arg)
  | "empty" | "reset" | "default_entry" => pure (.null, PriceLevel.empty)
  | "update" | "update_from_entry" => do
    let n ← readPriceLevel op.arg
    pure (.bool (l.changes n.price n.size n.count), n)
  | "display" => pure (.str l.display, l)
  | "is_empty" => pure (.bool l.isEmpty, l)
  | "fields" => pure (.arr [.int l.price.toInt, .int l.size.toInt, .int l.count.toInt], l)
  | _ => unknownOp "price_level" op

def answerPriceLevel (req : Json) : Decode Json := do
  let ops ← readOps req
  let (steps, _) ← runSteps priceLevelStep (fun l => [("level", priceLevelJson l)]) ops PriceLevel.empty
  pure (.obj [("steps", .arr steps)])

end Protocol

end DepthFeed
