import DepthFeed.Protocol.Decode

/-!
# Running operation lists

Most requests apply a list of operations to one value and answer with one
step per operation: the operation's result beside a view of the value after
it. The first refused operation refuses the whole request.
-/

namespace DepthFeed

namespace Protocol

/-- Applies the operations in order; each step is the result followed by
the fields of `view` on the state after it. -/
def runSteps {σ : Type} (step : σ → Op → Decode (Json × σ))
    (view : σ → List (String × Json)) : List Op → σ → Decode (List Json × σ)
  | [], s => pure ([], s)
  | op :: ops, s => do
    let (r, after) ← step s op
    let (rest, final) ← runSteps step view ops after
    pure (.obj (("result", r) :: view after) :: rest, final)

/-- Applies the operations in order; each step is the fields the operation
answers, followed by the fields of `view` on the state after it. -/
def runFieldSteps {σ : Type} (step : σ → Op → Decode (List (String × Json) × σ))
    (view : σ → List (String × Json)) : List Op → σ → Decode (List Json × σ)
  | [], s => pure ([], s)
  | op :: ops, s => do
    let (fields, after) ← step s op
    let (rest, final) ← runFieldSteps step view ops after
    pure (.obj (fields ++ view after) :: rest, final)

/-- Applies the operations in order, keeping only the final state. -/
def runQuiet {σ : Type} (step : σ → Op → Decode (Json × σ)) : List Op → σ → Decode σ
  | [], s => pure s
  | op :: ops, s => do
    let (_, s) ← step s op
    runQuiet step ops s

end Protocol

end DepthFeed
