import DepthFeed.Config.Tour

/-!
# The configuration tour

Prints the log of `GatewayConfig.tour`, one line each, or the error that
stopped it and a failing exit code.
-/

open DepthFeed

def main : IO UInt32 := do
  match GatewayConfig.tour with
  | .ok lines =>
    for line in lines do IO.println line
    pure 0
  | .error e =>
    IO.eprintln ("Error: " ++ e.message)
    pure 1
