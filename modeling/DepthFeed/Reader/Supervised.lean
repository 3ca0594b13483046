import DepthFeed.Reader.Control
import DepthFeed.Gateway.Inbound

/-!
# The reader under a gateway

`Session.supervised` is the shared reader as the inbound gateway sees it:
connect attempts are gapless connects (they finish without the watchdog),
disconnects and inspections park the worker, and the clock is the one the
worker stamps frames with.
-/

namespace DepthFeed

namespace Session

variable {β : Type} [Book β]

def supervise {α : Type} (m : Supervisor β α) (s : Session β) : Except ReaderError α × Session β :=
  Supervisor.run m s

def supervised : Supervised (Session β) where
  attempt _ raised s :=
    match supervise (Supervisor.connect raised) s with
    | (.ok (), s) => (.ok (), s)
    | (.error e, s) => (.error (.failed e), s)
  disconnect raised s := supervise (Supervisor.disconnect raised) s
  lastRecvNanos s := s.reader.lastRecvNanos
  connectionLost s := s.reader.connectionLost
  bookIsCrossed raised s := supervise (Supervisor.inspect raised Book.isCrossed) s
  now s := s.reader.clock.now

/-- Stops the worker's runner: a runner still going ends cleanly. -/
def stopWorker (s : Session β) : Session β :=
  match s.exit with
  | some _ => s
  | none => s.finish (.ok ())

end Session

end DepthFeed
