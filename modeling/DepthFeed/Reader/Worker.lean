import DepthFeed.Reader.Handshake
import DepthFeed.Reader.Feed
import DepthFeed.Book.Class
import DepthFeed.Gateway.Replay
import DepthFeed.Time.Clock
import DepthFeed.Agent.Runner

/-!
# The feed worker

A `Reader` is the state the worker and its supervisor share. A duty cycle
(`doWorkWith`) asks the handshake whether to park; if not, it reads one frame
and hands it to a message handler a message at a time. A record offered while
buffering goes to the replay queue, one overflow counted per connect window;
otherwise it updates the book and is published. A failed read marks the
connection lost and requests a pause.
-/

namespace DepthFeed

/-- The reader's counters: 64-bit words that wrap. -/
structure ReaderStats where
  published : UInt64
  buffered : UInt64
  replayed : UInt64
  discarded : UInt64
  overflows : UInt64
  connects : UInt64
  deriving DecidableEq, Repr

def ReaderStats.zero : ReaderStats := ⟨0, 0, 0, 0, 0, 0⟩

/-- What the reader library itself keeps, over a book of type `β`: the park
handshake, the replay queue, the connection flags, the counters, the book and
the scratch record the feed decodes into. -/
structure Shared (β : Type) where
  handshake : Handshake
  replay : ReplayQueue
  overflowed : Bool
  connectionLost : Bool
  lastRecvNanos : UInt64
  stats : ReaderStats
  book : β
  scratch : MarketRecord

namespace Shared

variable {β : Type}

/-- A new reader's shared state: the worker waits on a standing pause request. -/
def new (book : β) (capacity : Nat) : Shared β where
  handshake := Handshake.new
  replay := ReplayQueue.new capacity
  overflowed := false
  connectionLost := false
  lastRecvNanos := 0
  stats := ReaderStats.zero
  book := book
  scratch := MarketRecord.new

/-- Holds a record back in the replay queue; a full queue loses it and is
counted as one overflow per connect window. -/
def bufferRecord (sh : Shared β) (record : MarketRecord) : Shared β :=
  match sh.replay.push record with
  | some q => { sh with replay := q, stats := { sh.stats with buffered := sh.stats.buffered + 1 } }
  | none =>
    if sh.overflowed then sh
    else { sh with overflowed := true, stats := { sh.stats with overflows := sh.stats.overflows + 1 } }

/-- The depth a published record reports: the changed position when it is
one of the visible levels. -/
def visibleChange (changed : Option Nat) : Option UInt8 :=
  match changed with
  | some d => if d < visibleDepth then some d.toUInt8 else none
  | none => none

/-- Applies a record to the book and writes the book, with the changed depth,
into the scratch record. -/
def applyRecord [Book β] (sh : Shared β) (record : MarketRecord) : Shared β :=
  let (changed, book) := Book.updateFrom sh.book record
  { sh with book := book, scratch := Book.writeTo book (record.setDepth (visibleChange changed)) }

@[simp] def countPublished (sh : Shared β) : Shared β :=
  { sh with stats := { sh.stats with published := sh.stats.published + 1 } }

/-- Holding a record back touches only the queue, the overflow flag and the
buffered and overflow counters. -/
@[simp] theorem bufferRecord_eq (sh : Shared β) (record : MarketRecord) :
    sh.bufferRecord record =
      { sh with
        replay := (sh.replay.push record).getD sh.replay
        overflowed := sh.overflowed || (sh.replay.push record).isNone
        stats := { sh.stats with
          buffered := if (sh.replay.push record).isSome then sh.stats.buffered + 1 else sh.stats.buffered
          overflows := if (sh.replay.push record).isNone && !sh.overflowed then sh.stats.overflows + 1
            else sh.stats.overflows } } := by
  obtain ⟨handshake, replay, overflowed, connectionLost, lastRecvNanos, stats, book, scratch⟩ := sh
  unfold bufferRecord
  -- a push that fits, or a full queue whose loss is counted once per window
  cases replay.push record with
  | some q => simp
  | none => cases overflowed <;> simp

@[simp] theorem applyRecord_eq [Book β] (sh : Shared β) (record : MarketRecord) :
    sh.applyRecord record =
      { sh with
        book := (Book.updateFrom sh.book record).2
        scratch := Book.writeTo (Book.updateFrom sh.book record).2
          (record.setDepth (visibleChange (Book.updateFrom sh.book record).1)) } := rfl
end Shared

def readFailure (e : TransportError) : ReaderError :=
  match e with
  | .connectionLost => .connectionLost
  | other => .transport other

/-- The state shared by the feed worker and its supervisor: the library's own
part, and the feed, the distribution channel and the clock around it. -/
structure Reader (β : Type) extends Shared β where
  feed : ScriptedFeed
  published : List MarketRecord
  channelClosed : Bool
  clock : ManualClock
  workerAlive : Bool

namespace Reader

variable {β : Type} [Book β]

/-- A reader over `book`, reading `feed`, with a replay queue of `capacity`
(zero becomes one): the worker waits on a standing pause request. -/
def new (feed : ScriptedFeed) (book : β) (capacity : Nat) (clock : ManualClock) : Reader β where
  toShared := Shared.new book capacity
  feed := feed
  published := []
  channelClosed := false
  clock := clock
  workerAlive := true

def state (r : Reader β) : ReaderState := r.handshake.state

/-- Offers the scratch record, stamped with receive time `now`: held back
while buffering, else applied to the book and published. -/
def offer (r : Reader β) (now : UInt64) : Except ReaderError Unit × Reader β :=
  let record := { r.scratch with timestampRecv := now }
  let r := { r with scratch := record }
  if r.handshake.buffer then (.ok (), { r with toShared := r.bufferRecord record })
  else
    let r := { r with toShared := r.applyRecord record }
    if r.channelClosed then (.error .channelClosed, r)
    else (.ok (), { r with toShared := r.countPublished, published := r.published ++ [r.scratch] })

/-- Handles the message at the front of a frame: given the reader (whose
`lastRecvNanos` is the receive time) and the frame, it offers what it decodes
and answers the rest of the frame. A rest as long as the frame means no
progress. -/
abbrev MessageHandler (β : Type) := Reader β → List UInt8 → Except ReaderError (List UInt8) × Reader β

/-- The scripted feed's handler: split one record off the frame into the
scratch record and offer it. -/
def scriptedHandler : MessageHandler β := fun r frame =>
  match r.feed.nextRecord frame with
  | .error e => (.error (.transport e), r)
  | .ok none => (.ok frame, r)
  | .ok (some (record, rest)) =>
    match { r with scratch := record }.offer r.lastRecvNanos with
    | (.error e, r) => (.error e, r)
    | (.ok (), r) => (.ok rest, r)

/-- Hands a frame to `handler` message by message, stamping the receive time
before each, until the frame is empty, a message fails, or one makes no
progress (the rest is dropped); `handled` counts the messages that made
progress, and `fuel` bounds their number. -/
def handleFrame (handler : MessageHandler β) : Nat → Reader β → List UInt8 → Nat → Except ReaderError Nat × Reader β
  | 0, r, _, handled => (.ok handled, r)
  | fuel + 1, r, frame, handled =>
    if frame.isEmpty then (.ok handled, r) else
    let r := { r with lastRecvNanos := r.clock.now }
    match handler r frame with
    | (.error e, r) => (.error e, r)
    | (.ok rest, r) =>
      if rest.length = frame.length then (.ok handled, r)
      else handleFrame handler fuel r rest (handled + 1)

/-- Marks the connection lost after a failed read and asks the worker to park. -/
def loseConnection (r : Reader β) (e : TransportError) : ReaderError × Reader β :=
  (readFailure e, { r with connectionLost := true, handshake := r.handshake.requestPause })

/-- One duty cycle of the worker with message handler `handler`: the number
of messages handled. -/
def doWorkWith (handler : MessageHandler β) (r : Reader β) : Except ReaderError Nat × Reader β :=
  let (park, handshake) := r.handshake.workerShouldPark
  let r := { r with handshake := handshake }
  if park then (.ok 0, r) else
  let (read, feed) := r.feed.read
  let r := { r with feed := feed }
  match read with
  | .ok none => (.ok 0, r)
  | .error e => let (e, r) := r.loseConnection e; (.error e, r)
  | .ok (some frame) => handleFrame handler (frame.length + 1) r frame 0

def doWork (r : Reader β) : Except ReaderError Nat × Reader β := r.doWorkWith scriptedHandler

/-- A worker asked to pause only acknowledges: it reads nothing and touches
nothing but the handshake. -/
theorem doWork_of_pause (r : Reader β) (h : r.handshake.pause = true) :
    r.doWork = (.ok 0, { r with handshake := r.handshake.workerShouldPark.2 }) := by
  simp [doWork, doWorkWith, Handshake.workerShouldPark, h]

theorem offer_of_buffer (r : Reader β) (now : UInt64) (h : r.handshake.buffer = true) :
    (r.offer now).2.published = r.published ∧ (r.offer now).2.book = r.book ∧
      (r.offer now).1 = .ok () := by
  simp [offer, h]

/-- The worker is gone: the handshake counts it as parked for good. -/
def dropWorker (r : Reader β) : Reader β :=
  { r with workerAlive := false, handshake := r.handshake.detachWorker }

/-- Closes the distribution channel: records still in it are lost, and later
publishes fail. -/
def closeChannel (r : Reader β) : Reader β := { r with channelClosed := true, published := [] }

def collect (r : Reader β) : List MarketRecord × Reader β := (r.published, { r with published := [] })

/-- The worker as an agent: each cycle is a duty cycle, and only a closed
channel stops it. -/
def agent : Agent (Reader β) ReaderError where
  roleName := "socket-reader"
  onStart r := (.ok, r)
  doWork r :=
    match r.doWork with
    | (.ok n, r) => (.done n, r)
    | (.error e, r) => (.failed e, r)
  onClose r := r
  isFatal e := e.isFatal

end Reader

end DepthFeed
