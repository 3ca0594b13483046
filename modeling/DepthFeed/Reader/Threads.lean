import DepthFeed.Reader.Control

/-!
# The reader's two threads, step by step

Each thread is a program counter, and each step makes one access to the
shared state: an atomic load, store or read-modify-write, or one use of the
book, transport, scratch record or replay queue. A run is any interleaving of
the two threads' steps. What a step calls outside the library (transport,
decoder, clock, channel, snapshot source, interrupt) is an input it may take
at will. Every step logs what it observably did, each park's opening of its
epoch included (`Sys.parks`).
-/

namespace DepthFeed

/-- A supervisor operation. -/
inductive Op where
  | connect
  | disconnect
  | inspect
  deriving DecidableEq, Repr

/-- What a run records, in order. -/
inductive Event (β : Type) where
  | call (op : Op)
  | returned (op : Op) (result : Except ReaderError Unit)
  | attached (result : Except TransportError Unit)
  | detached (result : Except TransportError Unit) (state : ReaderState)
  | read (result : Except TransportError (Option (List UInt8)))
  | offered (record : MarketRecord) (buffered : Bool)
  | published (record : MarketRecord)
  | worked (result : Except ReaderError Nat)
  | reset (book : β)
  | released
  | fetched (result : Except TransportError (Option β))
  | drained (floor : Option UInt64) (records : List MarketRecord)
  | unbuffered
  | inspected (book : β)
  | opened

def Event.isOpened {β : Type} : Event β → Bool
  | .opened => true
  | _ => false

/-- Where the worker is in its duty cycle: at its top, in the park check
(`resuming` and `unmarking` with no pause requested; `noticing`, `marking` and
`acking` with one), reading and handling a frame, failing a read, or being
dropped. -/
inductive WorkerPc where
  | idle
  | resuming
  | unmarking
  | reading
  | nextMessage (handled : Nat)
  | decoding (handled : Nat)
  | buffering (handled : Nat)
  | publishing (handled : Nat)
  | losing (e : TransportError)
  | pausing (e : TransportError)
  | noticing
  | marking (epoch : UInt64)
  | acking (epoch : UInt64)
  | leaving
  | gone
  deriving DecidableEq, Repr

namespace WorkerPc

/-- Past a park check that returned false and before the end of that duty
cycle: the worker may use the book, the transport, the scratch record and
the replay queue. -/
def owns : WorkerPc → Bool
  | .reading | .nextMessage _ | .decoding _ | .buffering _ | .publishing _
  | .losing _ | .pausing _ => true
  | _ => false

def entering : WorkerPc → Bool
  | .resuming | .unmarking => true
  | _ => false

end WorkerPc

/-- The three steps of a park wait, each holding the epoch it waits for. -/
inductive ParkStage where
  | raising
  | opening
  | checkAcked (epoch : UInt64)
  | checkDetached (epoch : UInt64)
  | checkInterrupt (epoch : UInt64)
  deriving DecidableEq, Repr

/-- Which park is running, which says where it goes on success. -/
inductive ParkFor (β : Type) where
  | attach
  | synchronize (snapshot : Option β)
  | teardown (error : ReaderError)
  | disconnect
  | inspect (wasParked : Bool)

/-- Where the supervisor is. -/
inductive SuperPc (β : Type) where
  | idle
  | done (op : Op) (result : Except ReaderError Unit)
  | parking (park : ParkFor β) (stage : ParkStage)
  | attaching
  | resetting
  | resettingScratch
  | clearingQueue
  | clearingOverflow
  | clearingLost
  | releasing
  | fetching
  | checkingLost (snapshot : Option β)
  | discardingLost
  | checkingOverflow (snapshot : Option β)
  | discardingOverflow
  | installing (snapshot : Option β)
  | draining (snapshot : Option β)
  | unbuffering
  | finishing
  | abandoning (attached : Bool) (error : ReaderError)
  | pausingAfter (error : ReaderError)
  | detaching (error : ReaderError)
  | resettingAfter (error : ReaderError)
  | clearingAfter (error : ReaderError)
  | detachingFeed
  | resettingFeed (result : Except TransportError Unit)
  | clearingFeed (result : Except TransportError Unit)
  | looking (wasParked : Bool)
  | checkingResume (wasParked : Bool)
  | resumingWorker

namespace ParkFor

variable {β : Type}

def parked : ParkFor β → SuperPc β
  | .attach => .attaching
  | .synchronize snapshot => .checkingLost snapshot
  | .teardown e => .detaching e
  | .disconnect => .detachingFeed
  | .inspect wasParked => .looking wasParked

/-- Where a park goes when its interrupt is raised, and what it logs; the
teardown park's fresh interrupt is never raised. -/
def interrupted : ParkFor β → Option (SuperPc β × List (Event β))
  | .attach => some (.abandoning false .interrupted, [])
  | .synchronize _ => some (.abandoning true .interrupted, [])
  | .teardown _ => none
  | .disconnect => some (.done .disconnect (.error .interrupted),
      [.returned .disconnect (.error .interrupted)])
  | .inspect _ => some (.done .inspect (.error .interrupted),
      [.returned .inspect (.error .interrupted)])

end ParkFor

namespace SuperPc

variable {β : Type}

def ready : SuperPc β → Bool
  | .idle | .done _ _ => true
  | _ => false

/-- Past a park that succeeded and before the next hand-back, park or
return: the supervisor may use the book, the transport, the scratch record
and the replay queue. -/
def holds : SuperPc β → Bool
  | .attaching | .resetting | .resettingScratch | .clearingQueue | .clearingOverflow
  | .clearingLost | .releasing => true
  | .checkingLost _ | .discardingLost | .checkingOverflow _ | .discardingOverflow
  | .installing _ | .draining _ | .unbuffering | .finishing => true
  | .detaching _ | .resettingAfter _ | .clearingAfter _ => true
  | .detachingFeed | .resettingFeed _ | .clearingFeed _ => true
  | .looking _ | .checkingResume _ | .resumingWorker => true
  | _ => false

def waitEpoch : SuperPc β → Option UInt64
  | .parking _ (.checkAcked e) | .parking _ (.checkDetached e)
  | .parking _ (.checkInterrupt e) => some e
  | _ => none

end SuperPc

namespace ParkFor

variable {β : Type}

@[simp] theorem holds_parked (k : ParkFor β) : k.parked.holds = true := by
  cases k <;> rfl

@[simp] theorem waitEpoch_parked (k : ParkFor β) : k.parked.waitEpoch = none := by
  cases k <;> rfl

@[simp] theorem parked_ne_parking (k k' : ParkFor β) (st : ParkStage) : k.parked ≠ .parking k' st := by
  cases k <;> simp [parked]

/-- Where an interrupted park goes: a connect abandons, `disconnect` and
`inspect` return the interruption. -/
theorem interrupted_cases {k : ParkFor β} {p : SuperPc β} {evs : List (Event β)}
    (hk : k.interrupted = some (p, evs)) :
    (∃ attached, p = .abandoning attached .interrupted ∧ evs = []) ∨
      ∃ op, p = .done op (.error .interrupted) ∧ evs = [.returned op (.error .interrupted)] := by
  cases k <;> simp only [interrupted, Option.some.injEq, Prod.mk.injEq, reduceCtorEq] at hk <;>
    obtain ⟨rfl, rfl⟩ := hk <;> simp

theorem interrupted_exits {k : ParkFor β} {p : SuperPc β} {evs : List (Event β)}
    (hk : k.interrupted = some (p, evs)) :
    p.holds = false ∧ p.waitEpoch = none ∧ ∀ k' st, p ≠ .parking k' st := by
  rcases interrupted_cases hk with ⟨attached, rfl, -⟩ | ⟨op, rfl, -⟩ <;>
    simp [SuperPc.holds, SuperPc.waitEpoch]

end ParkFor

namespace Handshake

@[simp] def markPaused (h : Handshake) (paused : Bool) : Handshake := { h with isPaused := paused }

@[simp] def acknowledge (h : Handshake) (epoch : UInt64) : Handshake := { h with acked := epoch }

/-- The supervisor's read-modify-write that opens the next epoch. -/
@[simp] def openEpoch (h : Handshake) : Handshake := { h with epoch := h.epoch + 1 }

@[simp] def markDetached (h : Handshake) : Handshake := { h with detached := true }

end Handshake

namespace Shared

variable {β : Type}

@[simp] def withHandshake (sh : Shared β) (f : Handshake → Handshake) : Shared β :=
  { sh with handshake := f sh.handshake }

end Shared

variable {β : Type} [Book β]

/-- One step of the worker: from `w` over `sh` to `w'` over `sh'`, logging
`events`. -/
inductive WorkerStep : WorkerPc → Shared β → WorkerPc → Shared β → List (Event β) → Prop where
  | resume {sh : Shared β} (hp : sh.handshake.pause = false) :
      WorkerStep .idle sh .resuming sh []
  | notice {sh : Shared β} (hp : sh.handshake.pause = true) :
      WorkerStep .idle sh .noticing sh []
  | unmark {sh : Shared β} (hm : sh.handshake.isPaused = true) :
      WorkerStep .resuming sh .unmarking sh []
  | proceed {sh : Shared β} (hm : sh.handshake.isPaused = false) :
      WorkerStep .resuming sh .reading sh []
  | clearMark {sh : Shared β} :
      WorkerStep .unmarking sh .reading (sh.withHandshake (·.markPaused false)) []
  | loadEpoch {sh : Shared β} :
      WorkerStep .noticing sh (.marking sh.handshake.epoch) sh []
  | mark {sh : Shared β} {e : UInt64} :
      WorkerStep (.marking e) sh (.acking e) (sh.withHandshake (·.markPaused true)) []
  | ack {sh : Shared β} {e : UInt64} :
      WorkerStep (.acking e) sh .idle (sh.withHandshake (·.acknowledge e)) [.worked (.ok 0)]
  | readNothing {sh : Shared β} :
      WorkerStep .reading sh .idle sh [.read (.ok none), .worked (.ok 0)]
  | readFrame {sh : Shared β} (frame : List UInt8) :
      WorkerStep .reading sh (.nextMessage 0) sh [.read (.ok (some frame))]
  | readFail {sh : Shared β} (e : TransportError) :
      WorkerStep .reading sh (.losing e) sh [.read (.error e)]
  | lose {sh : Shared β} {e : TransportError} :
      WorkerStep (.losing e) sh (.pausing e) { sh with connectionLost := true } []
  | pauseAfterLoss {sh : Shared β} {e : TransportError} :
      WorkerStep (.pausing e) sh .idle (sh.withHandshake (·.requestPause))
        [.worked (.error (readFailure e))]
  | frameDone {sh : Shared β} {n : Nat} :
      WorkerStep (.nextMessage n) sh .idle sh [.worked (.ok n)]
  | stamp {sh : Shared β} {n : Nat} (now : UInt64) :
      WorkerStep (.nextMessage n) sh (.decoding n) { sh with lastRecvNanos := now } []
  | offerBuffered {sh : Shared β} {n : Nat} (record : MarketRecord)
      (hb : sh.handshake.buffer = true) :
      WorkerStep (.decoding n) sh (.buffering n)
        { sh with scratch := { record with timestampRecv := sh.lastRecvNanos } }
        [.offered { record with timestampRecv := sh.lastRecvNanos } true]
  | offerLive {sh : Shared β} {n : Nat} (record : MarketRecord)
      (hb : sh.handshake.buffer = false) :
      WorkerStep (.decoding n) sh (.publishing n)
        { sh with scratch := { record with timestampRecv := sh.lastRecvNanos } }
        [.offered { record with timestampRecv := sh.lastRecvNanos } false]
  | buffer {sh : Shared β} {n : Nat} :
      WorkerStep (.buffering n) sh (.decoding n) (sh.bufferRecord sh.scratch) []
  | publish {sh : Shared β} {n : Nat} :
      WorkerStep (.publishing n) sh (.decoding n) (sh.applyRecord sh.scratch).countPublished
        [.published (sh.applyRecord sh.scratch).scratch]
  | publishClosed {sh : Shared β} {n : Nat} :
      WorkerStep (.publishing n) sh .idle (sh.applyRecord sh.scratch)
        [.worked (.error .channelClosed)]
  | progress {sh : Shared β} {n : Nat} :
      WorkerStep (.decoding n) sh (.nextMessage (n + 1)) sh []
  | stall {sh : Shared β} {n : Nat} :
      WorkerStep (.decoding n) sh .idle sh [.worked (.ok n)]
  | decodeFail {sh : Shared β} {n : Nat} (e : ReaderError) :
      WorkerStep (.decoding n) sh .idle sh [.worked (.error e)]
  | drop {sh : Shared β} :
      WorkerStep .idle sh .leaving (sh.withHandshake (·.markPaused true)) []
  | leave {sh : Shared β} :
      WorkerStep .leaving sh .gone (sh.withHandshake (·.markDetached)) []

/-- One step of the supervisor: from `p` over `sh` to `p'` over `sh'`,
logging `events`. -/
inductive SuperStep : SuperPc β → Shared β → SuperPc β → Shared β → List (Event β) → Prop where
  | raisePause {sh : Shared β} {k : ParkFor β} :
      SuperStep (.parking k .raising) sh (.parking k .opening) (sh.withHandshake (·.requestPause)) []
  | openEpoch {sh : Shared β} {k : ParkFor β} :
      SuperStep (.parking k .opening) sh (.parking k (.checkAcked (sh.handshake.epoch + 1)))
        (sh.withHandshake (·.openEpoch)) [.opened]
  | acked {sh : Shared β} {k : ParkFor β} {e : UInt64} (ha : e ≤ sh.handshake.acked) :
      SuperStep (.parking k (.checkAcked e)) sh k.parked sh []
  | notAcked {sh : Shared β} {k : ParkFor β} {e : UInt64} (ha : sh.handshake.acked < e) :
      SuperStep (.parking k (.checkAcked e)) sh (.parking k (.checkDetached e)) sh []
  | workerGone {sh : Shared β} {k : ParkFor β} {e : UInt64} (hd : sh.handshake.detached = true) :
      SuperStep (.parking k (.checkDetached e)) sh k.parked sh []
  | workerHere {sh : Shared β} {k : ParkFor β} {e : UInt64} (hd : sh.handshake.detached = false) :
      SuperStep (.parking k (.checkDetached e)) sh (.parking k (.checkInterrupt e)) sh []
  | snooze {sh : Shared β} {k : ParkFor β} {e : UInt64} :
      SuperStep (.parking k (.checkInterrupt e)) sh (.parking k (.checkAcked e)) sh []
  | interrupted {sh : Shared β} {k : ParkFor β} {e : UInt64} {p : SuperPc β} {evs : List (Event β)}
      (hk : k.interrupted = some (p, evs)) :
      SuperStep (.parking k (.checkInterrupt e)) sh p sh evs
  | callConnect {sh : Shared β} {p : SuperPc β} (hr : p.ready = true) :
      SuperStep p sh (.parking .attach .raising) (sh.withHandshake (·.setBuffering true))
        [.call .connect]
  | attachOk {sh : Shared β} :
      SuperStep .attaching sh .resetting sh [.attached (.ok ())]
  | attachFail {sh : Shared β} (e : TransportError) :
      SuperStep .attaching sh (.abandoning false (.transport e)) sh [.attached (.error e)]
  | resetBook {sh : Shared β} :
      SuperStep .resetting sh .resettingScratch { sh with book := Book.reset sh.book }
        [.reset (Book.reset sh.book)]
  | resetScratch {sh : Shared β} :
      SuperStep .resettingScratch sh .clearingQueue { sh with scratch := sh.scratch.reset } []
  | clearQueue {sh : Shared β} :
      SuperStep .clearingQueue sh .clearingOverflow { sh with replay := sh.replay.clear } []
  | clearOverflow {sh : Shared β} :
      SuperStep .clearingOverflow sh .clearingLost { sh with overflowed := false } []
  | clearLost {sh : Shared β} :
      SuperStep .clearingLost sh .releasing { sh with connectionLost := false } []
  | releaseForSnapshot {sh : Shared β} :
      SuperStep .releasing sh .fetching (sh.withHandshake (·.release)) [.released]
  | fetchOk {sh : Shared β} (snapshot : Option β) :
      SuperStep .fetching sh (.parking (.synchronize snapshot) .raising) sh [.fetched (.ok snapshot)]
  | fetchFail {sh : Shared β} (e : TransportError) :
      SuperStep .fetching sh (.abandoning true (.transport e)) sh [.fetched (.error e)]
  | lostFound {sh : Shared β} {snapshot : Option β} (hl : sh.connectionLost = true) :
      SuperStep (.checkingLost snapshot) sh .discardingLost sh []
  | notLost {sh : Shared β} {snapshot : Option β} (hl : sh.connectionLost = false) :
      SuperStep (.checkingLost snapshot) sh (.checkingOverflow snapshot) sh []
  | discardLost {sh : Shared β} :
      SuperStep .discardingLost sh (.abandoning true .connectionLost)
        { sh with replay := sh.replay.clear } []
  | overflowFound {sh : Shared β} {snapshot : Option β} (ho : sh.overflowed = true) :
      SuperStep (.checkingOverflow snapshot) sh .discardingOverflow sh []
  | notOverflowed {sh : Shared β} {snapshot : Option β} (ho : sh.overflowed = false) :
      SuperStep (.checkingOverflow snapshot) sh (.installing snapshot) sh []
  | discardOverflow {sh : Shared β} :
      SuperStep .discardingOverflow sh (.abandoning true (.replayOverflow sh.replay.capacity))
        { sh with replay := sh.replay.clear } []
  | install {sh : Shared β} {snapshot : Option β} :
      SuperStep (.installing snapshot) sh (.draining snapshot) (sh.install snapshot) []
  | drain {sh : Shared β} {snapshot : Option β} :
      SuperStep (.draining snapshot) sh .unbuffering
        (sh.drain (snapshot.map Book.sequenceNumber))
        [.drained (snapshot.map Book.sequenceNumber) sh.replay.records]
  | unbuffer {sh : Shared β} :
      SuperStep .unbuffering sh .finishing (sh.withHandshake (·.setBuffering false)) [.unbuffered]
  | finish {sh : Shared β} :
      SuperStep .finishing sh (.done .connect (.ok ())) (sh.withHandshake (·.release))
        [.released, .returned .connect (.ok ())]
  | abandonAttached {sh : Shared β} {e : ReaderError} :
      SuperStep (.abandoning true e) sh (.parking (.teardown e) .raising)
        (sh.withHandshake (·.setBuffering true)) []
  | abandonDetached {sh : Shared β} {e : ReaderError} :
      SuperStep (.abandoning false e) sh (.pausingAfter e) (sh.withHandshake (·.setBuffering true)) []
  | pauseAfterFailure {sh : Shared β} {e : ReaderError} :
      SuperStep (.pausingAfter e) sh (.done .connect (.error e)) (sh.withHandshake (·.requestPause))
        [.returned .connect (.error e)]
  | detachAfterFailure {sh : Shared β} {e : ReaderError} (result : Except TransportError Unit) :
      SuperStep (.detaching e) sh (.resettingAfter e) sh [.detached result sh.handshake.state]
  | resetAfterFailure {sh : Shared β} {e : ReaderError} :
      SuperStep (.resettingAfter e) sh (.clearingAfter e) { sh with book := Book.reset sh.book } []
  | clearAfterFailure {sh : Shared β} {e : ReaderError} :
      SuperStep (.clearingAfter e) sh (.done .connect (.error e)) { sh with replay := sh.replay.clear }
        [.returned .connect (.error e)]
  | callDisconnect {sh : Shared β} {p : SuperPc β} (hr : p.ready = true) :
      SuperStep p sh (.parking .disconnect .raising) (sh.withHandshake (·.setBuffering true))
        [.call .disconnect]
  | detachFeed {sh : Shared β} (result : Except TransportError Unit) :
      SuperStep .detachingFeed sh (.resettingFeed result) sh [.detached result sh.handshake.state]
  | resetFeed {sh : Shared β} {result : Except TransportError Unit} :
      SuperStep (.resettingFeed result) sh (.clearingFeed result) { sh with book := Book.reset sh.book } []
  | clearFeed {sh : Shared β} {result : Except TransportError Unit} :
      SuperStep (.clearingFeed result) sh (.done .disconnect (result.mapError .transport))
        { sh with replay := sh.replay.clear } [.returned .disconnect (result.mapError .transport)]
  | callInspect {sh : Shared β} {p : SuperPc β} (hr : p.ready = true) :
      SuperStep p sh (.parking (.inspect sh.handshake.pause) .raising) sh [.call .inspect]
  | look {sh : Shared β} {wasParked : Bool} :
      SuperStep (.looking wasParked) sh (.checkingResume wasParked) sh [.inspected sh.book]
  | stayParked {sh : Shared β} :
      SuperStep (.checkingResume true) sh (.done .inspect (.ok ())) sh [.returned .inspect (.ok ())]
  | stayLost {sh : Shared β} (hl : sh.connectionLost = true) :
      SuperStep (.checkingResume false) sh (.done .inspect (.ok ())) sh [.returned .inspect (.ok ())]
  | resumeLive {sh : Shared β} (hl : sh.connectionLost = false) :
      SuperStep (.checkingResume false) sh .resumingWorker sh []
  | resumeWorker {sh : Shared β} :
      SuperStep .resumingWorker sh (.done .inspect (.ok ())) (sh.withHandshake (·.release))
        [.released, .returned .inspect (.ok ())]

/-- The two threads over their shared state, and the log so far. -/
structure Sys (β : Type) where
  shared : Shared β
  worker : WorkerPc
  super : SuperPc β
  log : List (Event β)

namespace Sys

/-- A reader as built: both threads between steps, nothing logged. -/
def init (sh : Shared β) : Sys β := ⟨sh, .idle, .idle, []⟩

def parks (s : Sys β) : Nat := s.log.countP Event.isOpened

/-- One step of either thread. -/
inductive Step : Sys β → Sys β → Prop where
  | worker {s : Sys β} {w : WorkerPc} {sh : Shared β} {evs : List (Event β)}
      (h : WorkerStep s.worker s.shared w sh evs) : Step s ⟨sh, w, s.super, s.log ++ evs⟩
  | super {s : Sys β} {p : SuperPc β} {sh : Shared β} {evs : List (Event β)}
      (h : SuperStep s.super s.shared p sh evs) : Step s ⟨sh, s.worker, p, s.log ++ evs⟩

/-- The states some run reaches from a reader built over `book` with a replay
queue of `capacity`. -/
inductive Reachable : Sys β → Prop where
  | init (book : β) (capacity : Nat) : Reachable (init (Shared.new book capacity))
  | step {s t : Sys β} : Reachable s → Step s t → Reachable t

theorem Reachable.worker {s : Sys β} {w : WorkerPc} {sh : Shared β} {evs : List (Event β)}
    (hs : s.Reachable) (h : WorkerStep s.worker s.shared w sh evs) :
    (⟨sh, w, s.super, s.log ++ evs⟩ : Sys β).Reachable :=
  .step hs (.worker h)

theorem Reachable.super {s : Sys β} {p : SuperPc β} {sh : Shared β} {evs : List (Event β)}
    (hs : s.Reachable) (h : SuperStep s.super s.shared p sh evs) :
    (⟨sh, s.worker, p, s.log ++ evs⟩ : Sys β).Reachable :=
  .step hs (.super h)

end Sys

end DepthFeed
