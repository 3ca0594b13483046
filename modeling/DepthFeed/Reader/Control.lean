import DepthFeed.Reader.Worker
import DepthFeed.Gateway.Controller

/-!
# The supervisor's half of the reader

A `Session` holds the shared reader; whenever the supervisor waits, for a
park or for the feed to drain, the worker takes duty cycles until the wait is
over, unless the caller's interrupt is raised. A connect parks the worker,
attaches and resets, buffers while the snapshot is fetched, parks again,
installs the snapshot and replays what is not older; a connect that fails
after attaching detaches again and leaves the worker parked.
-/

namespace DepthFeed

/-- Who calls the worker's duty cycles: its owner, directly, looking only at
the results, or an agent runner, in a loop that stops on a fatal error. -/
inductive WorkerHost where
  | direct
  | runner
  deriving DecidableEq, Repr

/-- Where a connect gets its snapshot from: nowhere, the book starting empty
without a wait; or, once the feed is drained, a book (or none), a failure
with a text, or a dropped connection followed, once the feed has detached,
by a book (or none). -/
inductive SnapshotPlan (β : Type) where
  | none
  | afterDrain (book : Option β)
  | fail (message : String)
  | dropDuring (book : Option β)

/-- The reader as the supervisor and the worker share it. -/
structure Session (β : Type) where
  reader : Reader β
  host : WorkerHost
  snapshots : SnapshotPlan β
  /-- Whether the worker takes turns while the supervisor waits. -/
  driven : Bool
  /-- The worker's results during supervisor waits, other than idle cycles. -/
  log : List (Except ReaderError Nat)
  /-- How the worker's runner ended, once it did. -/
  exit : Option (Except ReaderError Unit)

/-- The supervisor's computations: they fail with a reader error, keeping
every change made before the failure. -/
abbrev Supervisor (β : Type) := ExceptT ReaderError (StateM (Session β))

namespace Session

variable {β : Type} [Book β]

def new (reader : Reader β) (host : WorkerHost) (snapshots : SnapshotPlan β) : Session β :=
  ⟨reader, host, snapshots, true, [], none⟩

def withReader (s : Session β) (f : Reader β → Reader β) : Session β := { s with reader := f s.reader }

def withFeed (s : Session β) (f : ScriptedFeed → ScriptedFeed) : Session β :=
  s.withReader fun r => { r with feed := f r.feed }

/-- The worker's runner ends with `result`, dropping the worker. -/
def finish (s : Session β) (result : Except ReaderError Unit) : Session β :=
  { s with reader := s.reader.dropWorker, exit := some result }

/-- One duty cycle of a live worker: a non-idle result is logged, and under a
runner a fatal error ends the worker. -/
def turn (s : Session β) : Session β :=
  if !s.reader.workerAlive then s else
  let (res, r) := s.reader.doWork
  let s := { s with reader := r }
  match res with
  | .ok 0 => s
  | .ok n => { s with log := s.log ++ [Except.ok n] }
  | .error e =>
    let s := { s with log := s.log ++ [Except.error e] }
    match s.host with
    | .runner => if e.isFatal then s.finish (.error e) else s
    | .direct => s

@[simp] theorem turn_of_workerAlive_eq_false (s : Session β) (h : s.reader.workerAlive = false) :
    s.turn = s := by
  simp [turn, h]

/-- Gives the worker turns until `done` holds, if `driven`; whether it holds. -/
def waitLoop (done : Reader β → Bool) (driven : Bool) : Nat → Session β → Bool × Session β
  | 0, s => (done s.reader, s)
  | fuel + 1, s =>
    if done s.reader then (true, s)
    else if driven && s.reader.workerAlive then waitLoop done driven fuel s.turn
    else (false, s)

/-- Turns enough for any wait: one per queued frame and a few more. -/
def waitFuel (s : Session β) : Nat := s.reader.feed.frames.length + 4

/-- Direct duty cycles: one, then more while each consumed a queued frame and
frames remain; every result. -/
def pumpLoop : Nat → Session β → List (Except ReaderError Nat) × Session β
  | 0, s => ([], s)
  | fuel + 1, s =>
    if !s.reader.workerAlive then ([], s) else
    let before := s.reader.feed.frames.length
    let (res, r) := s.reader.doWork
    let s := { s with reader := r }
    if r.feed.frames.length < before && !r.feed.frames.isEmpty then
      let (rest, s) := pumpLoop fuel s
      (res :: rest, s)
    else ([res], s)

def pump (s : Session β) : List (Except ReaderError Nat) × Session β := pumpLoop (s.waitFuel) s

/-- Direct duty cycles of a live worker, at most `n` more, the results so far
in `done`, latest first. -/
def workLoop : Nat → Session β → List (Except ReaderError Nat) → List (Except ReaderError Nat) × Session β
  | 0, s, done => (done.reverse, s)
  | n + 1, s, done =>
    if !s.reader.workerAlive then (done.reverse, s) else
    let (res, r) := s.reader.doWork
    workLoop n { s with reader := r } (res :: done)

/-- Exactly `n` direct duty cycles of a live worker; every result. -/
def work (n : Nat) (s : Session β) : List (Except ReaderError Nat) × Session β := workLoop n s []

/-- Gives the worker turns until it has finished, is parked, or has emptied
the feed and read twice more; `reads` counts the reads so far. -/
def settleLoop : Nat → Nat → Session β → Session β
  | 0, _, s => s
  | fuel + 1, reads, s =>
    if !s.reader.workerAlive || s.reader.state = .parked ||
        (s.reader.feed.frames.isEmpty && 2 ≤ reads) then s
    else
      let before := s.reader.feed.readsSinceAttach
      let s := s.turn
      settleLoop fuel (if s.reader.feed.readsSinceAttach = before then reads else reads + 1) s

def settle (s : Session β) : Session β := settleLoop (2 * s.waitFuel) 0 s

end Session

namespace Book

variable {β : Type} [Book β]

/-- Applies the buffered records not older than `floor` to a book: the book,
and how many were replayed and discarded. -/
def replayRecords (floor : Option UInt64) (book : β) (records : List MarketRecord) : β × Nat × Nat :=
  records.foldl (fun (acc : β × Nat × Nat) record =>
    if floor.all fun f => f.toNat ≤ record.sequence.toNat then
      ((Book.updateFrom acc.1 record).2, acc.2.1 + 1, acc.2.2)
    else (acc.1, acc.2.1, acc.2.2 + 1)) (book, 0, 0)

end Book

namespace Shared

variable {β : Type} [Book β]

/-- Installs the snapshot, when there is one, as the book's contents. -/
def install (sh : Shared β) (snapshot : Option β) : Shared β :=
  match snapshot with
  | some b => { sh with book := Book.copyFrom sh.book b }
  | none => sh

/-- Empties the replay queue into the book, applying the records not older
than `floor` in order and discarding the rest, and counts the connect. -/
def drain (sh : Shared β) (floor : Option UInt64) : Shared β :=
  let (book, replayed, discarded) := Book.replayRecords floor sh.book sh.replay.records
  { sh with
    book := book
    replay := sh.replay.clear
    stats := { sh.stats with
      replayed := sh.stats.replayed + UInt64.ofNat replayed
      discarded := sh.stats.discarded + UInt64.ofNat discarded
      connects := sh.stats.connects + 1 } }

@[simp] theorem install_eq (sh : Shared β) (snapshot : Option β) :
    sh.install snapshot = { sh with book := snapshot.elim sh.book (Book.copyFrom sh.book) } := by
  cases snapshot <;> rfl

@[simp] theorem drain_eq (sh : Shared β) (floor : Option UInt64) :
    sh.drain floor =
      { sh with
        book := (Book.replayRecords floor sh.book sh.replay.records).1
        replay := sh.replay.clear
        stats := { sh.stats with
          replayed := sh.stats.replayed + UInt64.ofNat (Book.replayRecords floor sh.book sh.replay.records).2.1
          discarded := sh.stats.discarded + UInt64.ofNat (Book.replayRecords floor sh.book sh.replay.records).2.2
          connects := sh.stats.connects + 1 } } := rfl

end Shared

namespace Supervisor

variable {β : Type} [Book β]

def reader : Supervisor β (Reader β) := return (← get).reader

def setReader (r : Reader β) : Supervisor β Unit := modify fun s => { s with reader := r }

def modifyReader (f : Reader β → Reader β) : Supervisor β Unit := modify fun s => { s with reader := f s.reader }

/-- Waits until `done` holds; the worker takes turns unless the caller's
interrupt is raised. Whether `done` came to hold. -/
def await (raised : Bool) (done : Reader β → Bool) : Supervisor β Bool := do
  let s ← get
  let (ok, s) := Session.waitLoop done (s.driven && !raised) s.waitFuel s
  set s
  pure ok

/-- Parks the worker: requests a park and waits for its acknowledgement. -/
def park (raised : Bool) : Supervisor β Unit := do
  modifyReader fun r => { r with handshake := r.handshake.requestPark }
  unless (← await raised (·.handshake.parkSatisfied)) do throw .interrupted

/-- Whether the worker has read since the attach and emptied the feed, or the
feed is detached, or the worker is gone. -/
def drained (r : Reader β) : Bool :=
  !r.workerAlive || (decide (0 < r.feed.readsSinceAttach) && (r.feed.frames.isEmpty || !r.feed.attached))

def detached (r : Reader β) : Bool := !r.workerAlive || !r.feed.attached

/-- The scripted snapshot source's safety timeout, in its own words: the
source gives up on a wait that no number of the worker's turns ends. -/
def snapshotTimeout : ReaderError := .transport (.protocol "snapshot wait timed out")

/-- The scripted snapshot source's wait for a drained feed. -/
def awaitDrained (raised : Bool) : Supervisor β Unit := do
  if raised then throw (.transport .interrupted)
  unless (← await false drained) do throw snapshotTimeout

def fetchSnapshot (raised : Bool) : Supervisor β (Option β) := do
  match (← get).snapshots with
  | .none => pure none
  | .afterDrain b => do awaitDrained raised; pure b
  | .fail m => do awaitDrained raised; throw (.transport (.protocol m))
  | .dropDuring b => do
    awaitDrained raised
    modifyReader fun r => { r with feed := { r.feed with dropPending := true } }
    unless (← await false detached) do throw snapshotTimeout
    pure b

/-- Parks the worker, attaches the feed and resets the book and scratch record. -/
def attachFeed (raised : Bool) : Supervisor β Unit := do
  modifyReader fun r => { r with handshake := r.handshake.setBuffering true }
  park raised
  let r ← reader
  let (res, feed) := r.feed.attach
  setReader { r with feed := feed }
  match res with
  | .error e => throw (.transport e)
  | .ok () => modifyReader fun r => { r with book := Book.reset r.book, scratch := r.scratch.reset }

/-- The second half of a connect: buffer while the snapshot is fetched, park,
install the snapshot, replay, and go live. -/
def synchronize (raised : Bool) : Supervisor β Unit := do
  modifyReader fun r => { r with
    replay := r.replay.clear
    overflowed := false
    connectionLost := false
    handshake := r.handshake.release }
  let snapshot ← fetchSnapshot raised
  park raised
  let r ← reader
  if r.connectionLost then
    setReader { r with replay := r.replay.clear }
    throw .connectionLost
  if r.overflowed then
    setReader { r with replay := r.replay.clear }
    throw (.replayOverflow r.replay.capacity)
  let sh := (r.install snapshot).drain (snapshot.map Book.sequenceNumber)
  setReader { r with toShared := { sh with handshake := (sh.handshake.setBuffering false).release } }

/-- Cleans up after a failed connect, leaving the worker parked: detaches the
feed and resets the book when it was attached. -/
def abandon (attached : Bool) : Supervisor β Unit := do
  modifyReader fun r => { r with handshake := r.handshake.setBuffering true }
  if attached then
    let parked ← tryCatch (do park false; pure true) fun _ => pure false
    if parked then
      let r ← reader
      let (_, feed) := r.feed.detach
      setReader { r with feed := feed, book := Book.reset r.book, replay := r.replay.clear }
  else
    modifyReader fun r => { r with handshake := r.handshake.requestPause }

/-- Connects the reader to its feed without losing a record. -/
def connect (raised : Bool) : Supervisor β Unit := do
  tryCatch (attachFeed raised) fun e => do abandon false; throw e
  tryCatch (synchronize raised) fun e => do abandon true; throw e

/-- Parks the worker and detaches the feed, resetting the book either way. -/
def disconnect (raised : Bool) : Supervisor β Unit := do
  modifyReader fun r => { r with handshake := r.handshake.setBuffering true }
  park raised
  let r ← reader
  let (res, feed) := r.feed.detach
  setReader { r with feed := feed, book := Book.reset r.book, replay := r.replay.clear }
  match res with
  | .ok () => pure ()
  | .error e => throw (.transport e)

/-- Looks at the book with the worker parked, releasing it afterwards unless
it was parked before or the connection is lost. -/
def inspect {α : Type} (raised : Bool) (f : β → α) : Supervisor β α := do
  let wasParked := (← reader).handshake.pause
  park raised
  let r ← reader
  if !wasParked && !r.connectionLost then setReader { r with handshake := r.handshake.release }
  pure (f r.book)

def run {α : Type} (m : Supervisor β α) (s : Session β) : Except ReaderError α × Session β :=
  StateT.run (ExceptT.run m) s

omit [Book β] in
theorem run_bind {α γ : Type} (m : Supervisor β α) (f : α → Supervisor β γ) (s : Session β) :
    run (m >>= f) s = match run m s with
      | (.ok a, s') => run (f a) s'
      | (.error e, s') => (.error e, s') := by
  simp only [run, bind, ExceptT.bind, ExceptT.run, ExceptT.mk, StateT.run, StateT.bind]
  rcases m s with ⟨_ | _, s'⟩ <;> rfl

omit [Book β] in
theorem run_modifyReader (f : Reader β → Reader β) (s : Session β) :
    run (modifyReader f) s = (.ok (), s.withReader f) := rfl

theorem run_await (raised : Bool) (done : Reader β → Bool) (s : Session β) :
    run (await raised done) s =
      (.ok (Session.waitLoop done (s.driven && !raised) s.waitFuel s).1,
        (Session.waitLoop done (s.driven && !raised) s.waitFuel s).2) := rfl

def requested (s : Session β) : Session β :=
  s.withReader fun r => { r with handshake := r.handshake.requestPark }

theorem run_park (raised : Bool) (s : Session β) :
    (run (park raised) s).1 =
      if (Session.waitLoop (·.handshake.parkSatisfied) (s.driven && !raised)
          (requested s).waitFuel (requested s)).1
      then .ok () else .error .interrupted := by
  rw [park, run_bind, run_modifyReader]
  dsimp only
  rw [run_bind, run_await]
  dsimp only
  split
  · next h => exact (if_pos h).symm
  · next h => exact (if_neg h).symm

/-- An interrupted park gives the worker no turn: it succeeds exactly when its
request is satisfied at once. -/
theorem run_park_raised (s : Session β) :
    (run (park true) s).1 =
      if s.reader.handshake.requestPark.parkSatisfied then .ok () else .error .interrupted := by
  rw [run_park]
  by_cases h : s.reader.handshake.requestPark.parkSatisfied <;>
    simp [h, Session.waitFuel, Session.waitLoop, requested, Session.withReader]

theorem turn_of_pause (s : Session β) (ha : s.reader.workerAlive = true)
    (hp : s.reader.handshake.pause = true) :
    s.turn = s.withReader fun r => { r with handshake := r.handshake.workerShouldPark.2 } := by
  simp [Session.turn, ha, Reader.doWork_of_pause _ hp, Session.withReader]

/-- A park whose caller is not interrupted, with the worker taking turns,
always succeeds: a live worker acknowledges the request at its next turn and
a gone one satisfies every park, so the wait never runs out of turns. -/
theorem run_park_of_driven (s : Session β) (hd : s.driven = true)
    (hw : s.reader.workerAlive = true ∨ s.reader.handshake.detached = true) :
    (run (park false) s).1 = .ok () := by
  have hwait : (Session.waitLoop (·.handshake.parkSatisfied) true
      ((requested s).reader.feed.frames.length + 2 + 2) (requested s)).1 = true := by
    simp only [Session.waitLoop]
    split
    · rfl
    · next hsat =>
      rcases hw with ha | hdet
      · -- the worker's next turn acknowledges the new epoch
        have ha' : (requested s).reader.workerAlive = true := ha
        rw [if_pos (by simp [ha']), turn_of_pause _ ha' rfl]
        simp [requested, Session.withReader, Handshake.parkSatisfied_requestPark_workerShouldPark]
      · exact absurd (by simp [requested, Session.withReader, Handshake.parkSatisfied,
          Handshake.requestPark, hdet]) hsat
  rw [run_park, hd]
  exact if_pos hwait

end Supervisor

/-- The reader as a connector: each attempt is a connect, which never times
out; a raised caller interrupt cuts every wait and sleep short. No time passes
in a backoff, and the clock reads zero. -/
def Session.connector {β : Type} [Book β] (raised : Bool) : Connector (Session β) where
  attempt s :=
    match Supervisor.run (Supervisor.connect raised) s with
    | (.ok (), s) => (.ok (), s)
    | (.error e, s) => (.error (.failed e), s)
  callerRaised _ := raised
  sleep s _ := (!raised, s)
  uptime _ := Duration.zero

end DepthFeed
