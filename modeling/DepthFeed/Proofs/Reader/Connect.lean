import DepthFeed.Proofs.Reader.Rounds

/-!
# A connect that succeeds loses and repeats no update

The invariant `Synchronizes` follows the connect's success path stage by
stage. While the worker runs between the two parks, the replay queue and the
record an offer holds back add up to the records offered since the first
hand-back, unless the queue overflowed; the buffer flag is raised all along,
so nothing is published and the book stays as reset.
-/

namespace DepthFeed

variable {β : Type}

def Event.offeredRecord : Event β → Option MarketRecord
  | .offered r _ => some r
  | _ => none

/-- The records offered in a stretch of the log, in order. -/
def offers (log : List (Event β)) : List MarketRecord :=
  log.filterMap Event.offeredRecord

@[simp] theorem offers_nil : offers ([] : List (Event β)) = [] := rfl

@[simp] theorem offers_append (l l' : List (Event β)) : offers (l ++ l') = offers l ++ offers l' := by
  simp [offers]

/-- The record an offer has put in the scratch record and not yet pushed. -/
def WorkerPc.pending (w : WorkerPc) (scratch : MarketRecord) : List MarketRecord :=
  match w with
  | .buffering _ => [scratch]
  | _ => []

theorem WorkerPc.pending_of_owns_eq_false {w : WorkerPc} (h : w.owns = false)
    (scratch : MarketRecord) : w.pending scratch = [] := by
  cases w <;> simp_all [owns, pending]

/-- A connect's events from its first hand-back on, with the book reset to
`b₀` before it. -/
def AfterRelease (seg : List (Event β)) (b₀ : β) (window : List (Event β)) : Prop :=
  ∃ before, seg = before ++ .released :: window ∧ .reset b₀ ∈ before ∧ .released ∉ before

theorem AfterRelease.append {seg window evs : List (Event β)} {b₀ : β}
    (h : AfterRelease seg b₀ window) : AfterRelease (seg ++ evs) b₀ (window ++ evs) := by
  obtain ⟨before, rfl, hreset, hfirst⟩ := h
  exact ⟨before, by simp, hreset, hfirst⟩

theorem AfterRelease.append_after {seg window post evs : List (Event β)} {b₀ : β} {x : Event β}
    (h : AfterRelease seg b₀ (window ++ x :: post)) :
    AfterRelease (seg ++ evs) b₀ (window ++ x :: (post ++ evs)) := by
  obtain ⟨before, rfl, hreset, hfirst⟩ := h
  exact ⟨before, by simp, hreset, hfirst⟩

/-- The snapshot a connect's second park and the stages after it hold. -/
def ParkFor.snapshot? : ParkFor β → Option (Option β)
  | .synchronize S => some S
  | _ => none

def ParkFor.attaches : ParkFor β → Bool
  | .attach => true
  | _ => false

namespace SuperPc

/-- A connect before its first hand-back, up to the book's reset. -/
def beforeReset : SuperPc β → Bool
  | .parking k _ => k.attaches
  | .attaching | .resetting => true
  | _ => false

/-- After the book's reset and before the first hand-back. -/
def resetDone : SuperPc β → Bool
  | .resettingScratch | .clearingQueue | .clearingOverflow | .clearingLost | .releasing => true
  | _ => false

def queueCleared : SuperPc β → Bool
  | .clearingOverflow | .clearingLost | .releasing => true
  | _ => false

def overflowCleared : SuperPc β → Bool
  | .clearingLost | .releasing => true
  | _ => false

/-- From the first hand-back to the snapshot's install: the worker buffers. -/
def windowOpen : SuperPc β → Bool
  | .fetching | .checkingLost _ | .checkingOverflow _ | .installing _ => true
  | .parking k _ => k.snapshot?.isSome
  | _ => false

def snapshot? : SuperPc β → Option (Option β)
  | .parking k _ => k.snapshot?
  | .checkingLost S | .checkingOverflow S | .installing S | .draining S => some S
  | _ => none

/-- After the drain, up to the return and until the next call. -/
def replayDone : SuperPc β → Bool
  | .unbuffering | .finishing | .done .connect (.ok ()) => true
  | _ => false

end SuperPc

namespace ParkFor

@[simp] theorem beforeReset_parked (k : ParkFor β) : k.parked.beforeReset = k.attaches := by
  cases k <;> rfl

@[simp] theorem resetDone_parked (k : ParkFor β) : k.parked.resetDone = false := by
  cases k <;> rfl

@[simp] theorem windowOpen_parked (k : ParkFor β) : k.parked.windowOpen = k.snapshot?.isSome := by
  cases k <;> rfl

@[simp] theorem snapshot?_parked (k : ParkFor β) : k.parked.snapshot? = k.snapshot? := by
  cases k <;> rfl

@[simp] theorem replayDone_parked (k : ParkFor β) : k.parked.replayDone = false := by
  cases k <;> rfl

@[simp] theorem parked_ne_installing (k : ParkFor β) (S : Option β) : k.parked ≠ .installing S := by
  cases k <;> simp [parked]

@[simp] theorem parked_ne_draining (k : ParkFor β) (S : Option β) : k.parked ≠ .draining S := by
  cases k <;> simp [parked]

end ParkFor

namespace SuperPc

variable {p : SuperPc β}

theorem holds_of_resetDone (h : p.resetDone = true) : p.holds = true := by
  cases p <;> simp_all [resetDone, holds]

theorem resetDone_of_queueCleared (h : p.queueCleared = true) : p.resetDone = true := by
  cases p <;> simp_all [queueCleared, resetDone]

theorem resetDone_of_overflowCleared (h : p.overflowCleared = true) : p.resetDone = true := by
  cases p <;> simp_all [overflowCleared, resetDone]

theorem holds_of_replayDone (h : p.replayDone = true) (hne : p ≠ .done .connect (.ok ())) :
    p.holds = true := by
  cases p <;> simp_all [replayDone, holds]

theorem connecting_of_windowOpen (h : p.windowOpen = true) : p.connecting = true := by
  cases p with
  | parking k st => cases k <;> simp_all [windowOpen, connecting, ParkFor.snapshot?, ParkFor.connecting]
  | _ => simp_all [windowOpen, connecting]

end SuperPc

theorem Shared.bufferRecord_records {sh : Shared β} {record : MarketRecord}
    (ho : (sh.bufferRecord record).overflowed = false) :
    sh.overflowed = false ∧ (sh.bufferRecord record).replay.records = sh.replay.records ++ [record] := by
  unfold Shared.bufferRecord at ho ⊢
  cases hp : sh.replay.push record with
  | some q =>
    simp only [hp] at ho ⊢
    exact ⟨ho, (ReplayQueue.records_push hp).1⟩
  | none =>
    cases hov : sh.overflowed <;> simp [hp, hov] at ho

/-- A log that ends with `x` still does after events that are not `x` only
if there were none. -/
theorem append_eq_append_singleton {α : Type} {seg evs pre : List α} {x : α}
    (h : seg ++ evs = pre ++ [x]) (hx : x ∉ evs) : evs = [] ∧ seg = pre ++ [x] := by
  rcases List.eq_nil_or_concat evs with rfl | ⟨evs', y, rfl⟩
  · simpa using h
  · rw [List.concat_eq_append, ← List.append_assoc] at h
    obtain ⟨-, hy⟩ := List.append_inj' h rfl
    simp at hy
    simp [hy] at hx

theorem Shared.fields_eq_of_handshake {sh sh' : Shared β}
    (h : { sh' with handshake := sh.handshake } = sh) :
    sh'.book = sh.book ∧ sh'.replay = sh.replay ∧ sh'.overflowed = sh.overflowed ∧
      sh'.scratch = sh.scratch := by
  rw [← h]
  exact ⟨rfl, rfl, rfl, rfl⟩

theorem bufferFlag_append_of_clear {log later : List (Event β)} (h : bufferFlag log = false)
    (hc : .call .connect ∉ later) (hd : .call .disconnect ∉ later) :
    bufferFlag (log ++ later) = false := by
  induction later generalizing log with
  | nil => simpa using h
  | cons ev rest ih =>
    have hev : bufferFlag (log ++ [ev]) = false := by
      rw [bufferFlag_append, List.foldl_cons, List.foldl_nil, h]
      cases ev with
      | call op => cases op <;> simp_all [Event.bufferAfter]
      | _ => rfl
    rw [show log ++ ev :: rest = (log ++ [ev]) ++ rest by simp]
    exact ih hev (fun hm => hc (by simp [hm])) (fun hm => hd (by simp [hm]))

theorem offered_mem_offers {evs : List (Event β)} {r : MarketRecord} {b : Bool}
    (h : .offered r b ∈ evs) : r ∈ offers evs := by
  simp only [offers, List.mem_filterMap]
  exact ⟨_, h, rfl⟩

variable [Book β]

namespace WorkerStep

variable {w w' : WorkerPc} {sh sh' : Shared β} {evs : List (Event β)}

theorem book_eq (h : WorkerStep w sh w' sh' evs) (hw : ∀ n, w ≠ .publishing n) :
    sh'.book = sh.book := by
  cases h <;> simp_all

theorem published_not_mem (h : WorkerStep w sh w' sh' evs) (hw : ∀ n, w ≠ .publishing n)
    (r : MarketRecord) : .published r ∉ evs := by
  cases h <;> simp_all

theorem not_publishing (h : WorkerStep w sh w' sh' evs) (hw : ∀ n, w ≠ .publishing n)
    (hb : sh.handshake.buffer = true) : ∀ n, w' ≠ .publishing n := by
  cases h <;> simp_all

/-- What the queue and a held-back record add up to grows by what is
offered, while the flag is raised and no push is refused. -/
theorem queue_step (h : WorkerStep w sh w' sh' evs) (hb : sh.handshake.buffer = true)
    (ho : sh'.overflowed = false) :
    sh.overflowed = false ∧
      sh'.replay.records ++ w'.pending sh'.scratch = sh.replay.records ++ w.pending sh.scratch ++ offers evs := by
  cases h with
  | buffer =>
    obtain ⟨hold, hrecords⟩ := Shared.bufferRecord_records ho
    refine ⟨hold, ?_⟩
    rw [hrecords]
    simp [WorkerPc.pending]
  | offerLive _ hb' => simp [hb] at hb'
  | _ => simp_all [WorkerPc.pending, offers, Event.offeredRecord]

theorem offers_eq_nil (h : WorkerStep w sh w' sh' evs) (ho : w.owns = false) : offers evs = [] := by
  cases h <;> simp_all [WorkerPc.owns, offers, Event.offeredRecord]

theorem silent_of_outside (h : WorkerStep w sh w' sh' evs) (ho : w.owns = false) (he : evs = []) :
    w'.owns = false ∨ w' = .reading := by
  cases h <;> simp_all [WorkerPc.owns]

theorem logs_of_reading (h : WorkerStep w sh w' sh' evs) (hw : w = .reading) : evs ≠ [] := by
  cases h <;> simp_all

/-- A log that ended with a connect's return still does after a worker step
only if the step logged nothing. -/
theorem silent_of_returned (h : WorkerStep w sh w' sh' evs) {seg pre : List (Event β)}
    (hend : seg ++ evs = pre ++ [.returned .connect (.ok ())]) :
    evs = [] ∧ seg = pre ++ [.returned .connect (.ok ())] :=
  append_eq_append_singleton hend fun hm => by simpa [Event.byWorker] using h.byWorker _ hm

end WorkerStep

namespace SuperStep

variable {p p' : SuperPc β} {sh sh' : Shared β} {evs : List (Event β)}

theorem into_beforeReset (h : SuperStep p sh p' sh' evs) (hp' : p'.beforeReset = true) :
    (∃ op, evs = [.call op]) ∨
      (p.beforeReset = true ∧ ∀ ev ∈ evs, ev ≠ .released ∧ ev.isDrained = false) := by
  cases h with
  | @acked _ k _ _ =>
    rw [ParkFor.beforeReset_parked] at hp'
    simp [hp', SuperPc.beforeReset]
  | @workerGone _ k _ _ =>
    rw [ParkFor.beforeReset_parked] at hp'
    simp [hp', SuperPc.beforeReset]
  | interrupted hk =>
    rcases ParkFor.interrupted_cases hk with ⟨_, rfl, rfl⟩ | ⟨_, rfl, rfl⟩ <;>
      simp [SuperPc.beforeReset] at hp'
  | _ => simp_all [SuperPc.beforeReset, ParkFor.attaches, Event.isDrained]

theorem into_resetDone (h : SuperStep p sh p' sh' evs) (hp' : p'.resetDone = true) :
    (p = .resetting ∧ evs = [.reset sh'.book]) ∨
      (p.resetDone = true ∧ evs = [] ∧ sh'.book = sh.book) := by
  cases h with
  | acked => simp at hp'
  | workerGone => simp at hp'
  | interrupted hk =>
    rcases ParkFor.interrupted_cases hk with ⟨_, rfl, rfl⟩ | ⟨_, rfl, rfl⟩ <;>
      simp [SuperPc.resetDone] at hp'
  | _ => simp_all [SuperPc.resetDone]

theorem into_queueCleared (h : SuperStep p sh p' sh' evs) (hp' : p'.queueCleared = true) :
    (p = .clearingQueue ∧ sh'.replay = sh.replay.clear) ∨
      (p.queueCleared = true ∧ sh'.replay = sh.replay) := by
  cases h with
  | @acked _ k _ _ => cases k <;> simp_all [SuperPc.queueCleared, ParkFor.parked]
  | @workerGone _ k _ _ => cases k <;> simp_all [SuperPc.queueCleared, ParkFor.parked]
  | interrupted hk =>
    rcases ParkFor.interrupted_cases hk with ⟨_, rfl, rfl⟩ | ⟨_, rfl, rfl⟩ <;>
      simp [SuperPc.queueCleared] at hp'
  | _ => simp_all [SuperPc.queueCleared]

theorem into_overflowCleared (h : SuperStep p sh p' sh' evs) (hp' : p'.overflowCleared = true) :
    (p = .clearingOverflow ∧ sh'.overflowed = false) ∨
      (p.overflowCleared = true ∧ sh'.overflowed = sh.overflowed) := by
  cases h with
  | @acked _ k _ _ => cases k <;> simp_all [SuperPc.overflowCleared, ParkFor.parked]
  | @workerGone _ k _ _ => cases k <;> simp_all [SuperPc.overflowCleared, ParkFor.parked]
  | interrupted hk =>
    rcases ParkFor.interrupted_cases hk with ⟨_, rfl, rfl⟩ | ⟨_, rfl, rfl⟩ <;>
      simp [SuperPc.overflowCleared] at hp'
  | _ => simp_all [SuperPc.overflowCleared]

/-- The window opens with the first hand-back; until the snapshot's install
the supervisor only fetches, parks and checks, changing nothing but the
handshake. -/
theorem into_windowOpen (h : SuperStep p sh p' sh' evs) (hp' : p'.windowOpen = true) :
    { sh' with handshake := sh.handshake } = sh ∧
      ((p = .releasing ∧ evs = [.released] ∧ p'.snapshot? = none) ∨
        (p.windowOpen = true ∧
          (((∀ ev ∈ evs, ev = .opened) ∧ p'.snapshot? = p.snapshot?) ∨
            (p = .fetching ∧ ∃ S, evs = [.fetched (.ok S)] ∧ p'.snapshot? = some S)))) := by
  cases h with
  | acked =>
    rw [ParkFor.windowOpen_parked] at hp'
    simp only [ParkFor.snapshot?_parked]
    simp [hp', SuperPc.windowOpen, SuperPc.snapshot?]
  | workerGone =>
    rw [ParkFor.windowOpen_parked] at hp'
    simp only [ParkFor.snapshot?_parked]
    simp [hp', SuperPc.windowOpen, SuperPc.snapshot?]
  | interrupted hk =>
    rcases ParkFor.interrupted_cases hk with ⟨_, rfl, rfl⟩ | ⟨_, rfl, rfl⟩ <;>
      simp [SuperPc.windowOpen] at hp'
  | notLost => simp [SuperPc.windowOpen, SuperPc.snapshot?]
  | notOverflowed => simp [SuperPc.windowOpen, SuperPc.snapshot?]
  | _ => simp_all [SuperPc.windowOpen, SuperPc.snapshot?, ParkFor.snapshot?]

theorem into_installing (h : SuperStep p sh p' sh' evs) {S : Option β}
    (hp' : p' = .installing S) :
    p = .checkingOverflow S ∧ sh.overflowed = false ∧ sh' = sh ∧ evs = [] := by
  cases h with
  | acked => simp [ParkFor.parked_ne_installing] at hp'
  | workerGone => simp [ParkFor.parked_ne_installing] at hp'
  | interrupted hk =>
    rcases ParkFor.interrupted_cases hk with ⟨_, rfl, rfl⟩ | ⟨_, rfl, rfl⟩ <;> simp at hp'
  | _ => simp_all

theorem into_draining (h : SuperStep p sh p' sh' evs) {S : Option β} (hp' : p' = .draining S) :
    p = .installing S ∧ sh' = sh.install S ∧ evs = [] := by
  cases h with
  | acked => simp [ParkFor.parked_ne_draining] at hp'
  | workerGone => simp [ParkFor.parked_ne_draining] at hp'
  | interrupted hk =>
    rcases ParkFor.interrupted_cases hk with ⟨_, rfl, rfl⟩ | ⟨_, rfl, rfl⟩ <;> simp at hp'
  | _ => simp_all

theorem into_replayDone (h : SuperStep p sh p' sh' evs) (hp' : p'.replayDone = true) :
    (∃ S, p = .draining S ∧ p' = .unbuffering ∧
        evs = [.drained (S.map Book.sequenceNumber) sh.replay.records] ∧
        sh' = sh.drain (S.map Book.sequenceNumber)) ∨
      (p = .unbuffering ∧ p' = .finishing ∧ evs = [.unbuffered] ∧
        sh' = sh.withHandshake (·.setBuffering false)) ∨
      (p = .finishing ∧ p' = .done .connect (.ok ()) ∧
        evs = [.released, .returned .connect (.ok ())] ∧ sh' = sh.withHandshake (·.release)) := by
  cases h with
  | acked => simp at hp'
  | workerGone => simp at hp'
  | interrupted hk =>
    rcases ParkFor.interrupted_cases hk with ⟨_, rfl, rfl⟩ | ⟨_, rfl, rfl⟩ <;>
      simp [SuperPc.replayDone] at hp'
  | _ => simp_all [SuperPc.replayDone]

end SuperStep

namespace Sys

/-- What a connect on its way to success has done so far. -/
structure Synchronizes (s : Sys β) : Prop where
  unreleased : s.super.beforeReset = true →
    ∀ ev ∈ sinceCall s.log, ev ≠ .released ∧ ev.isDrained = false
  reset_of : s.super.resetDone = true → ∃ b₀, .reset b₀ ∈ sinceCall s.log ∧
    (∀ ev ∈ sinceCall s.log, ev ≠ .released ∧ ev.isDrained = false) ∧ s.shared.book = b₀
  cleared_of : s.super.queueCleared = true → s.shared.replay.records = []
  unflagged_of : s.super.overflowCleared = true → s.shared.overflowed = false
  /-- Between the first hand-back and the install the worker buffers all it
  offers, and the queue with the record held back holds all of it unless a
  push was refused. -/
  window_of : s.super.windowOpen = true → ∃ b₀ window,
    AfterRelease (sinceCall s.log) b₀ window ∧ s.shared.book = b₀ ∧
    (∀ ev ∈ sinceCall s.log, ev.isDrained = false) ∧
    (∀ r, .published r ∉ window) ∧ (∀ r b, .offered r b ∈ window → b = true) ∧
    (∀ n, s.worker ≠ .publishing n) ∧
    (s.shared.overflowed = false →
      s.shared.replay.records ++ s.worker.pending s.shared.scratch = offers window) ∧
    (∀ S, s.super.snapshot? = some S → .fetched (.ok S) ∈ window)
  installing_of : ∀ S, s.super = .installing S → s.shared.overflowed = false
  draining_of : ∀ S, s.super = .draining S → ∃ b₀ window,
    AfterRelease (sinceCall s.log) b₀ window ∧ s.shared.book = S.elim b₀ (Book.copyFrom b₀) ∧
    (∀ ev ∈ sinceCall s.log, ev.isDrained = false) ∧
    (∀ r, .published r ∉ window) ∧ (∀ r b, .offered r b ∈ window → b = true) ∧
    s.shared.replay.records = offers window ∧ .fetched (.ok S) ∈ window
  /-- After the drain; the book is the replayed one until the return, and at
  the return while nothing has been logged since. -/
  replayed_of : s.super.replayDone = true → ∃ b₀ S window post,
    AfterRelease (sinceCall s.log) b₀
      (window ++ .drained (S.map Book.sequenceNumber) (offers window) :: post) ∧
    (∀ r, .published r ∉ window) ∧ (∀ r b, .offered r b ∈ window → b = true) ∧
    .fetched (.ok S) ∈ window ∧
    ((sinceCall s.log).map Event.replayedCount).sum =
      (offers window).countP (Book.keeps (S.map Book.sequenceNumber)) ∧
    ((sinceCall s.log).map Event.discardedCount).sum =
      (offers window).countP (fun r => !Book.keeps (S.map Book.sequenceNumber) r) ∧
    (s.super ≠ .done .connect (.ok ()) ∨
        (∃ pre, sinceCall s.log = pre ++ [.returned .connect (.ok ())]) →
      s.shared.book = (Book.replayRecords (S.map Book.sequenceNumber)
        (S.elim b₀ (Book.copyFrom b₀)) (offers window)).1)
  outside_of_returned : s.super = .done .connect (.ok ()) →
    (∃ pre, sinceCall s.log = pre ++ [.returned .connect (.ok ())]) →
    s.worker.owns = false ∨ s.worker = .reading
  unbuffered_of : s.super = .finishing ∨ s.super = .done .connect (.ok ()) →
    s.shared.handshake.buffer = false

theorem Synchronizes.init (book : β) (capacity : Nat) :
    (Sys.init (Shared.new book capacity)).Synchronizes where
  unreleased := by simp [Sys.init, SuperPc.beforeReset]
  reset_of := by simp [Sys.init, SuperPc.resetDone]
  cleared_of := by simp [Sys.init, SuperPc.queueCleared]
  unflagged_of := by simp [Sys.init, SuperPc.overflowCleared]
  window_of := by simp [Sys.init, SuperPc.windowOpen]
  installing_of := by simp [Sys.init]
  draining_of := by simp [Sys.init]
  replayed_of := by simp [Sys.init, SuperPc.replayDone]
  outside_of_returned := by simp [Sys.init]
  unbuffered_of := by simp [Sys.init]

theorem Synchronizes.worker_step {s : Sys β} {w : WorkerPc} {sh : Shared β}
    {evs : List (Event β)} (hx : s.Exclusive) (hl : s.Logged) (hi : s.Synchronizes)
    (h : WorkerStep s.worker s.shared w sh evs) :
    (⟨sh, w, s.super, s.log ++ evs⟩ : Sys β).Synchronizes := by
  have hseg : sinceCall (s.log ++ evs) = sinceCall s.log ++ evs := sinceCall_append h.not_call
  -- the worker logs none of the supervisor's events
  have hnew : ∀ ev ∈ evs, ev ≠ .released ∧ ev.isDrained = false := by
    intro ev hev
    have hw := h.byWorker ev hev
    refine ⟨?_, Event.isDrained_of_byWorker hw⟩
    rintro rfl
    simp [Event.byWorker] at hw
  -- a worker outside the shared state changes none of it; it is outside
  -- while the supervisor holds it
  have hcore : s.worker.owns = false →
      sh.book = s.shared.book ∧ sh.replay = s.shared.replay ∧
        sh.overflowed = s.shared.overflowed ∧ offers evs = [] ∧ ∀ r, .published r ∉ evs := by
    intro hout
    obtain ⟨hb, hr, ho, -⟩ :=
      Shared.fields_eq_of_handshake ((WorkerStep.quiet_of_owns_eq_false hout) w sh evs h).1
    have hnp : ∀ n, s.worker ≠ .publishing n := by
      intro n hw
      simp [hw, WorkerPc.owns] at hout
    exact ⟨hb, hr, ho, h.offers_eq_nil hout, h.published_not_mem hnp⟩
  have hheld : s.super.holds = true → s.worker.owns = false := fun hh => (hx.outside_of_holds hh).1
  -- a logged offer of this step went where the raised flag sent it
  have hoffered : s.shared.handshake.buffer = true → ∀ r b, .offered r b ∈ evs → b = true := by
    intro hb r b hm
    obtain ⟨pre, post, hsplit⟩ := List.append_of_mem hm
    rw [(h.offered_mem hsplit).2, hb]
  constructor
  · intro hp
    rw [hseg]
    exact List.forall_mem_append.mpr ⟨hi.unreleased hp, hnew⟩
  · intro hp
    obtain ⟨b₀, hmem, hnone, hbook⟩ := hi.reset_of hp
    rw [hseg]
    refine ⟨b₀, List.mem_append_left _ hmem,
      List.forall_mem_append.mpr ⟨hnone, hnew⟩, ?_⟩
    rw [(hcore (hheld <| SuperPc.holds_of_resetDone hp)).1, hbook]
  · intro hp
    rw [(hcore (hheld <| SuperPc.holds_of_resetDone (SuperPc.resetDone_of_queueCleared hp))).2.1]
    exact hi.cleared_of hp
  · intro hp
    rw [(hcore (hheld <| SuperPc.holds_of_resetDone (SuperPc.resetDone_of_overflowCleared hp))).2.2.1]
    exact hi.unflagged_of hp
  · -- the window grows by the worker's events; the book stays, the queue follows the offers
    intro hp
    obtain ⟨b₀, window, hafter, hbook, hnone, hpub, hbuf, hnp, hqueue, hfetch⟩ := hi.window_of hp
    have hb := hl.buffer_of_connecting (SuperPc.connecting_of_windowOpen hp)
    rw [hseg]
    refine ⟨b₀, window ++ evs, hafter.append, by rw [h.book_eq hnp, hbook],
      List.forall_mem_append.mpr ⟨hnone, fun ev hev => (hnew ev hev).2⟩, ?_, ?_,
      h.not_publishing hnp hb, ?_, ?_⟩
    · intro r hm
      rcases List.mem_append.mp hm with hold | hm'
      · exact hpub r hold
      · exact h.published_not_mem hnp r hm'
    · intro r b hm
      rcases List.mem_append.mp hm with hold | hm'
      · exact hbuf r b hold
      · exact hoffered hb r b hm'
    · intro ho
      obtain ⟨ho', hstep⟩ := h.queue_step hb ho
      rw [hstep, hqueue ho', offers_append]
    · intro S hS
      exact List.mem_append_left _ (hfetch S hS)
  · intro S hp
    dsimp only at hp
    rw [(hcore (hheld (by simp [hp, SuperPc.holds]))).2.2.1]
    exact hi.installing_of S hp
  · intro S hp
    dsimp only at hp
    obtain ⟨b₀, window, hafter, hbook, hnone, hpub, hbuf, hqueue, hfetch⟩ := hi.draining_of S hp
    obtain ⟨hb, hr, -, hoffers, hpub'⟩ := hcore (hheld (by simp [hp, SuperPc.holds]))
    rw [hseg]
    refine ⟨b₀, window ++ evs, hafter.append, by rw [hb, hbook],
      List.forall_mem_append.mpr ⟨hnone, fun ev hev => (hnew ev hev).2⟩, ?_, ?_,
      by rw [hr, hqueue, offers_append, hoffers, List.append_nil], List.mem_append_left _ hfetch⟩
    · intro r hm
      rcases List.mem_append.mp hm with hold | hm'
      · exact hpub r hold
      · exact hpub' r hm'
    · intro r b hm
      rcases List.mem_append.mp hm with hold | hm'
      · exact hbuf r b hold
      · have := offered_mem_offers hm'
        simp [hoffers] at this
  · intro hp
    dsimp only at hp
    obtain ⟨b₀, S, window, post, hafter, hpub, hbuf, hfetch, hrep, hdis, hbook⟩ := hi.replayed_of hp
    have hcounts := counts_eq_zero_of_undrained fun ev hev => (hnew ev hev).2
    rw [hseg]
    refine ⟨b₀, S, window, post ++ evs, hafter.append_after, hpub, hbuf, hfetch, ?_, ?_, ?_⟩
    · rw [List.map_append, List.sum_append, hcounts.1, Nat.add_zero, hrep]
    · rw [List.map_append, List.sum_append, hcounts.2, Nat.add_zero, hdis]
    · -- the worker does not publish here, so the book stays the shared state's
      intro hcond
      by_cases hd : s.super = .done .connect (.ok ())
      · -- at the return nothing has been logged since, so the worker moved silently
        obtain ⟨pre, hend⟩ := hcond.resolve_left (not_not_intro hd)
        obtain ⟨rfl, hend'⟩ := h.silent_of_returned hend
        rcases hi.outside_of_returned hd ⟨pre, hend'⟩ with hout | hr
        · rw [(hcore hout).1]
          exact hbook (.inr ⟨pre, hend'⟩)
        · exact absurd rfl (h.logs_of_reading hr)
      · rw [(hcore (hheld (SuperPc.holds_of_replayDone hp hd))).1]
        exact hbook (.inl hd)
  · intro hp hend
    dsimp only at hp hend
    obtain ⟨pre, hend⟩ := hend
    rw [hseg] at hend
    obtain ⟨rfl, hend'⟩ := h.silent_of_returned hend
    rcases hi.outside_of_returned hp ⟨pre, hend'⟩ with hout | hr
    · exact h.silent_of_outside hout rfl
    · exact absurd rfl (h.logs_of_reading hr)
  · intro hp
    dsimp only at hp ⊢
    rw [h.buffer_eq]
    exact hi.unbuffered_of hp

theorem Synchronizes.super_step {s : Sys β} {p : SuperPc β} {sh : Shared β}
    {evs : List (Event β)} (hx : s.Exclusive) (hi : s.Synchronizes)
    (h : SuperStep s.super s.shared p sh evs) :
    (⟨sh, s.worker, p, s.log ++ evs⟩ : Sys β).Synchronizes := by
  -- while the supervisor holds the shared state the worker is outside it
  have hout : s.super.holds = true → s.worker.owns = false := fun hh => (hx.outside_of_holds hh).1
  constructor
  · intro hp ev hev
    dsimp only at hp hev
    rcases h.into_beforeReset hp with ⟨op, rfl⟩ | ⟨hp₀, hclean⟩
    · simp at hev
    · rcases h.calls with hc | ⟨-, op, rfl⟩
      · rw [sinceCall_append hc] at hev
        exact List.forall_mem_append.mpr ⟨hi.unreleased hp₀, hclean⟩ ev hev
      · simp at hev
  · intro hp
    dsimp only at hp ⊢
    rcases h.into_resetDone hp with ⟨hp₀, rfl⟩ | ⟨hp₀, rfl, hbook⟩
    · -- the reset itself
      have hnone := hi.unreleased (by simp [hp₀, SuperPc.beforeReset])
      rw [sinceCall_append (by simp [Event.isCall])]
      exact ⟨sh.book, by simp, List.forall_mem_append.mpr ⟨hnone, by simp [Event.isDrained]⟩, rfl⟩
    · obtain ⟨b₀, hmem, hnone, hb⟩ := hi.reset_of hp₀
      rw [List.append_nil]
      exact ⟨b₀, hmem, hnone, hbook.trans hb⟩
  · intro hp
    dsimp only at hp ⊢
    rcases h.into_queueCleared hp with ⟨-, hr⟩ | ⟨hp₀, hr⟩
    · rw [hr]
      rfl
    · rw [hr]
      exact hi.cleared_of hp₀
  · intro hp
    dsimp only at hp ⊢
    rcases h.into_overflowCleared hp with ⟨-, ho⟩ | ⟨hp₀, ho⟩
    · exact ho
    · rw [ho]
      exact hi.unflagged_of hp₀
  · intro hp
    dsimp only at hp ⊢
    obtain ⟨hsh, hcases⟩ := h.into_windowOpen hp
    obtain ⟨hb, hr, hov, hsc⟩ := Shared.fields_eq_of_handshake hsh
    rcases hcases with ⟨hp₀, rfl, hsnap⟩ | ⟨hp₀, hcases⟩
    · -- the first hand-back opens an empty window over the reset book and the cleared queue
      have hdone : s.super.resetDone = true := by simp [hp₀, SuperPc.resetDone]
      obtain ⟨b₀, hmem, hnone, hbook⟩ := hi.reset_of hdone
      have hown := hout (SuperPc.holds_of_resetDone hdone)
      have hcleared := hi.cleared_of (by simp [hp₀, SuperPc.queueCleared])
      rw [sinceCall_append (by simp [Event.isCall])]
      refine ⟨b₀, [], ⟨sinceCall s.log, rfl, hmem, fun hm => (hnone _ hm).1 rfl⟩, hb.trans hbook,
        ?_, by simp, by simp, ?_, ?_, by simp [hsnap]⟩
      · exact List.forall_mem_append.mpr ⟨fun ev hev => (hnone ev hev).2, by simp [Event.isDrained]⟩
      · intro n hw
        simp [hw, WorkerPc.owns] at hown
      · rintro -
        rw [hr, hcleared, WorkerPc.pending_of_owns_eq_false hown]
        rfl
    · -- fetching and parking log no offer, publication or drain
      obtain ⟨b₀, window, hafter, hbook, hnone, hpub, hbuf, hnp, hqueue, hfetch⟩ := hi.window_of hp₀
      have hquiet : ∀ ev ∈ evs, ev.isCall = false ∧ ev.isDrained = false ∧
          ev.offeredRecord = none ∧ ∀ r, ev ≠ .published r := by
        intro ev hev
        rcases hcases with ⟨hop, -⟩ | ⟨-, S, rfl, -⟩
        · rw [hop ev hev]
          simp [Event.isCall, Event.isDrained, Event.offeredRecord]
        · rw [List.mem_singleton.mp hev]
          simp [Event.isCall, Event.isDrained, Event.offeredRecord]
      have hoffers : offers evs = [] := List.filterMap_eq_nil_iff.mpr fun ev hev => (hquiet ev hev).2.2.1
      rw [sinceCall_append fun ev hev => (hquiet ev hev).1]
      refine ⟨b₀, window ++ evs, hafter.append, hb.trans hbook,
        List.forall_mem_append.mpr ⟨hnone, fun ev hev => (hquiet ev hev).2.1⟩, ?_, ?_, hnp, ?_, ?_⟩
      · intro r hm
        rcases List.mem_append.mp hm with hold | hnew
        · exact hpub r hold
        · exact (hquiet _ hnew).2.2.2 r rfl
      · intro r b hm
        rcases List.mem_append.mp hm with hold | hnew
        · exact hbuf r b hold
        · have hnone' := (hquiet _ hnew).2.2.1
          simp [Event.offeredRecord] at hnone'
      · intro ho
        rw [hr, hsc, offers_append, hoffers, List.append_nil]
        exact hqueue (hov ▸ ho)
      · intro S hS
        rcases hcases with ⟨-, hsnap⟩ | ⟨-, S', rfl, hsnap⟩
        · exact List.mem_append_left _ (hfetch S (hsnap ▸ hS))
        · rw [hsnap] at hS
          cases hS
          simp
  · intro S hp
    dsimp only at hp
    obtain ⟨-, hov, rfl, -⟩ := h.into_installing hp
    exact hov
  · intro S hp
    dsimp only at hp ⊢
    obtain ⟨hp₀, rfl, rfl⟩ := h.into_draining hp
    -- the install overwrites the book; the queue holds the whole window
    obtain ⟨b₀, window, hafter, hbook, hnone, hpub, hbuf, -, hqueue, hfetch⟩ :=
      hi.window_of (by simp [hp₀, SuperPc.windowOpen])
    have hown := hout (by simp [hp₀, SuperPc.holds])
    rw [List.append_nil]
    refine ⟨b₀, window, hafter, by simp [hbook], hnone, hpub, hbuf, ?_,
      hfetch S (by simp [hp₀, SuperPc.snapshot?])⟩
    rw [Shared.install_eq]
    dsimp only
    rw [← hqueue (hi.installing_of S hp₀),
      WorkerPc.pending_of_owns_eq_false hown, List.append_nil]
  · intro hp
    dsimp only at hp ⊢
    rcases h.into_replayDone hp with ⟨S, hp₀, rfl, rfl, rfl⟩ | ⟨hp₀, rfl, rfl, rfl⟩ |
        ⟨hp₀, rfl, rfl, rfl⟩
    · -- the drain replays exactly the window's offers
      obtain ⟨b₀, window, hafter, hbook, hnone, hpub, hbuf, hqueue, hfetch⟩ := hi.draining_of S hp₀
      obtain ⟨hrep, hdis⟩ := counts_eq_zero_of_undrained hnone
      rw [sinceCall_append (by simp [Event.isCall]), hqueue]
      refine ⟨b₀, S, window, [], hafter.append, hpub, hbuf, hfetch, ?_, ?_, ?_⟩
      · simp [hrep, Event.replayedCount]
      · simp [hdis, Event.discardedCount]
      · rintro -
        rw [Shared.drain_eq]
        dsimp only
        rw [hbook, hqueue]
    -- unbuffering and finishing keep the book and count nothing
    all_goals
      obtain ⟨b₀, S', window, post, hafter, hpub, hbuf, hfetch, hrep, hdis, hbook⟩ :=
        hi.replayed_of (by simp [hp₀, SuperPc.replayDone])
      rw [sinceCall_append (by simp [Event.isCall])]
      exact ⟨b₀, S', window, _, hafter.append_after, hpub, hbuf, hfetch,
        by simp [hrep, Event.replayedCount], by simp [hdis, Event.discardedCount],
        fun _ => hbook (.inl (by simp [hp₀]))⟩
  · rintro hp -
    dsimp only at hp
    -- only the finish returns, and the drain's stages all hold the shared state
    have hh : s.super.holds = true := by
      rcases h.into_replayDone (by simp [hp, SuperPc.replayDone]) with ⟨S, hp₀, -⟩ | ⟨hp₀, -⟩ |
          ⟨hp₀, -⟩ <;> simp [hp₀, SuperPc.holds]
    exact .inl (hout hh)
  · intro hp
    dsimp only at hp ⊢
    have hrd : p.replayDone = true := by
      rcases hp with rfl | rfl <;> rfl
    rcases h.into_replayDone hrd with ⟨S, -, rfl, -⟩ | ⟨-, -, -, rfl⟩ | ⟨hp₀, -, -, rfl⟩
    · simp at hp
    · simp
    · simpa using hi.unbuffered_of (.inl hp₀)

theorem Reachable.synchronizes {s : Sys β} (h : s.Reachable) (hb : s.parks < UInt64.size) :
    s.Synchronizes := by
  induction h with
  | init book capacity => exact Synchronizes.init book capacity
  | step hs hstep ih =>
    have hb' := Nat.lt_of_le_of_lt hstep.parks_le hb
    cases hstep with
    | worker hw => exact (ih hb').worker_step (hs.exclusive hb') hs.logged hw
    | super hp => exact (ih hb').super_step (hs.exclusive hb') hp

/-- On a run that opened fewer than `2 ^ 64 - 1` parks, a connect that
returns success lost and repeated no update, and left the worker publishing
live until the next connect or disconnect. -/
theorem connect_replays_gapless {s₀ s : Sys β} (h₀ : s₀.Reachable)
    (hrun : Relation.ReflTransGen Step s₀ s) {mid : List (Event β)}
    (hl : s.log = s₀.log ++ .call .connect :: mid) (hmid : ∀ ev ∈ mid, ev.isCall = false)
    (hs : s.super = .done .connect (.ok ()))
    (hend : ∃ pre, mid = pre ++ [.returned .connect (.ok ())]) (hb : s.parks < UInt64.size - 1) :
    (∃ b₀ S before window after,
      mid = before ++ .released :: window ++
        .drained (S.map Book.sequenceNumber) (offers window) :: after ∧
      .reset b₀ ∈ before ∧ .released ∉ before ∧ .fetched (.ok S) ∈ window ∧
      (∀ r b, .offered r b ∈ window → b = true) ∧ (∀ r, .published r ∉ window) ∧
      s.shared.book = ((offers window).filter (Book.keeps (S.map Book.sequenceNumber))).foldl
        (fun b r => (Book.updateFrom b r).2) (S.elim b₀ (Book.copyFrom b₀)) ∧
      s.shared.stats.replayed = s₀.shared.stats.replayed +
        UInt64.ofNat ((offers window).countP (Book.keeps (S.map Book.sequenceNumber))) ∧
      s.shared.stats.discarded = s₀.shared.stats.discarded +
        UInt64.ofNat ((offers window).countP (fun r => !Book.keeps (S.map Book.sequenceNumber) r)) ∧
      s.shared.stats.replayed + s.shared.stats.discarded =
        s₀.shared.stats.replayed + s₀.shared.stats.discarded + UInt64.ofNat (offers window).length) ∧
    ∀ u : Sys β, Relation.ReflTransGen Step s u →
      ∀ later r b after, u.log = s.log ++ later ++ .offered r b :: after →
        .call .connect ∉ later → .call .disconnect ∉ later → b = false := by
  have hreach := h₀.run hrun
  have hi := hreach.synchronizes (by omega)
  have hlog := hreach.logged
  have hseg : sinceCall s.log = mid := by
    rw [hl]
    exact sinceCall_call_append hmid
  obtain ⟨b₀, S, window, post, ⟨before, hsplit, hreset, hfirst⟩, hpub, hbuf, hfetch, hrep, hdis,
    hbook⟩ := hi.replayed_of (by simp [hs, SuperPc.replayDone])
  rw [hseg] at hsplit hrep hdis hbook
  -- each counter is its value before the call plus what the drains since counted
  have hcount : ∀ f : Event β → Nat, f (.call .connect) = 0 →
      (s.log.map f).sum = (s₀.log.map f).sum + (mid.map f).sum := by
    intro f hf
    rw [hl, List.map_append, List.sum_append, List.map_cons, List.sum_cons, hf, Nat.zero_add]
  have hreplayed : s.shared.stats.replayed = s₀.shared.stats.replayed +
      UInt64.ofNat ((offers window).countP (Book.keeps (S.map Book.sequenceNumber))) := by
    rw [hlog.replayed_eq, h₀.logged.replayed_eq, hcount _ rfl, hrep, UInt64.ofNat_add]
  have hdiscarded : s.shared.stats.discarded = s₀.shared.stats.discarded +
      UInt64.ofNat ((offers window).countP (fun r => !Book.keeps (S.map Book.sequenceNumber) r)) := by
    rw [hlog.discarded_eq, h₀.logged.discarded_eq, hcount _ rfl, hdis, UInt64.ofNat_add]
  refine ⟨⟨b₀, S, before, window, post, by simp [hsplit], hreset, hfirst, hfetch, hbuf, hpub, ?_,
    hreplayed, hdiscarded, ?_⟩, ?_⟩
  · rw [hbook (.inr hend), Book.replayRecords_eq]
  · have hlen : (offers window).length =
        (offers window).countP (Book.keeps (S.map Book.sequenceNumber)) +
          (offers window).countP (fun r => !Book.keeps (S.map Book.sequenceNumber) r) := by
      rw [List.length_eq_countP_add_countP (Book.keeps (S.map Book.sequenceNumber))]
      simp only [decide_not, Bool.decide_eq_true]
    rw [hreplayed, hdiscarded, hlen, UInt64.ofNat_add]
    ac_rfl
  · -- after the return the flag stays clear until a call raises it
    have hclear : bufferFlag s.log = false := by
      rw [← hlog.buffer_eq]
      exact hi.unbuffered_of (.inr hs)
    intro u hu later r b after hlu hc hd
    rw [(h₀.run (hrun.trans hu)).logged.offered_eq (s.log ++ later) r b after hlu]
    exact bufferFlag_append_of_clear hclear hc hd

/-- A connect whose window buffers one record, fetches no snapshot and
returns success. -/
theorem connect_replays_gapless_one_record :
    ∃ (s₀ s : Sys IncrementalBook) (mid : List (Event IncrementalBook)),
      s₀.Reachable ∧ Relation.ReflTransGen Step s₀ s ∧
      s.log = s₀.log ++ .call .connect :: mid ∧ (∀ ev ∈ mid, ev.isCall = false) ∧
      s.super = .done .connect (.ok ()) ∧ (∃ pre, mid = pre ++ [.returned .connect (.ok ())]) ∧
      .offered { MarketRecord.new with timestampRecv := 0 } true ∈ mid ∧
      ∀ u : Sys IncrementalBook, Relation.ReflTransGen Step s u →
        ∀ later r b after, u.log = s.log ++ later ++ .offered r b :: after →
          .call .connect ∉ later → .call .disconnect ∉ later → b = false := by
  have r0 : Relation.ReflTransGen Step (init (Shared.new (IncrementalBook.new 4) 8))
      (init (Shared.new (IncrementalBook.new 4) 8)) := .refl
  -- the first park, answered by the worker, then attach, reset and hand-back
  have r1 := r0.tail (.super (.callConnect rfl))
  have r2 := r1.tail (.super .raisePause)
  have r3 := r2.tail (.super .openEpoch)
  have r4 := r3.tail (.worker (.notice rfl))
  have r5 := r4.tail (.worker .loadEpoch)
  have r6 := r5.tail (.worker .mark)
  have r7 := r6.tail (.worker .ack)
  have r8 := r7.tail (.super (.acked (by decide)))
  have r9 := r8.tail (.super .attachOk)
  have r10 := r9.tail (.super .resetBook)
  have r11 := r10.tail (.super .resetScratch)
  have r12 := r11.tail (.super .clearQueue)
  have r13 := r12.tail (.super .clearOverflow)
  have r14 := r13.tail (.super .clearLost)
  have r15 := r14.tail (.super .releaseForSnapshot)
  -- in the window the worker reads a frame and buffers one record
  have r16 := r15.tail (.worker (.resume rfl))
  have r17 := r16.tail (.worker (.unmark rfl))
  have r18 := r17.tail (.worker .clearMark)
  have r19 := r18.tail (.worker (.readFrame []))
  have r20 := r19.tail (.worker (.stamp 0))
  have r21 := r20.tail (.worker (.offerBuffered MarketRecord.new rfl))
  have r22 := r21.tail (.worker .buffer)
  have r23 := r22.tail (.worker .stall)
  -- no snapshot; the second park, the checks, the install and the drain
  have r24 := r23.tail (.super (.fetchOk none))
  have r25 := r24.tail (.super .raisePause)
  have r26 := r25.tail (.super .openEpoch)
  have r27 := r26.tail (.worker (.notice rfl))
  have r28 := r27.tail (.worker .loadEpoch)
  have r29 := r28.tail (.worker .mark)
  have r30 := r29.tail (.worker .ack)
  have r31 := r30.tail (.super (.acked (by decide)))
  have r32 := r31.tail (.super (.notLost rfl))
  have r33 := r32.tail (.super (.notOverflowed rfl))
  have r34 := r33.tail (.super .install)
  have r35 := r34.tail (.super .drain)
  have r36 := r35.tail (.super .unbuffer)
  have r37 := r36.tail (.super .finish)
  exact ⟨_, _, _, .init _ _, r37, rfl, by simp [Event.isCall], rfl, List.getLast?_eq_some_iff.mp rfl,
    by simp, (connect_replays_gapless (.init _ _) r37 rfl (by simp [Event.isCall]) rfl
      (List.getLast?_eq_some_iff.mp rfl) (by decide)).2⟩

/-- After `2 ^ 64` parks a connect's second park returns before the worker
acknowledged it: a record the worker offered in the window is pushed only
after the drain, and the connect returns success with it unreplayed. -/
theorem connect_skips_buffered_record :
    ∃ (s₀ s : Sys IncrementalBook) (mid : List (Event IncrementalBook)),
      s₀.Reachable ∧ Relation.ReflTransGen Step s₀ s ∧
      s.log = s₀.log ++ .call .connect :: mid ∧ (∀ ev ∈ mid, ev.isCall = false) ∧
      s.super = .done .connect (.ok ()) ∧ (∃ pre, mid = pre ++ [.returned .connect (.ok ())]) ∧
      s.parks = UInt64.size ∧
      ¬ ∃ (S : Option IncrementalBook) (before window after : List (Event IncrementalBook)),
        mid = before ++ .released :: window ++
          .drained (S.map Book.sequenceNumber) (offers window) :: after ∧ .released ∉ before := by
  obtain ⟨L, h₀, hcount, -⟩ :=
    exists_parkedAt (IncrementalBook.new 4) 8 18446744073709551613 18446744073709551614 rfl
  -- the worker, released for the snapshot, offers one record
  have r1 := (connect_released_at_wrap L).tail (.worker (.readFrame []))
  have r2 := r1.tail (.worker (.stamp 0))
  have r3 := r2.tail (.worker (.offerBuffered MarketRecord.new rfl))
  -- the second park opens epoch `0`, covered by the last acknowledgement; the drain finds nothing
  have r4 := r3.tail (.super (.fetchOk none))
  have r5 := r4.tail (.super .raisePause)
  have r6 := r5.tail (.super .openEpoch)
  have r7 := r6.tail (.super (.acked
    (show (18446744073709551615 : UInt64) + 1 ≤ 18446744073709551615 by decide)))
  have r8 := r7.tail (.super (.notLost rfl))
  have r9 := r8.tail (.super (.notOverflowed rfl))
  have r10 := r9.tail (.super .install)
  have r11 := r10.tail (.super .drain)
  have r12 := r11.tail (.super .unbuffer)
  have r13 := r12.tail (.super .finish)
  simp only [List.append_assoc, List.cons_append, List.nil_append, List.append_nil] at r13
  refine ⟨_, _, [.opened, .worked (.ok 0), .attached (.ok ()), .reset (Book.reset (IncrementalBook.new 4)),
      .released, .read (.ok (some [])), .offered { MarketRecord.new with timestampRecv := 0 } true,
      .fetched (.ok none), .opened, .drained none [], .unbuffered, .released,
      .returned .connect (.ok ())], h₀, r13, ?_, by simp [Event.isCall], rfl,
    List.getLast?_eq_some_iff.mp rfl, ?_, ?_⟩
  · simp [parkedAt, releasedAtWrap, ReplayQueue.clear]
  · rw [parks, List.countP_append, hcount]
    rfl
  · rintro ⟨S, before, window, after, hsplit, hfirst⟩
    -- the window starts at the first hand-back and ends at the only drain
    have hrel : ∀ y ∈ ([.opened, .worked (.ok 0), .attached (.ok ()),
        .reset (Book.reset (IncrementalBook.new 4))] : List (Event IncrementalBook)), y ≠ .released := by
      simp
    obtain ⟨-, -, hrest⟩ := @append_cons_eq_of_first _ (· = Event.released) _ _ _ _ _ _
      hrel (fun y hy h => hfirst (h ▸ hy)) rfl rfl (by simpa using hsplit)
    have hsplit' : [.read (.ok (some [])), .offered { MarketRecord.new with timestampRecv := 0 } true,
          .fetched (.ok none), .opened] ++ Event.drained none [] ::
          [.unbuffered, .released, .returned .connect (.ok ())] =
        window ++ .drained (S.map Book.sequenceNumber) (offers window) :: after := by
      simpa using hrest
    obtain ⟨rfl, hdrained, -⟩ := (List.append_cons_inj_of_notMem (by simp) (by simp)).mp hsplit'
    simp [offers, Event.offeredRecord] at hdrained

end Sys

end DepthFeed
