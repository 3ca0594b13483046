import DepthFeed.Proofs.Reader.History
import DepthFeed.Book.Incremental

/-!
# Runs of parks

An `inspect` on a parked reader opens one epoch, which the worker
acknowledges, and leaves the reader parked as before. Repeating it reaches a
parked reader at any epoch, in particular one park short of the largest
word; the next park then opens epoch `0` and is satisfied by the
acknowledgement left over from before (`wrapped_teardown_run`).
-/

namespace DepthFeed

namespace Sys

variable {β : Type} [Book β]

/-- A reader whose worker sits parked on a standing request, having
acknowledged epoch `e`, with the supervisor back from an `inspect`. -/
def parkedAt (sh : Shared β) (e : UInt64) (log : List (Event β)) : Sys β :=
  ⟨{ sh with handshake := ⟨true, true, true, e, e, false⟩ }, .idle, .done .inspect (.ok ()), log⟩

def inspectRound (book : β) : List (Event β) :=
  [.call .inspect, .opened, .worked (.ok 0), .inspected book, .returned .inspect (.ok ())]

/-- An `inspect` on a parked reader opens one epoch, which the worker
acknowledges, and leaves the reader parked. -/
theorem inspect_parked (sh : Shared β) (isPaused : Bool) (e a : UInt64) {p : SuperPc β}
    (hp : p.ready = true) (log : List (Event β)) :
    Relation.ReflTransGen Step
      ⟨{ sh with handshake := ⟨true, isPaused, true, e, a, false⟩ }, .idle, p, log⟩
      (parkedAt sh (e + 1) (log ++ inspectRound sh.book)) := by
  have r1 : Relation.ReflTransGen Step
      (⟨{ sh with handshake := ⟨true, isPaused, true, e, a, false⟩ }, .idle, p, log⟩ : Sys β) _ :=
    .single (.super (.callInspect hp))
  have r2 := r1.tail (.super .raisePause)
  have r3 := r2.tail (.super .openEpoch)
  have r4 := r3.tail (.worker (.notice rfl))
  have r5 := r4.tail (.worker .loadEpoch)
  have r6 := r5.tail (.worker .mark)
  have r7 := r6.tail (.worker .ack)
  have r8 := r7.tail (.super (.acked (UInt64.le_refl _)))
  have r9 := r8.tail (.super .look)
  have r10 := r9.tail (.super .stayParked)
  simp only [List.append_assoc, List.cons_append, List.nil_append, List.append_nil] at r10
  exact r10

theorem inspect_parked_iterate (sh : Shared β) (k : Nat) :
    ∀ (e : UInt64) (log : List (Event β)), Relation.ReflTransGen Step (parkedAt sh e log)
      (parkedAt sh (e + UInt64.ofNat k) (log ++ (List.replicate k (inspectRound sh.book)).flatten)) := by
  induction k with
  | zero =>
    intro e log
    simp only [List.replicate_zero, List.flatten_nil, List.append_nil]
    rw [show e + UInt64.ofNat 0 = e by simp]
  | succ k ih =>
    intro e log
    have he : e + UInt64.ofNat (k + 1) = e + 1 + UInt64.ofNat k := by
      rw [UInt64.ofNat_add, UInt64.add_assoc, UInt64.add_comm (UInt64.ofNat k)]
      rfl
    rw [he, List.replicate_succ, List.flatten_cons, ← List.append_assoc]
    exact (inspect_parked sh true e e rfl log).trans (ih (e + 1) (log ++ inspectRound sh.book))

/-- By `inspect` calls alone a new reader reaches a parked state at any
epoch but zero, having opened as many parks and called no transport. -/
theorem exists_parkedAt (book : β) (capacity : Nat) (k : Nat) (e : UInt64)
    (he : UInt64.ofNat (k + 1) = e) :
    ∃ log, (parkedAt (Shared.new book capacity) e log).Reachable ∧
      log.countP Event.isOpened = k + 1 ∧ ∀ ev ∈ log, ev.callsTransport = false := by
  have hfirst := inspect_parked (Shared.new book capacity) false 0 0
    (show (SuperPc.idle : SuperPc β).ready = true from rfl) []
  have hrest := inspect_parked_iterate (Shared.new book capacity) k (0 + 1)
    ([] ++ inspectRound (Shared.new book capacity).book)
  have hreach := (Reachable.init book capacity).run (hfirst.trans hrest)
  have hepoch : (0 : UInt64) + 1 + UInt64.ofNat k = e := by
    rw [← he, UInt64.ofNat_add, UInt64.zero_add, UInt64.add_comm]
    rfl
  rw [hepoch, List.nil_append] at hreach
  refine ⟨_, hreach, ?_, ?_⟩
  · have hround : (inspectRound (Shared.new book capacity).book).countP Event.isOpened = 1 := rfl
    rw [List.countP_append, List.countP_flatten, List.map_replicate, List.sum_replicate, hround,
      smul_eq_mul, Nat.mul_one, Nat.add_comm]
  · intro ev hev
    simp only [List.mem_append, List.mem_flatten, List.mem_replicate] at hev
    rcases hev with hev | ⟨l, ⟨-, rfl⟩, hev⟩ <;>
      simp only [inspectRound, List.mem_cons, List.not_mem_nil] at hev <;>
      rcases hev with rfl | rfl | rfl | rfl | rfl | hev <;> first | rfl | exact hev.elim

/-- The shared state a connect hands back for its snapshot when its first
park opened the largest epoch. -/
def releasedAtWrap : Shared IncrementalBook where
  handshake := ⟨false, false, true, 18446744073709551615, 18446744073709551615, false⟩
  replay := (ReplayQueue.new 8).clear
  overflowed := false
  connectionLost := false
  lastRecvNanos := 0
  stats := ReaderStats.zero
  book := Book.reset (IncrementalBook.new 4)
  scratch := MarketRecord.new.reset

/-- From a parked reader one park short of the largest epoch, a connect's
first park opens the largest epoch and the worker acknowledges it; the
connect attaches, resets and hands the state back, and the worker resumes. -/
theorem connect_released_at_wrap (L : List (Event IncrementalBook)) :
    Relation.ReflTransGen Step (parkedAt (Shared.new (IncrementalBook.new 4) 8) 18446744073709551614 L)
      ⟨releasedAtWrap, .reading, .fetching, L ++ [.call .connect, .opened, .worked (.ok 0),
        .attached (.ok ()), .reset (Book.reset (IncrementalBook.new 4)), .released]⟩ := by
  have r0 : Relation.ReflTransGen Step
      (parkedAt (Shared.new (IncrementalBook.new 4) 8) 18446744073709551614 L)
      (parkedAt (Shared.new (IncrementalBook.new 4) 8) 18446744073709551614 L) := .refl
  have r1 := r0.tail (.super (.callConnect rfl))
  have r2 := r1.tail (.super .raisePause)
  have r3 := r2.tail (.super .openEpoch)
  have r4 := r3.tail (.worker (.notice rfl))
  have r5 := r4.tail (.worker .loadEpoch)
  have r6 := r5.tail (.worker .mark)
  have r7 := r6.tail (.worker .ack)
  have r8 := r7.tail (.super (.acked (UInt64.le_refl _)))
  -- attach, reset and hand-back; the worker resumes
  have r9 := r8.tail (.super .attachOk)
  have r10 := r9.tail (.super .resetBook)
  have r11 := r10.tail (.super .resetScratch)
  have r12 := r11.tail (.super .clearQueue)
  have r13 := r12.tail (.super .clearOverflow)
  have r14 := r13.tail (.super .clearLost)
  have r15 := r14.tail (.super .releaseForSnapshot)
  have r16 := r15.tail (.worker (.resume rfl))
  have r17 := r16.tail (.worker (.unmark rfl))
  have r18 := r17.tail (.worker .clearMark)
  simp only [List.append_assoc, List.cons_append, List.nil_append] at r18
  exact r18

/-- Past the last epoch the teardown park of a failed connect returns at once:
the transport is detached while the worker, released for the snapshot, is
about to read it. The run opens `2 ^ 64` parks. -/
theorem wrapped_teardown_run :
    ∃ (s₀ s : Sys IncrementalBook) (mid : List (Event IncrementalBook)) (e : ReaderError),
      s₀.Reachable ∧ Relation.ReflTransGen Step s₀ s ∧
      s.log = s₀.log ++ .call .connect :: mid ∧ (∀ ev ∈ mid, ev.isCall = false) ∧
      s.super = .done .connect (.error e) ∧ s.worker = .reading ∧ s.parks = UInt64.size ∧
      mid = [.opened, .worked (.ok 0), .attached (.ok ()), .reset (Book.reset (IncrementalBook.new 4)),
        .released, .fetched (.error .connectionLost), .opened, .detached (.ok ()) .buffering,
        .returned .connect (.error e)] ∧
      ∀ ev ∈ s₀.log, ev.callsTransport = false := by
  obtain ⟨L, h₀, hcount, hquiet⟩ :=
    exists_parkedAt (IncrementalBook.new 4) 8 18446744073709551613 18446744073709551614 rfl
  -- the fetch fails; the teardown park opens epoch `0`, which the last acknowledgement covers
  have r1 := (connect_released_at_wrap L).tail (.super (.fetchFail .connectionLost))
  have r2 := r1.tail (.super .abandonAttached)
  have r3 := r2.tail (.super .raisePause)
  have r4 := r3.tail (.super .openEpoch)
  have r5 := r4.tail (.super (.acked
    (show (18446744073709551615 : UInt64) + 1 ≤ 18446744073709551615 by decide)))
  have r6 := r5.tail (.super (.detachAfterFailure (.ok ())))
  have r7 := r6.tail (.super .resetAfterFailure)
  have r8 := r7.tail (.super .clearAfterFailure)
  simp only [List.append_assoc, List.cons_append, List.nil_append, List.append_nil] at r8
  refine ⟨_, _, _, _, h₀, r8, rfl, by simp [Event.isCall], rfl, rfl, ?_, ?_, hquiet⟩
  · rw [parks, List.countP_append, hcount]
    rfl
  · simp [Handshake.state, releasedAtWrap]

end Sys

end DepthFeed
