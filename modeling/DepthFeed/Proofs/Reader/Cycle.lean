import DepthFeed.Reader.Worker
import DepthFeed.Book.Incremental

/-!
# One duty cycle of the feed worker

`Reader.Drains h r frame out` is the frame loop of a duty cycle as its rules
say, with no fuel: a failing message ends it, a message that consumes nothing
drops the rest of the frame, and one that consumes bytes is counted and the
loop goes on. Each counted message shortens the frame, so `handleFrame`'s fuel
of one more than the frame's length covers the loop (`handleFrame_of_drains`).
-/

namespace DepthFeed

namespace Reader

variable {β : Type}

/-- The reader with its receive time stamped from its clock. -/
def stamped (r : Reader β) : Reader β := { r with lastRecvNanos := r.clock.now }

/-- A handler never hands back more of a frame than it was given. -/
def NeverLengthens (h : MessageHandler β) : Prop :=
  ∀ r frame rest r', h r frame = (.ok rest, r') → rest.length ≤ frame.length

/-- A handler reaches the reader only as a decoder's sink lets it: the
connection-lost flag and the park handshake are left alone. -/
def KeepsSignals (h : MessageHandler β) : Prop :=
  ∀ r frame, (h r frame).2.connectionLost = r.connectionLost ∧ (h r frame).2.handshake = r.handshake

/-- The frame loop of a duty cycle, by its rules. -/
inductive Drains (h : MessageHandler β) : Reader β → List UInt8 → Except ReaderError Nat × Reader β → Prop
  | empty {r : Reader β} : Drains h r [] (.ok 0, r)
  | failed {r r' : Reader β} {frame : List UInt8} {e : ReaderError} :
      frame ≠ [] → h r.stamped frame = (.error e, r') → Drains h r frame (.error e, r')
  | stalled {r r' : Reader β} {frame rest : List UInt8} :
      frame ≠ [] → h r.stamped frame = (.ok rest, r') → rest.length = frame.length →
      Drains h r frame (.ok 0, r')
  | consumed {r r' : Reader β} {frame rest : List UInt8} {out : Except ReaderError Nat × Reader β} :
      frame ≠ [] → h r.stamped frame = (.ok rest, r') → rest.length < frame.length →
      Drains h r' rest out → Drains h r frame (out.1.map (· + 1), out.2)

/-- One turn of `handleFrame` on a frame that is not empty: the handler is
called on the stamped reader, and the loop stops on an error or a message
that consumes nothing. -/
theorem handleFrame_succ {h : MessageHandler β} {fuel n : Nat} {r : Reader β} {frame : List UInt8}
    (hne : frame ≠ []) :
    handleFrame h (fuel + 1) r frame n =
      match h r.stamped frame with
      | (.error e, r') => (.error e, r')
      | (.ok rest, r') =>
        if rest.length = frame.length then (.ok n, r') else handleFrame h fuel r' rest (n + 1) := by
  simp only [handleFrame, List.isEmpty_iff, hne, if_false]
  rfl

/-- Every outcome of the loop is what `handleFrame` computes, given fuel
beyond the frame's length: one unit per counted message, each of which
shortens the frame. -/
theorem handleFrame_of_drains {h : MessageHandler β} {r : Reader β} {frame : List UInt8}
    {out : Except ReaderError Nat × Reader β} (hd : Drains h r frame out) :
    ∀ {fuel : Nat} (n : Nat), frame.length < fuel →
      handleFrame h fuel r frame n = (out.1.map (· + n), out.2) := by
  -- each rule takes one unit of fuel, so the fuel is a successor
  have hsucc : ∀ {fuel len : Nat}, len < fuel → ∃ k, fuel = k + 1 ∧ len ≤ k :=
    fun {fuel} _ h => ⟨fuel - 1, by omega, by omega⟩
  induction hd with
  | empty =>
    intro fuel n hfuel
    obtain ⟨fuel, rfl, -⟩ := hsucc hfuel
    simp [handleFrame, Except.map]
  | failed hne hh =>
    intro fuel n hfuel
    obtain ⟨fuel, rfl, -⟩ := hsucc hfuel
    rw [handleFrame_succ hne, hh]
    rfl
  | stalled hne hh hlen =>
    intro fuel n hfuel
    obtain ⟨fuel, rfl, -⟩ := hsucc hfuel
    rw [handleFrame_succ hne, hh]
    simp [hlen, Except.map]
  | @consumed r r' frame rest out hne hh hlen _ ih =>
    intro fuel n hfuel
    obtain ⟨fuel, rfl, hle⟩ := hsucc hfuel
    rw [handleFrame_succ hne, hh]
    simp only [Nat.ne_of_lt hlen, if_false]
    rw [ih (n + 1) (by omega)]
    -- counting the message here, then the rest's, is counting them all
    cases out.1 <;> simp [Except.map, Nat.add_comm, Nat.add_left_comm]

/-- A handler that never lengthens the frame has an outcome for every frame:
by strong induction on its length. -/
theorem exists_drains {h : MessageHandler β} (hh : NeverLengthens h) :
    ∀ (r : Reader β) (frame : List UInt8), ∃ out, Drains h r frame out := by
  intro r frame
  induction hlen : frame.length using Nat.strongRecOn generalizing r frame with
  | ind len ih =>
    cases frame with
    | nil => exact ⟨_, .empty⟩
    | cons b bs =>
      have hne : b :: bs ≠ [] := List.cons_ne_nil b bs
      cases hcall : h r.stamped (b :: bs) with
      | mk res r' =>
        cases res with
        | error e => exact ⟨_, .failed hne hcall⟩
        | ok rest =>
          have hle := hh _ _ _ _ hcall
          rcases Nat.lt_or_eq_of_le hle with hlt | heq
          · obtain ⟨out, hout⟩ := ih rest.length (hlen ▸ hlt) r' rest rfl
            exact ⟨_, .consumed hne hcall hlt hout⟩
          · exact ⟨_, .stalled hne hcall heq⟩

theorem drains_iff_handleFrame {h : MessageHandler β} (hh : NeverLengthens h) (r : Reader β)
    (frame : List UInt8) (out : Except ReaderError Nat × Reader β) :
    Drains h r frame out ↔ out = handleFrame h (frame.length + 1) r frame 0 := by
  have hzero : ∀ o : Except ReaderError Nat × Reader β, (o.1.map (· + 0), o.2) = o := by
    rintro ⟨res, r'⟩
    cases res <;> rfl
  constructor
  · intro hd
    rw [handleFrame_of_drains hd 0 (Nat.lt_succ_self _), hzero]
  · rintro rfl
    obtain ⟨out, hd⟩ := exists_drains hh r frame
    rwa [handleFrame_of_drains hd 0 (Nat.lt_succ_self _), hzero]

/-- One call of a handler that keeps the signals keeps them, the stamp
included. -/
theorem keeps_call {h : MessageHandler β} (hk : KeepsSignals h) {r r' : Reader β}
    {frame : List UInt8} {res : Except ReaderError (List UInt8)} (hh : h r.stamped frame = (res, r')) :
    r'.connectionLost = r.connectionLost ∧ r'.handshake = r.handshake := by
  have := hk r.stamped frame
  rw [hh] at this
  exact this

theorem Drains.keeps {h : MessageHandler β} (hk : KeepsSignals h) {r : Reader β} {frame : List UInt8}
    {out : Except ReaderError Nat × Reader β} (hd : Drains h r frame out) :
    out.2.connectionLost = r.connectionLost ∧ out.2.handshake = r.handshake := by
  induction hd with
  | empty => exact ⟨rfl, rfl⟩
  | failed _ hh => exact keeps_call hk hh
  | stalled _ hh _ => exact keeps_call hk hh
  | consumed _ hh _ _ ih =>
    have hcall := keeps_call hk hh
    exact ⟨ih.1.trans hcall.1, ih.2.trans hcall.2⟩

def afterRead (r : Reader β) : Reader β :=
  { r with handshake := r.handshake.workerShouldPark.2, feed := r.feed.read.2 }

section
variable (h : MessageHandler β) (r : Reader β)

theorem doWorkWith_of_read_none (hrun : r.handshake.pause = false) (hread : r.feed.read.1 = .ok none) :
    r.doWorkWith h = (.ok 0, r.afterRead) := by
  simp only [doWorkWith, Handshake.workerShouldPark_fst, hrun]
  rw [hread]
  rfl

theorem doWorkWith_of_read_frame (hrun : r.handshake.pause = false) {frame : List UInt8}
    (hread : r.feed.read.1 = .ok (some frame)) :
    r.doWorkWith h = handleFrame h (frame.length + 1) r.afterRead frame 0 := by
  simp only [doWorkWith, Handshake.workerShouldPark_fst, hrun]
  rw [hread]
  rfl

theorem doWorkWith_of_read_error (hrun : r.handshake.pause = false) {e : TransportError}
    (hread : r.feed.read.1 = .error e) :
    r.doWorkWith h = (.error (readFailure e),
      { r.afterRead with connectionLost := true, handshake := r.afterRead.handshake.requestPause }) := by
  simp only [doWorkWith, Handshake.workerShouldPark_fst, hrun]
  rw [hread]
  rfl

end

/-! ## The scripted feed's handler -/

theorem length_le_of_nextRecord {f : ScriptedFeed} {frame rest : List UInt8} {record : MarketRecord}
    (h : f.nextRecord frame = .ok (some (record, rest))) : rest.length ≤ frame.length := by
  unfold ScriptedFeed.nextRecord at h
  split at h
  · cases h
  · split at h
    · cases h
    · split at h
      · cases h
        rw [List.length_drop]
        exact Nat.sub_le _ _
      · cases h

section
variable [Book β]

theorem offer_signals (r : Reader β) (now : UInt64) :
    (r.offer now).2.connectionLost = r.connectionLost ∧ (r.offer now).2.handshake = r.handshake := by
  unfold offer
  dsimp only
  split
  · simp
  · split <;> simp

theorem scriptedHandler_neverLengthens : NeverLengthens (scriptedHandler (β := β)) := by
  intro r frame rest r' h
  unfold scriptedHandler at h
  split at h
  · cases h
  · cases h
    exact Nat.le_refl _
  · rename_i hnext
    split at h
    · cases h
    · cases h
      exact length_le_of_nextRecord hnext

theorem scriptedHandler_keepsSignals : KeepsSignals (scriptedHandler (β := β)) := by
  intro r frame
  unfold scriptedHandler
  split
  · exact ⟨rfl, rfl⟩
  · exact ⟨rfl, rfl⟩
  · rename_i record rest _
    have hoffer := offer_signals { r with scratch := record } r.lastRecvNanos
    split
    · rename_i e r' hcall
      rw [hcall] at hoffer
      exact hoffer
    · rename_i r' hcall
      rw [hcall] at hoffer
      exact hoffer

end

end Reader

/-- A duty cycle of a worker not asked to pause, with a handler that never
lengthens the frame and leaves the reader's signals alone: a read with
nothing handles nothing; a frame is handled by the loop's one outcome, and a
failed message leaves the connection-lost flag as it was and the worker
running; a failed read marks the connection lost, asks the worker to park and
reports the connection lost or the transport's error. -/
theorem duty_cycle_frame_loop {β : Type} (h : Reader.MessageHandler β) (hshort : Reader.NeverLengthens h)
    (hkeep : Reader.KeepsSignals h) (r : Reader β) (hrun : r.handshake.pause = false) :
    (r.feed.read.1 = .ok none → r.doWorkWith h = (.ok 0, r.afterRead)) ∧
    (∀ frame, r.feed.read.1 = .ok (some frame) →
      (∀ out, Reader.Drains h r.afterRead frame out ↔ out = r.doWorkWith h) ∧
      ∀ e r', r.doWorkWith h = (.error e, r') →
        r'.connectionLost = r.connectionLost ∧ r'.handshake.pause = false) ∧
    (∀ e, r.feed.read.1 = .error e →
      (r.doWorkWith h).1 = .error (if e = .connectionLost then .connectionLost else .transport e) ∧
      (r.doWorkWith h).2.connectionLost = true ∧ (r.doWorkWith h).2.handshake.pause = true) := by
  refine ⟨Reader.doWorkWith_of_read_none h r hrun, fun frame hread => ?_, fun e hread => ?_⟩
  · have hcycle := Reader.doWorkWith_of_read_frame h r hrun hread
    refine ⟨fun out => ?_, fun e r' herr => ?_⟩
    · rw [Reader.drains_iff_handleFrame hshort, hcycle]
    · -- the error is the loop's, and the loop keeps what the read left
      have hd : Reader.Drains h r.afterRead frame (.error e, r') :=
        (Reader.drains_iff_handleFrame hshort _ _ _).2 (hcycle ▸ herr.symm)
      obtain ⟨hlost, hshake⟩ := hd.keeps hkeep
      refine ⟨hlost, ?_⟩
      rw [hshake]
      simp [Reader.afterRead, Handshake.workerShouldPark, hrun]
  · rw [Reader.doWorkWith_of_read_error h r hrun hread]
    refine ⟨?_, rfl, rfl⟩
    cases e <;> rfl

/-- A running worker over a fresh book that reads a three-byte frame: the
cycle is the loop's outcome, and the truncated record it fails on neither
marks the connection lost nor parks the worker. -/
theorem duty_cycle_truncated_frame :
    let r : Reader IncrementalBook :=
      { Reader.new { ScriptedFeed.new with attached := true, frames := [[1, 2, 3]] }
          (IncrementalBook.new 4) 8 ⟨1000⟩ with handshake := Handshake.new.release }
    r.handshake.pause = false ∧
      (∀ out, Reader.Drains Reader.scriptedHandler r.afterRead [1, 2, 3] out ↔
        out = r.doWorkWith Reader.scriptedHandler) ∧
      ∀ e r', r.doWorkWith Reader.scriptedHandler = (.error e, r') →
        r'.connectionLost = false ∧ r'.handshake.pause = false := by
  intro r
  have hloop := (duty_cycle_frame_loop Reader.scriptedHandler Reader.scriptedHandler_neverLengthens
    Reader.scriptedHandler_keepsSignals r rfl).2.1 [1, 2, 3] rfl
  exact ⟨rfl, hloop⟩

end DepthFeed
