import DepthFeed.Reader.Threads

/-!
# What each step of the reader's threads can do

One lemma per quantity: which steps of either thread change it, and how. The
invariants of the later modules are assembled from these lemmas and never
open a step rule themselves.
-/

namespace DepthFeed

variable {β : Type} [Book β]

def Event.callsTransport : Event β → Bool
  | .attached _ | .detached _ _ | .read _ => true
  | _ => false

/-- A detach, or a read that failed: after it the transport is not to be
read until the next successful attach. -/
def Event.closesTransport : Event β → Bool
  | .detached _ _ | .read (.error _) => true
  | _ => false

namespace WorkerStep

variable {w w' : WorkerPc} {sh sh' : Shared β} {evs : List (Event β)}

/-- Every step of the worker from `w` over `sh` changes at most the
handshake and calls no transport. -/
def Quiet (w : WorkerPc) (sh : Shared β) : Prop :=
  ∀ w' sh' evs, WorkerStep w sh w' sh' evs →
    { sh' with handshake := sh.handshake } = sh ∧ ∀ ev ∈ evs, ev.callsTransport = false

theorem quiet_of_owns_eq_false (ho : w.owns = false) : Quiet w sh := by
  intro w' sh' evs h
  cases h <;> simp_all [WorkerPc.owns, Event.callsTransport]

theorem epoch_eq (h : WorkerStep w sh w' sh' evs) : sh'.handshake.epoch = sh.handshake.epoch := by
  cases h <;> simp

theorem countP_opened (h : WorkerStep w sh w' sh' evs) : evs.countP Event.isOpened = 0 := by
  cases h <;> simp [Event.isOpened]

theorem buffer_eq (h : WorkerStep w sh w' sh' evs) : sh'.handshake.buffer = sh.handshake.buffer := by
  cases h <;> simp

theorem pause_of_pause (h : WorkerStep w sh w' sh' evs) (hp : sh.handshake.pause = true) :
    sh'.handshake.pause = true := by
  cases h <;> simp [hp]

theorem acked_eq (h : WorkerStep w sh w' sh' evs) :
    sh'.handshake.acked = sh.handshake.acked ∨
      ∃ e, w = .acking e ∧ w' = .idle ∧ sh'.handshake.acked = e := by
  cases h <;> simp

theorem detached_of_detached (h : WorkerStep w sh w' sh' evs)
    (hd : sh'.handshake.detached = true) :
    sh.handshake.detached = true ∨ (w = .leaving ∧ w' = .gone) := by
  cases h <;> simp_all

theorem isPaused_of_isPaused (h : WorkerStep w sh w' sh' evs) (hm : sh.handshake.isPaused = true)
    (he : w.entering = false) : sh'.handshake.isPaused = true := by
  cases h <;> simp_all [WorkerPc.entering]

theorem entering_of (h : WorkerStep w sh w' sh' evs) (he : w'.entering = true) :
    w.entering = true ∨ (w = .idle ∧ sh.handshake.pause = false) := by
  cases h <;> simp_all [WorkerPc.entering]

theorem owns_of (h : WorkerStep w sh w' sh' evs) (ho : w'.owns = true) :
    w.owns = true ∨ w.entering = true := by
  cases h <;> simp_all [WorkerPc.owns, WorkerPc.entering]

theorem marking_of (h : WorkerStep w sh w' sh' evs) {e : UInt64} (hw : w' = .marking e) :
    w = .noticing ∧ e = sh.handshake.epoch := by
  cases h <;> simp_all

theorem acking_of (h : WorkerStep w sh w' sh' evs) {e : UInt64} (hw : w' = .acking e) :
    w = .marking e ∧ sh'.handshake.isPaused = true := by
  cases h <;> simp_all

theorem leaving_of (h : WorkerStep w sh w' sh' evs) (hw : w' = .leaving ∨ w' = .gone) :
    (w = .idle ∧ sh'.handshake.isPaused = true) ∨ w = .leaving := by
  cases h <;> simp_all

theorem not_gone (h : WorkerStep w sh w' sh' evs) : w ≠ .gone := by
  cases h <;> simp

/-- The worker closes the transport only by a failed read, and then goes on
to mark the connection lost. -/
theorem closes_of (h : WorkerStep w sh w' sh' evs) :
    (∀ ev ∈ evs, ev.closesTransport = false) ∨ (w = .reading ∧ ∃ e, w' = .losing e) := by
  cases h <;> simp [Event.closesTransport]

/-- The worker reads only from `reading`, and the read is its step's first
event. -/
theorem read_mem (h : WorkerStep w sh w' sh' evs) {pre post : List (Event β)}
    {r : Except TransportError (Option (List UInt8))} (he : evs = pre ++ .read r :: post) :
    w = .reading ∧ pre = [] := by
  cases h <;> simp [List.cons_eq_append_iff] at he ⊢ <;> simp_all

theorem lost_of_lost (h : WorkerStep w sh w' sh' evs) (hl : sh.connectionLost = true) :
    sh'.connectionLost = true := by
  cases h <;> simp_all

theorem of_losing (h : WorkerStep w sh w' sh' evs) {e : TransportError} (hw : w = .losing e) :
    w' = .pausing e ∧ sh'.connectionLost = true := by
  cases h <;> simp_all

theorem of_pausing (h : WorkerStep w sh w' sh' evs) {e : TransportError} (hw : w = .pausing e) :
    w' = .idle ∧ sh'.handshake.pause = true := by
  cases h <;> simp_all

/-- The worker requests a pause after a failed read only once it marked the
connection lost. -/
theorem lost_of_pausing (h : WorkerStep w sh w' sh' evs) {e : TransportError}
    (hw : w' = .pausing e) : sh'.connectionLost = true := by
  cases h <;> simp_all

/-- The worker reaches a read only through a park check that found no pause
requested. -/
theorem inside_of (h : WorkerStep w sh w' sh' evs) (hw : w'.entering = true ∨ w' = .reading) :
    w.entering = true ∨ (w = .idle ∧ sh.handshake.pause = false) := by
  cases h <;> simp_all [WorkerPc.entering]

end WorkerStep

namespace SuperStep

variable {p p' : SuperPc β} {sh sh' : Shared β} {evs : List (Event β)}

/-- Every step of the supervisor from `p` over `sh` changes at most the
handshake and calls no transport. -/
def Quiet (p : SuperPc β) (sh : Shared β) : Prop :=
  ∀ p' sh' evs, SuperStep p sh p' sh' evs →
    { sh' with handshake := sh.handshake } = sh ∧ ∀ ev ∈ evs, ev.callsTransport = false

theorem quiet_of_holds_eq_false (hh : p.holds = false) : Quiet p sh := by
  intro p' sh' evs h
  cases h with
  | interrupted hk =>
    rcases ParkFor.interrupted_cases hk with ⟨_, rfl, rfl⟩ | ⟨_, rfl, rfl⟩ <;>
      simp [Event.callsTransport]
  | _ => simp_all [SuperPc.holds, Event.callsTransport]

theorem worker_fields_eq (h : SuperStep p sh p' sh' evs) :
    sh'.handshake.acked = sh.handshake.acked ∧ sh'.handshake.isPaused = sh.handshake.isPaused ∧
      sh'.handshake.detached = sh.handshake.detached := by
  cases h <;> simp

/-- Only a park opens an epoch, right after raising `pause`, and it logs the
opening. -/
theorem epoch_eq (h : SuperStep p sh p' sh' evs) :
    (sh'.handshake.epoch = sh.handshake.epoch ∧ evs.countP Event.isOpened = 0) ∨
      ∃ k, p = .parking k .opening ∧ p' = .parking k (.checkAcked (sh.handshake.epoch + 1)) ∧
        sh'.handshake.epoch = sh.handshake.epoch + 1 ∧ evs = [.opened] := by
  cases h with
  | interrupted hk =>
    rcases ParkFor.interrupted_cases hk with ⟨_, rfl, rfl⟩ | ⟨_, rfl, rfl⟩ <;>
      simp [Event.isOpened]
  | _ => simp [Event.isOpened]

/-- `pause` is lowered only by the three hand-backs, each made while holding
the shared state. -/
theorem pause_cases (h : SuperStep p sh p' sh' evs) :
    sh'.handshake.pause = sh.handshake.pause ∨ sh'.handshake.pause = true ∨
      (p.holds = true ∧ p'.holds = false ∧ p'.waitEpoch = none ∧
        ∀ k st, p' ≠ .parking k st) := by
  cases h <;> simp [SuperPc.holds, SuperPc.waitEpoch]

/-- The shared state is taken only by a park that found its epoch
acknowledged or the worker gone. -/
theorem holds_of (h : SuperStep p sh p' sh' evs) (hh : p'.holds = true) :
    p.holds = true ∨
      (∃ k e, p = .parking k (.checkAcked e) ∧ e ≤ sh.handshake.acked ∧ sh' = sh) ∨
      (∃ k e, p = .parking k (.checkDetached e) ∧ sh.handshake.detached = true ∧ sh' = sh) := by
  cases h with
  | acked ha => exact .inr (.inl ⟨_, _, rfl, ha, rfl⟩)
  | workerGone hd => exact .inr (.inr ⟨_, _, rfl, hd, rfl⟩)
  | interrupted hk => simp [(ParkFor.interrupted_exits hk).1] at hh
  | _ => simp_all [SuperPc.holds]

theorem waitEpoch_of (h : SuperStep p sh p' sh' evs) {e : UInt64} (hw : p'.waitEpoch = some e) :
    (p.waitEpoch = some e ∧ sh' = sh) ∨
      (∃ k, p = .parking k .opening ∧ e = sh.handshake.epoch + 1 ∧
        sh' = sh.withHandshake (·.openEpoch) ∧ evs = [.opened]) := by
  cases h with
  | openEpoch => simp_all [SuperPc.waitEpoch]
  | notAcked => simp_all [SuperPc.waitEpoch]
  | workerHere => simp_all [SuperPc.waitEpoch]
  | snooze => simp_all [SuperPc.waitEpoch]
  | acked => simp at hw
  | workerGone => simp at hw
  | interrupted hk => simp [(ParkFor.interrupted_exits hk).2.1] at hw
  | _ => simp_all [SuperPc.waitEpoch]

theorem read_not_mem (h : SuperStep p sh p' sh' evs)
    (r : Except TransportError (Option (List UInt8))) : .read r ∉ evs := by
  cases h with
  | interrupted hk =>
    rcases ParkFor.interrupted_cases hk with ⟨_, rfl, rfl⟩ | ⟨_, rfl, rfl⟩ <;> simp
  | _ => simp

theorem closes_of (h : SuperStep p sh p' sh' evs) :
    (∀ ev ∈ evs, ev.closesTransport = false) ∨
      (∃ e, p = .detaching e ∧ p' = .resettingAfter e) ∨
      (p = .detachingFeed ∧ ∃ r, p' = .resettingFeed r) := by
  cases h with
  | interrupted hk =>
    rcases ParkFor.interrupted_cases hk with ⟨_, rfl, rfl⟩ | ⟨_, rfl, rfl⟩ <;>
      simp [Event.closesTransport]
  | _ => simp [Event.closesTransport]

/-- The supervisor clears the lost-connection mark only in a connect, before
its first hand-back. -/
theorem lost_eq (h : SuperStep p sh p' sh' evs) :
    sh'.connectionLost = sh.connectionLost ∨ p = .clearingLost := by
  cases h <;> simp

theorem pause_lowered (h : SuperStep p sh p' sh' evs) (hp : sh.handshake.pause = true)
    (hp' : sh'.handshake.pause = false) :
    p = .releasing ∨ p = .finishing ∨ p = .resumingWorker := by
  cases h <;> simp_all

/-- Past its first stage a park has raised `pause`, and changes nothing else
but the epoch. -/
theorem parking_of (h : SuperStep p sh p' sh' evs) {k : ParkFor β} {st : ParkStage}
    (hp : p' = .parking k st) (hst : st ≠ .raising) :
    (∃ st', p = .parking k st' ∧ st' ≠ .raising ∧ sh'.handshake.pause = sh.handshake.pause) ∨
      (p = .parking k .raising ∧ sh'.handshake.pause = true) := by
  cases h with
  | acked => simp at hp
  | workerGone => simp at hp
  | interrupted hk => exact absurd hp ((ParkFor.interrupted_exits hk).2.2 k st)
  | _ => simp_all

end SuperStep

namespace Sys

theorem Step.parks_le {s t : Sys β} (h : Step s t) : s.parks ≤ t.parks := by
  cases h <;> simp [parks, List.countP_append]

end Sys

end DepthFeed
