/-!
# The park handshake

The supervisor gains the shared state by raising `pause` and opening a new
epoch (`requestPark`); the worker, at the top of its next duty cycle, records
the epoch it saw in `acked` and returns (`workerShouldPark`); the supervisor
waits for `acked` to reach its epoch (`parkSatisfied`) and clears `pause` to
hand the state back. Epochs are 64-bit words and opening one wraps. A gone
worker satisfies every park.
-/

namespace DepthFeed

/-- What the reader is doing, as the supervisor sees it. -/
inductive ReaderState where
  | running
  | parked
  | buffering
  deriving DecidableEq, Repr

def ReaderState.name : ReaderState → String
  | .running => "Running"
  | .parked => "Parked"
  | .buffering => "Buffering"

/-- The flags and counters the worker and the supervisor exchange. -/
structure Handshake where
  pause : Bool
  isPaused : Bool
  buffer : Bool
  epoch : UInt64
  acked : UInt64
  detached : Bool
  deriving DecidableEq, Repr

namespace Handshake

/-- A new handshake: pause requested, buffering, nothing acknowledged. -/
def new : Handshake where
  pause := true
  isPaused := false
  buffer := true
  epoch := 0
  acked := 0
  detached := false

/-- The supervisor's park request: pause raised and a new epoch opened. -/
def requestPark (h : Handshake) : Handshake := { h with pause := true, epoch := h.epoch + 1 }

/-- Whether the latest park request is satisfied: the worker acknowledged its
epoch, or the worker is gone. -/
def parkSatisfied (h : Handshake) : Bool := decide (h.epoch ≤ h.acked) || h.detached

@[simp] def requestPause (h : Handshake) : Handshake := { h with pause := true }

@[simp] def release (h : Handshake) : Handshake := { h with pause := false }

/-- Sends offered records to the replay queue (`true`) or the channel. -/
@[simp] def setBuffering (h : Handshake) (buffering : Bool) : Handshake := { h with buffer := buffering }

/-- The worker's check at the top of a duty cycle: whether to park, and the
handshake after it acknowledged the current epoch or resumed. -/
def workerShouldPark (h : Handshake) : Bool × Handshake :=
  if h.pause then (true, { h with isPaused := true, acked := h.epoch })
  else (false, { h with isPaused := false })

/-- Marks the worker gone: it counts as parked from now on. -/
def detachWorker (h : Handshake) : Handshake := { h with isPaused := true, detached := true }

/-- The reader's state: parked while the worker sits paused on a standing
request, else buffering or running as `buffer` says. -/
def state (h : Handshake) : ReaderState :=
  if h.isPaused && h.pause then .parked
  else if h.buffer then .buffering
  else .running

@[simp] theorem workerShouldPark_fst (h : Handshake) : h.workerShouldPark.1 = h.pause := by
  unfold workerShouldPark
  cases h.pause <;> rfl

theorem acked_workerShouldPark (h : Handshake) (hp : h.pause = true) :
    h.workerShouldPark.2.acked = h.epoch := by
  simp [workerShouldPark, hp]

theorem parkSatisfied_requestPark_workerShouldPark (h : Handshake) :
    h.requestPark.workerShouldPark.2.parkSatisfied = true := by
  simp [requestPark, workerShouldPark, parkSatisfied]

/-- A fresh park request is never satisfied by an older acknowledgement,
unless opening its epoch wraps. -/
theorem parkSatisfied_requestPark (h : Handshake) (ha : h.acked ≤ h.epoch)
    (hw : h.epoch.toNat + 1 < UInt64.size) :
    h.requestPark.parkSatisfied = h.detached := by
  simp only [parkSatisfied, requestPark]
  have hnot : ¬ h.epoch + 1 ≤ h.acked := by
    rw [UInt64.le_iff_toNat_le, UInt64.toNat_add, UInt64.toNat_one, Nat.mod_eq_of_lt hw]
    rw [UInt64.le_iff_toNat_le] at ha
    omega
  simp [hnot]

/-- The park that opens the epoch after the largest word is satisfied at
once, by whatever was acknowledged before. -/
theorem parkSatisfied_requestPark_of_wrap (h : Handshake) (hw : h.epoch = 18446744073709551615) :
    h.requestPark.parkSatisfied = true := by
  simp [parkSatisfied, requestPark, hw]

@[simp] theorem parkSatisfied_detachWorker (h : Handshake) : h.detachWorker.parkSatisfied = true := by
  simp [parkSatisfied, detachWorker]

theorem state_detachWorker (h : Handshake) :
    h.detachWorker.state = if h.pause then .parked else if h.buffer then .buffering else .running := by
  obtain ⟨pause, isPaused, buffer, epoch, acked, detached⟩ := h
  cases pause <;> cases buffer <;> rfl

end Handshake

end DepthFeed
