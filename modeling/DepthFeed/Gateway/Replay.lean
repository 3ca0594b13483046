import DepthFeed.Record.Basic

/-!
# Replay queues

A `ReplayQueue` holds records back, first in first out, up to a capacity of
at least one. A push onto a full queue is refused and changes nothing.
-/

namespace DepthFeed

/-- A bounded first-in-first-out queue of records. -/
structure ReplayQueue where
  capacity : Nat
  records : List MarketRecord
  deriving DecidableEq

namespace ReplayQueue

def defaultCapacity : Nat := 2048

def new (capacity : Nat) : ReplayQueue := ⟨max 1 capacity, []⟩

def len (q : ReplayQueue) : Nat := q.records.length

def isEmpty (q : ReplayQueue) : Bool := q.records.isEmpty

def push (q : ReplayQueue) (r : MarketRecord) : Option ReplayQueue :=
  if q.records.length < q.capacity then some { q with records := q.records ++ [r] } else none

def clear (q : ReplayQueue) : ReplayQueue := { q with records := [] }

@[simp] theorem push_eq_none_iff (q : ReplayQueue) (r : MarketRecord) :
    q.push r = none ↔ q.capacity ≤ q.len := by
  unfold push len
  split
  · rename_i h
    exact ⟨fun e => (nomatch e), fun e => absurd h (by omega)⟩
  · rename_i h
    exact ⟨fun _ => by omega, fun _ => rfl⟩

theorem records_push {q q' : ReplayQueue} {r : MarketRecord} (h : q.push r = some q') :
    q'.records = q.records ++ [r] ∧ q'.capacity = q.capacity := by
  unfold push at h
  split at h <;> simp_all
  cases h
  simp

theorem len_le_capacity_push {q q' : ReplayQueue} {r : MarketRecord} (h : q.push r = some q') :
    q'.len ≤ q'.capacity := by
  unfold push at h
  split at h
  · cases h
    simp [len]
    omega
  · simp at h

@[simp] theorem len_clear (q : ReplayQueue) : q.clear.len = 0 := rfl

end ReplayQueue

end DepthFeed
