import DepthFeed.Time.Duration

/-!
# Schedules

A `Schedule` fires at a fixed interval, or early when triggered. Until it is
started it never fires, but a trigger raised meanwhile stays pending. A check
consumes any pending trigger; it fires when one was pending or the clock has
reached the due time, and then the next due time is the reading plus the
interval (saturating at the largest word).
-/

namespace DepthFeed

/-- A fixed-interval schedule with an out-of-band trigger. -/
structure Schedule where
  name : String
  intervalNanos : UInt64
  nextDue : Option UInt64
  forced : Bool
  deriving DecidableEq, Repr

def saturatingAdd (a b : UInt64) : UInt64 :=
  if a.toNat + b.toNat < 18446744073709551616 then a + b else 18446744073709551615

namespace Schedule

/-- A schedule not yet started, its interval in nanoseconds capped at the largest word. -/
def new (name : String) (interval : Duration) : Schedule :=
  ⟨name, (min interval.toNanos 18446744073709551615).toUInt64, none, false⟩

/-- Starts (or restarts) the schedule: the first firing is due one interval from now. -/
def start (s : Schedule) (now : UInt64) : Schedule :=
  { s with nextDue := some (saturatingAdd now s.intervalNanos) }

def isStarted (s : Schedule) : Bool := s.nextDue.isSome

def trigger (s : Schedule) : Schedule := { s with forced := true }

/-- Checks the schedule at reading `now`: whether it fires. -/
def check (s : Schedule) (now : UInt64) : Bool × Schedule :=
  match s.nextDue with
  | none => (false, s)
  | some due =>
    if s.forced || decide (due ≤ now) then
      (true, { s with forced := false, nextDue := some (saturatingAdd now s.intervalNanos) })
    else (false, { s with forced := false })

@[simp] theorem check_of_nextDue_eq_none (s : Schedule) (now : UInt64) (h : s.nextDue = none) :
    s.check now = (false, s) := by
  simp [check, h]

theorem check_of_nextDue_eq_some (s : Schedule) (now due : UInt64) (h : s.nextDue = some due) :
    s.check now = if s.forced || decide (due ≤ now) then
        (true, { s with forced := false, nextDue := some (saturatingAdd now s.intervalNanos) })
      else (false, { s with forced := false }) := by
  simp [check, h]

theorem forced_check (s : Schedule) (now due : UInt64) (h : s.nextDue = some due) :
    (s.check now).2.forced = false := by
  rw [check_of_nextDue_eq_some s now due h]
  split <;> rfl

end Schedule

end DepthFeed
