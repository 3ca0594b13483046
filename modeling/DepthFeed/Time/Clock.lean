import DepthFeed.Time.Duration

/-!
# Manual clocks

A `ManualClock` reads nanoseconds since the Unix epoch as a 64-bit word and
moves only when told. Advancing adds the duration's nanoseconds, first capped
at `2 ^ 64 - 1`, and wraps around on overflow like the word it is.
-/

namespace DepthFeed

/-- A clock that moves only when told. -/
structure ManualClock where
  now : UInt64
  deriving DecidableEq, Repr

namespace ManualClock

/-- A duration's nanoseconds as a word, capped at the largest word. -/
def durationWord (d : Duration) : UInt64 := (min d.toNanos 18446744073709551615).toUInt64

def advance (c : ManualClock) (d : Duration) : ManualClock := ⟨c.now + durationWord d⟩

def set (_ : ManualClock) (t : UInt64) : ManualClock := ⟨t⟩

@[simp] theorem now_set (c : ManualClock) (t : UInt64) : (c.set t).now = t := rfl

@[simp] theorem now_advance (c : ManualClock) (d : Duration) :
    (c.advance d).now = c.now + durationWord d := rfl

end ManualClock

end DepthFeed
