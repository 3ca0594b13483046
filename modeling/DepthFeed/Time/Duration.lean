/-!
# Durations

A `Duration` is a span of time in nanoseconds, from zero up to `2 ^ 64`
seconds less one nanosecond. Every constructor saturates at that bound, so
arithmetic that would overflow stops at the largest duration instead.

`Duration.debugText` writes a duration in the unit that fits it: seconds when
it reaches one second, else milliseconds, microseconds (`µs`) or nanoseconds,
with the fraction's trailing zeros dropped: `1.5ms`, `1.000000001s`, `999ns`.
-/

namespace DepthFeed

def nanosPerSec : Nat := 1000000000

def maxDurationNanos : Nat := 18446744073709551616 * nanosPerSec - 1

/-- A span of time in nanoseconds. -/
structure Duration where
  toNanos : Nat
  le_max : toNanos ≤ maxDurationNanos
  deriving DecidableEq

namespace Duration

/-- The duration of `n` nanoseconds, or the largest duration when `n` is beyond it. -/
def ofNanos (n : Nat) : Duration := ⟨min n maxDurationNanos, Nat.min_le_right _ _⟩

def zero : Duration := ofNanos 0

def ofMillis (n : Nat) : Duration := ofNanos (n * 1000000)

def ofSecs (n : Nat) : Duration := ofNanos (n * nanosPerSec)

def secs (d : Duration) : Nat := d.toNanos / nanosPerSec

def subsecNanos (d : Duration) : Nat := d.toNanos % nanosPerSec

def toMillis (d : Duration) : Nat := d.toNanos / 1000000

def isZero (d : Duration) : Bool := d.toNanos == 0

def double (d : Duration) : Duration := ofNanos (2 * d.toNanos)

def min (a b : Duration) : Duration := if a.toNanos ≤ b.toNanos then a else b

instance : LE Duration := ⟨fun a b => a.toNanos ≤ b.toNanos⟩

instance : LT Duration := ⟨fun a b => a.toNanos < b.toNanos⟩

instance (a b : Duration) : Decidable (a ≤ b) := inferInstanceAs (Decidable (a.toNanos ≤ b.toNanos))

instance (a b : Duration) : Decidable (a < b) := inferInstanceAs (Decidable (a.toNanos < b.toNanos))

/-- `int` followed by the fraction `frac / (10 * unit)` without trailing
zeros, then the unit's name. -/
def decimalText (int frac width : Nat) (name : String) : String :=
  if frac = 0 then toString int ++ name
  else
    let digits := (Nat.toDigits 10 frac)
    let padded := List.replicate (width - digits.length) '0' ++ digits
    let trimmed := (padded.reverse.dropWhile (· = '0')).reverse
    toString int ++ "." ++ String.ofList trimmed ++ name

def debugText (d : Duration) : String :=
  let s := d.secs
  let n := d.subsecNanos
  if 0 < s then decimalText s n 9 "s"
  else if 1000000 ≤ n then decimalText (n / 1000000) (n % 1000000) 6 "ms"
  else if 1000 ≤ n then decimalText (n / 1000) (n % 1000) 3 "µs"
  else toString n ++ "ns"

end Duration

end DepthFeed
