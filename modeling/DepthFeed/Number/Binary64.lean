/-!
# Binary64 numbers

A binary64 value held by its three fields: sign, biased exponent and fraction.
Its magnitude is an exact ratio of natural numbers, and `ofRatio` rounds a ratio
to the nearest value, a tie going to the even significand. Products and
quotients are the exact result rounded once, which is what binary64 hardware
computes. Decimal numbers in configuration documents and in requests are
converted to binary64 through these operations, one multiplication or division
by a power of ten at a time.
-/

namespace DepthFeed

/-- A binary64 value by its fields. A biased exponent of 2047 is infinity;
zero is the biased exponent 0 with fraction 0. -/
structure Binary64 where
  negative : Bool
  biased : Nat
  fraction : Nat
  deriving DecidableEq, Repr

namespace Binary64

def zero : Binary64 := ⟨false, 0, 0⟩

def isInfinite (x : Binary64) : Bool := decide (2047 ≤ x.biased)

def isZero (x : Binary64) : Bool := x.biased == 0 && x.fraction == 0

def significand (x : Binary64) : Nat :=
  if x.biased = 0 then x.fraction else x.fraction + Nat.pow 2 52

def exponent (x : Binary64) : Int :=
  if x.biased = 0 then -1074 else (x.biased : Int) - 1075

/-- The magnitude of a finite value as numerator and denominator. -/
def magnitude (x : Binary64) : Nat × Nat :=
  if 0 ≤ x.exponent then (x.significand * Nat.pow 2 x.exponent.toNat, 1)
  else (x.significand, Nat.pow 2 (-x.exponent).toNat)

/-- The exponent `e` with `2 ^ e ≤ a / b < 2 ^ (e + 1)`, for positive `a` and `b`. -/
def floorLog2 (a b : Nat) : Int :=
  let la := Nat.log2 a
  let lb := Nat.log2 b
  if b * Nat.pow 2 la ≤ a * Nat.pow 2 lb then (la : Int) - lb else (la : Int) - lb - 1

/-- The binary64 value nearest to `a / b` with the given sign; a tie goes to
the even significand and a magnitude beyond the largest finite value becomes
infinity. A zero numerator or denominator gives zero. -/
def ofRatio (negative : Bool) (a b : Nat) : Binary64 :=
  if a = 0 ∨ b = 0 then ⟨negative, 0, 0⟩ else
  let e2 := floorLog2 a b
  let s : Int := if e2 < -1022 then -1074 else e2 - 52
  let num := if s ≤ 0 then a * Nat.pow 2 (-s).toNat else a
  let den := if s ≤ 0 then b else b * Nat.pow 2 s.toNat
  let q := num / den
  let r := num % den
  let m := if den < 2 * r ∨ (2 * r = den ∧ q % 2 = 1) then q + 1 else q
  let carried := m = Nat.pow 2 53
  let m := if carried then Nat.pow 2 52 else m
  let s := if carried then s + 1 else s
  if 1023 < s + 52 then ⟨negative, 2047, 0⟩
  else if m < Nat.pow 2 52 then ⟨negative, 0, m⟩
  else ⟨negative, (s + 1075).toNat, m - Nat.pow 2 52⟩

def ofNat (n : Nat) : Binary64 := ofRatio false n 1

def mul (x y : Binary64) : Binary64 :=
  let (a, b) := x.magnitude
  let (c, d) := y.magnitude
  ofRatio (x.negative != y.negative) (a * c) (b * d)

/-- The correctly rounded quotient of two finite values, the divisor nonzero. -/
def div (x y : Binary64) : Binary64 :=
  let (a, b) := x.magnitude
  let (c, d) := y.magnitude
  ofRatio (x.negative != y.negative) (a * d) (b * c)

def neg (x : Binary64) : Binary64 := { x with negative := !x.negative }

def pow10 (k : Nat) : Binary64 := ofRatio false (Nat.pow 10 k) 1

end Binary64

end DepthFeed
