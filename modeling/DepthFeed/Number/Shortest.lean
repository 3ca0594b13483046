import DepthFeed.Number.Binary64

/-!
# Shortest decimal text of a binary64 value

Every finite binary64 value owns an interval of reals that round to it. The
shortest decimal that lies in that interval, and of two such the nearer, reads
back as the same value; `Binary64.shortest` finds it by trying one digit, then
two, up to seventeen, on exact natural-number arithmetic. `Binary64.text`
writes the digits positionally when the decimal exponent lies in `[-5, 16)`,
with `.0` on whole numbers, and as `d.ddde±XX` otherwise.
-/

namespace DepthFeed

namespace Binary64

/-- The number of decimal digits of a positive natural number. -/
def digitCount (n : Nat) : Nat := (Nat.toDigits 10 n).length

/-- The exponent `K` with `10 ^ K ≤ a / b < 10 ^ (K + 1)`, for positive `a` and `b`. -/
def floorLog10 (a b : Nat) : Int :=
  if b ≤ a then (digitCount (a / b) : Int) - 1
  else -(digitCount ((b - 1) / a) : Int)

/-- The rounding interval of a positive finite value over one denominator:
lower end, value, upper end, denominator, and whether the ends belong to it. -/
def roundingInterval (x : Binary64) : Nat × Nat × Nat × Nat × Bool :=
  let m := x.significand
  let t := x.exponent - 2
  let scale := if 0 ≤ t then Nat.pow 2 t.toNat else 1
  let den := if 0 ≤ t then 1 else Nat.pow 2 (-t).toNat
  -- below a power of two the gap to the next smaller value is half as wide
  let below := if x.fraction = 0 ∧ 1 < x.biased then 4 * m - 1 else 4 * m - 2
  (below * scale, 4 * m * scale, (4 * m + 2) * scale, den, m % 2 == 0)

/-- `c * 10 ^ k * den` and `n * 10 ^ -k` brought to one scale, for comparing
the grid point `c * 10 ^ k` with the fraction `n / den`. -/
def gridScaled (c : Nat) (k : Int) (n den : Nat) : Nat × Nat :=
  if 0 ≤ k then (c * Nat.pow 10 k.toNat * den, n) else (c * den, n * Nat.pow 10 (-k).toNat)

/-- Whether the grid point `c * 10 ^ k` lies in the interval `[lo, hi] / den`,
the ends counted when `closed`. -/
def onGridInside (c : Nat) (k : Int) (lo hi den : Nat) (closed : Bool) : Bool :=
  let (p, l) := gridScaled c k lo den
  let (p', h) := gridScaled c k hi den
  (if closed then decide (l ≤ p) else decide (l < p)) &&
    (if closed then decide (p' ≤ h) else decide (p' < h))

/-- The shortest decimal `(c, k)` with `c * 10 ^ k` inside the rounding
interval, trying `n` digits first and at most `fuel` more lengths. -/
def shortestFrom (lo v hi den : Nat) (closed : Bool) (top : Int) : Nat → Nat → Nat × Int
  | 0, _ => (0, 0)
  | fuel + 1, n =>
    let k : Int := top - n + 1
    let (cv, vs) := gridScaled 1 k v den
    -- `cv / vs` is `10 ^ k / v`, so the candidates below and above are:
    let cLo := vs / cv
    let cHi := cLo + 1
    let inLo := decide (0 < cLo) && onGridInside cLo k lo hi den closed
    let inHi := onGridInside cHi k lo hi den closed
    if inLo && inHi then
      -- of two hits the nearer wins, an exact tie the even one
      let dLo := vs - cLo * cv
      let dHi := cHi * cv - vs
      if dLo < dHi then (cLo, k) else if dHi < dLo then (cHi, k)
      else if cLo % 2 = 0 then (cLo, k) else (cHi, k)
    else if inLo then (cLo, k)
    else if inHi then (cHi, k)
    else shortestFrom lo v hi den closed top fuel (n + 1)

/-- Drops trailing zero digits, raising the exponent to match. -/
def trimZeros : Nat → Nat × Int → Nat × Int
  | 0, d => d
  | fuel + 1, (c, k) => if c ≠ 0 ∧ c % 10 = 0 then trimZeros fuel (c / 10, k + 1) else (c, k)

/-- The shortest decimal digits `c` and exponent `k` of a positive finite
value, with `c * 10 ^ k` reading back as the value. -/
def shortest (x : Binary64) : Nat × Int :=
  let (lo, v, hi, den, closed) := roundingInterval x
  let top := floorLog10 v den
  trimZeros 20 (shortestFrom lo v hi den closed top 17 1)

def zeros (n : Nat) : String := String.ofList (List.replicate n '0')

/-- The decimal text of a value: positional for decimal exponents in
`[-5, 16)`, else scientific with the exponent unpadded and signed (`1e-7`,
`1e+16`). -/
def text (x : Binary64) : String :=
  let sign := if x.negative then "-" else ""
  if x.isInfinite then sign ++ "inf"
  else if x.isZero then sign ++ "0.0"
  else
    let (c, k) := x.shortest
    let ds := toString c
    let n := ds.length
    let e : Int := k + n - 1
    if -5 ≤ e ∧ e < 16 then
      if n - 1 ≤ e then sign ++ ds ++ zeros (e.toNat - (n - 1)) ++ ".0"
      else if 0 ≤ e then
        sign ++ String.ofList (ds.toList.take (e.toNat + 1)) ++ "." ++
          String.ofList (ds.toList.drop (e.toNat + 1))
      else sign ++ "0." ++ zeros ((-e).toNat - 1) ++ ds
    else
      let mant := match ds.toList with
        | d :: rest@(_ :: _) => String.ofList (d :: '.' :: rest)
        | _ => ds
      sign ++ mant ++ "e" ++ (if e < 0 then "-" else "+") ++ toString e.natAbs

end Binary64

end DepthFeed
