import Mathlib
import DepthFeed.Gateway.Controller
import DepthFeed.Protocol.Timing

/-!
# The retry loop of a connect

The backoff after attempt `j` is the initial one for `j = 1` and
`min (initial * 2 ^ (j - 1)) 10 s` after (`Controller.backoffAt`). A connect is
a run of failed rounds (`Controller.Rounds`) and one of five endings
(`Controller.Ending`), unless a backoff too long for the clock's reading is
reached (`Controller.AbortsAt`); while the clock leaves ten seconds of its
range, only the first backoff can be (`Controller.abortsAt_zero_iff`).
-/

namespace DepthFeed

namespace Duration

theorem ext {a b : Duration} (h : a.toNanos = b.toNanos) : a = b := by
  cases a
  cases b
  simp only at h
  simp [h]

@[simp] theorem toNanos_ofNanos (n : Nat) :
    (ofNanos n).toNanos = Min.min n maxDurationNanos := rfl

@[simp] theorem toNanos_double (d : Duration) :
    d.double.toNanos = Min.min (2 * d.toNanos) maxDurationNanos := rfl

@[simp] theorem toNanos_min (a b : Duration) :
    (a.min b).toNanos = Min.min a.toNanos b.toNanos := by
  unfold Duration.min
  split <;> omega

end Duration

namespace Controller

variable {σ : Type}

/-- The backoff slept after attempt `j`: the initial backoff after the first
attempt, then the initial backoff doubled `j - 1` times, at most ten seconds. -/
def backoffAt (c : Controller) (j : Nat) : Duration :=
  if j ≤ 1 then c.initialBackoff
  else Duration.ofNanos (min (c.initialBackoff.toNanos * 2 ^ (j - 1)) maxBackoff.toNanos)

theorem toNanos_maxBackoff : maxBackoff.toNanos = 10 * nanosPerSec := by
  decide

theorem maxBackoff_le_maxDurationNanos : 10 * nanosPerSec ≤ maxDurationNanos := by
  decide

theorem maxBackoff_le_sleepHorizon {now : Duration}
    (h : now.toNanos + maxBackoff.toNanos < deadlineLimit) : maxBackoff ≤ sleepHorizon now := by
  have hlim : deadlineLimit ≤ maxDurationNanos := by decide
  show maxBackoff.toNanos ≤ (sleepHorizon now).toNanos
  rw [sleepHorizon, Duration.toNanos_ofNanos]
  omega

theorem backoffAt_one (c : Controller) : c.backoffAt 1 = c.initialBackoff := by
  simp [backoffAt]

theorem toNanos_backoffAt (c : Controller) {j : Nat} (hj : 2 ≤ j) :
    (c.backoffAt j).toNanos = min (c.initialBackoff.toNanos * 2 ^ (j - 1)) (10 * nanosPerSec) := by
  have hmax := maxBackoff_le_maxDurationNanos
  rw [backoffAt, if_neg (by omega), Duration.toNanos_ofNanos, toNanos_maxBackoff]
  omega

theorem backoffAt_le_maxBackoff (c : Controller) {j : Nat} (hj : 2 ≤ j) :
    c.backoffAt j ≤ maxBackoff := by
  show (c.backoffAt j).toNanos ≤ maxBackoff.toNanos
  rw [toNanos_backoffAt c hj, toNanos_maxBackoff]
  omega

theorem nextBackoff_backoffAt (c : Controller) {j : Nat} (hj : 1 ≤ j) :
    nextBackoff (c.backoffAt j) = c.backoffAt (j + 1) := by
  have hmax := maxBackoff_le_maxDurationNanos
  apply Duration.ext
  rw [nextBackoff, Duration.toNanos_min, Duration.toNanos_double, toNanos_maxBackoff,
    toNanos_backoffAt c (by omega : 2 ≤ j + 1)]
  rcases Nat.eq_or_lt_of_le hj with rfl | hj
  · rw [backoffAt_one, Nat.add_sub_cancel, Nat.pow_one]
    omega
  · -- one more doubling of a capped backoff stays capped
    have hpow : c.initialBackoff.toNanos * 2 ^ (j + 1 - 1) =
        2 * (c.initialBackoff.toNanos * 2 ^ (j - 1)) := by
      rw [show j + 1 - 1 = (j - 1) + 1 by omega, Nat.pow_succ, ← Nat.mul_assoc, Nat.mul_comm _ 2]
    rw [toNanos_backoffAt c (by omega : 2 ≤ j), hpow]
    omega

/-! ## The runs of a connect -/

/-- Failed rounds: from attempt count `i` in world `s`, the next attempt
within the budget was made with the caller's interrupt down and failed with
it still down, then the round's backoff, which fit, was slept in full;
`Rounds c k i s n w` ends at attempt count `n` in world `w`. -/
inductive Rounds (c : Controller) (k : Connector σ) : Nat → σ → Nat → σ → Prop
  | done (i : Nat) (s : σ) : Rounds c k i s i s
  | retry {i n : Nat} {s s₁ s₂ w : σ} {e : AttemptError} :
      k.callerRaised s = false → k.attempt s = (.error e, s₁) → k.callerRaised s₁ = false →
      i + 1 < c.maxAttempts → ¬ sleepHorizon (k.uptime s₁) < c.backoffAt (i + 1) →
      k.sleep s₁ (c.backoffAt (i + 1)) = (true, s₂) →
      Rounds c k (i + 1) s₂ n w → Rounds c k i s n w

/-- How a connect ends after `n` attempts in world `w`: the caller's interrupt
seen before the next attempt; that attempt succeeding; failing with the
interrupt seen after it; failing as the last of the budget; or failing with
the backoff after it cut short. -/
inductive Ending (c : Controller) (k : Connector σ) (n : Nat) (w : σ) :
    Except ConnectError Unit → σ → Prop
  | interruptedBefore : k.callerRaised w = true → Ending c k n w (.error .interrupted) w
  | succeeded {w' : σ} : k.callerRaised w = false → k.attempt w = (.ok (), w') →
      Ending c k n w (.ok ()) w'
  | interruptedAfter {w' : σ} {e : AttemptError} : k.callerRaised w = false →
      k.attempt w = (.error e, w') → k.callerRaised w' = true →
      Ending c k n w (.error .interrupted) w'
  | exhausted {w' : σ} {e : AttemptError} : k.callerRaised w = false →
      k.attempt w = (.error e, w') → k.callerRaised w' = false → n + 1 = c.maxAttempts →
      Ending c k n w (.error (.exhausted c.maxAttempts e)) w'
  | interruptedSleeping {w₁ w' : σ} {e : AttemptError} : k.callerRaised w = false →
      k.attempt w = (.error e, w₁) → k.callerRaised w₁ = false → n + 1 < c.maxAttempts →
      ¬ sleepHorizon (k.uptime w₁) < c.backoffAt (n + 1) →
      k.sleep w₁ (c.backoffAt (n + 1)) = (false, w') → Ending c k n w (.error .interrupted) w'

/-- A run from attempt count `i` in world `s`: failed rounds, then an ending. -/
def Ends (c : Controller) (k : Connector σ) (i : Nat) (s : σ) (res : Except ConnectError Unit)
    (s' : σ) : Prop :=
  ∃ n w, Rounds c k i s n w ∧ Ending c k n w res s'

/-- The next attempt fails within the budget, with the caller's interrupt down
before and after, and the backoff after it is too long to schedule from the
clock's reading then. -/
structure Overflows (c : Controller) (k : Connector σ) (i : Nat) (s : σ) : Prop where
  within : i + 1 < c.maxAttempts
  quiet : k.callerRaised s = false
  fails : ∃ e s₁, k.attempt s = (.error e, s₁) ∧ k.callerRaised s₁ = false ∧
    sleepHorizon (k.uptime s₁) < c.backoffAt (i + 1)

/-- Failed rounds from attempt count `i` in world `s`, then a round whose
backoff is too long to schedule. -/
def AbortsAt (c : Controller) (k : Connector σ) (i : Nat) (s : σ) : Prop :=
  ∃ n w, Rounds c k i s n w ∧ Overflows c k n w

variable {c : Controller} {k : Connector σ} {i : Nat} {s s₁ s₂ s' : σ}
  {res : Except ConnectError Unit} {e : AttemptError}

theorem Rounds.lt_maxAttempts {n : Nat} {w : σ} (h : Rounds c k i s n w) (hi : i < c.maxAttempts) :
    n < c.maxAttempts := by
  induction h with
  | done => exact hi
  | retry _ _ _ hN _ _ _ ih => exact ih hN

theorem Rounds.le {n : Nat} {w : σ} (h : Rounds c k i s n w) : i ≤ n := by
  induction h with
  | done => exact Nat.le_refl _
  | retry _ _ _ _ _ _ _ ih => omega

/-- Before an abort, the next attempt is made with the interrupt down and fails
with it still down, within the budget. -/
theorem AbortsAt.first (h : c.AbortsAt k i s) :
    i + 1 < c.maxAttempts ∧ k.callerRaised s = false ∧
      ∃ e s₁, k.attempt s = (.error e, s₁) ∧ k.callerRaised s₁ = false := by
  obtain ⟨n, w, hr, ho⟩ := h
  cases hr with
  | done =>
    obtain ⟨e, s₁, ha, h1, -⟩ := ho.fails
    exact ⟨ho.within, ho.quiet, e, s₁, ha, h1⟩
  | retry h0 ha h1 hN _ _ _ => exact ⟨hN, h0, _, _, ha, h1⟩

/-- While the clock reads at least ten seconds short of the end of its range,
every backoff after the first fits, so a connect can abort only at its first
backoff. -/
theorem abortsAt_zero_iff
    (hclock : ∀ w, (k.uptime w).toNanos + maxBackoff.toNanos < deadlineLimit) :
    c.AbortsAt k 0 s ↔ c.Overflows k 0 s := by
  constructor
  · rintro ⟨n, w, hr, ho⟩
    cases hr with
    | done => exact ho
    | retry _ _ _ _ _ _ hrest =>
      -- a later round's backoff is capped at ten seconds, which fit
      obtain ⟨e, w₁, -, -, hover⟩ := ho.fails
      have hcap : (c.backoffAt (n + 1)).toNanos ≤ maxBackoff.toNanos :=
        c.backoffAt_le_maxBackoff (by have := hrest.le; omega)
      have hfit : maxBackoff.toNanos ≤ (sleepHorizon (k.uptime w₁)).toNanos :=
        maxBackoff_le_sleepHorizon (hclock w₁)
      have hover' : (sleepHorizon (k.uptime w₁)).toNanos < (c.backoffAt (n + 1)).toNanos := hover
      omega
  · intro ho
    exact ⟨0, s, .done _ _, ho⟩

/-! ## One pass of the loop, on the side of the runs -/

theorem ends_of_raised (h : k.callerRaised s = true) :
    Ends c k i s res s' ↔ res = .error .interrupted ∧ s' = s := by
  constructor
  · rintro ⟨n, w, hr, he⟩
    cases hr with
    | done =>
      cases he with
      | interruptedBefore => exact ⟨rfl, rfl⟩
      | succeeded h0 => simp [h] at h0
      | interruptedAfter h0 => simp [h] at h0
      | exhausted h0 => simp [h] at h0
      | interruptedSleeping h0 => simp [h] at h0
    | retry h0 => simp [h] at h0
  · rintro ⟨rfl, rfl⟩
    exact ⟨_, _, .done _ _, .interruptedBefore h⟩

theorem ends_of_succeeded (h0 : k.callerRaised s = false) (ha : k.attempt s = (.ok (), s₁)) :
    Ends c k i s res s' ↔ res = .ok () ∧ s' = s₁ := by
  constructor
  · rintro ⟨n, w, hr, he⟩
    cases hr with
    | done =>
      cases he with
      | interruptedBefore h => simp [h0] at h
      | succeeded _ ha' => exact ⟨rfl, by simp_all⟩
      | interruptedAfter _ ha' => simp [ha] at ha'
      | exhausted _ ha' => simp [ha] at ha'
      | interruptedSleeping _ ha' => simp [ha] at ha'
    | retry _ ha' => simp [ha] at ha'
  · rintro ⟨rfl, rfl⟩
    exact ⟨_, _, .done _ _, .succeeded h0 ha⟩

theorem ends_of_interruptedAfter (h0 : k.callerRaised s = false)
    (ha : k.attempt s = (.error e, s₁)) (h1 : k.callerRaised s₁ = true) :
    Ends c k i s res s' ↔ res = .error .interrupted ∧ s' = s₁ := by
  constructor
  · rintro ⟨n, w, hr, he⟩
    cases hr with
    | done =>
      cases he with
      | interruptedBefore h => simp [h0] at h
      | succeeded _ ha' => simp [ha] at ha'
      | interruptedAfter _ ha' => exact ⟨rfl, by simp_all⟩
      | exhausted _ ha' h1' => simp_all
      | interruptedSleeping _ ha' h1' => simp_all
    | retry _ ha' h1' => simp_all
  · rintro ⟨rfl, rfl⟩
    exact ⟨_, _, .done _ _, .interruptedAfter h0 ha h1⟩

theorem ends_of_exhausted (h0 : k.callerRaised s = false) (ha : k.attempt s = (.error e, s₁))
    (h1 : k.callerRaised s₁ = false) (hN : i + 1 = c.maxAttempts) :
    Ends c k i s res s' ↔ res = .error (.exhausted c.maxAttempts e) ∧ s' = s₁ := by
  constructor
  · rintro ⟨n, w, hr, he⟩
    cases hr with
    | done =>
      cases he with
      | interruptedBefore h => simp [h0] at h
      | succeeded _ ha' => simp [ha] at ha'
      | interruptedAfter _ ha' h1' => simp_all
      | exhausted _ ha' => simp_all
      | interruptedSleeping _ _ _ hN' => omega
    | retry _ _ _ hN' => omega
  · rintro ⟨rfl, rfl⟩
    exact ⟨_, _, .done _ _, .exhausted h0 ha h1 hN⟩

theorem ends_of_cut (h0 : k.callerRaised s = false) (ha : k.attempt s = (.error e, s₁))
    (h1 : k.callerRaised s₁ = false) (hN : i + 1 < c.maxAttempts)
    (hb : ¬ sleepHorizon (k.uptime s₁) < c.backoffAt (i + 1))
    (hs : k.sleep s₁ (c.backoffAt (i + 1)) = (false, s₂)) :
    Ends c k i s res s' ↔ res = .error .interrupted ∧ s' = s₂ := by
  constructor
  · rintro ⟨n, w, hr, he⟩
    cases hr with
    | done =>
      cases he with
      | interruptedBefore h => simp [h0] at h
      | succeeded _ ha' => simp [ha] at ha'
      | interruptedAfter _ ha' h1' => simp_all
      | exhausted _ _ _ hN' => omega
      | interruptedSleeping _ ha' _ _ _ hs' => simp_all
    | retry _ ha' _ _ _ hs' => simp_all
  · rintro ⟨rfl, rfl⟩
    exact ⟨_, _, .done _ _, .interruptedSleeping h0 ha h1 hN hb hs⟩

theorem ends_of_retry (h0 : k.callerRaised s = false) (ha : k.attempt s = (.error e, s₁))
    (h1 : k.callerRaised s₁ = false) (hN : i + 1 < c.maxAttempts)
    (hb : ¬ sleepHorizon (k.uptime s₁) < c.backoffAt (i + 1))
    (hs : k.sleep s₁ (c.backoffAt (i + 1)) = (true, s₂)) :
    Ends c k i s res s' ↔ Ends c k (i + 1) s₂ res s' := by
  constructor
  · rintro ⟨n, w, hr, he⟩
    cases hr with
    | done =>
      cases he with
      | interruptedBefore h => simp [h0] at h
      | succeeded _ ha' => simp [ha] at ha'
      | interruptedAfter _ ha' h1' => simp_all
      | exhausted _ _ _ hN' => omega
      | interruptedSleeping _ ha' _ _ _ hs' => simp_all
    | retry _ ha' _ _ _ hs' hr =>
      rw [ha] at ha'
      cases ha'
      rw [hs] at hs'
      cases hs'
      exact ⟨n, w, hr, he⟩
  · rintro ⟨n, w, hr, he⟩
    exact ⟨n, w, .retry h0 ha h1 hN hb hs hr, he⟩

theorem not_abortsAt_of_cut (ha : k.attempt s = (.error e, s₁))
    (hb : ¬ sleepHorizon (k.uptime s₁) < c.backoffAt (i + 1))
    (hs : k.sleep s₁ (c.backoffAt (i + 1)) = (false, s₂)) : ¬ c.AbortsAt k i s := by
  rintro ⟨n, w, hr, ho⟩
  cases hr with
  | done =>
    obtain ⟨e', s₁', ha', -, hover⟩ := ho.fails
    rw [ha] at ha'
    cases ha'
    exact hb hover
  | retry _ ha' _ _ _ hs' =>
    rw [ha] at ha'
    cases ha'
    rw [hs] at hs'
    cases hs'

theorem abortsAt_of_retry (h0 : k.callerRaised s = false) (ha : k.attempt s = (.error e, s₁))
    (h1 : k.callerRaised s₁ = false) (hN : i + 1 < c.maxAttempts)
    (hb : ¬ sleepHorizon (k.uptime s₁) < c.backoffAt (i + 1))
    (hs : k.sleep s₁ (c.backoffAt (i + 1)) = (true, s₂)) :
    c.AbortsAt k i s ↔ c.AbortsAt k (i + 1) s₂ := by
  constructor
  · rintro ⟨n, w, hr, ho⟩
    cases hr with
    | done =>
      obtain ⟨e', s₁', ha', -, hover⟩ := ho.fails
      rw [ha] at ha'
      cases ha'
      exact absurd hover hb
    | retry _ ha' _ _ _ hs' hr =>
      rw [ha] at ha'
      cases ha'
      rw [hs] at hs'
      cases hs'
      exact ⟨n, w, hr, ho⟩
  · rintro ⟨n, w, hr, ho⟩
    exact ⟨n, w, .retry h0 ha h1 hN hb hs hr, ho⟩

/-! ## The loop -/

theorem outcome_of_eq_some {x : Option (Except ConnectError Unit × σ)} {r : Except ConnectError Unit}
    {w : σ} {A : Prop} {E : Except ConnectError Unit → σ → Prop} (hx : x = some (r, w)) (hA : ¬A)
    (hE : ∀ res s', E res s' ↔ res = r ∧ s' = w) :
    (x = none ↔ A) ∧ ∀ res s', x = some (res, s') ↔ E res s' ∧ ¬A := by
  subst hx
  refine ⟨iff_of_false (by simp) hA, fun res s' => ?_⟩
  rw [hE, Option.some.injEq, Prod.mk.injEq]
  constructor
  · rintro ⟨rfl, rfl⟩
    exact ⟨⟨rfl, rfl⟩, hA⟩
  · rintro ⟨⟨rfl, rfl⟩, -⟩
    exact ⟨rfl, rfl⟩

/-- From attempt count `i` within the budget, with fuel for the rest of it and
the backoff of its round, the loop aborts exactly when `AbortsAt` says, and
otherwise ends as the runs say. -/
theorem connectFrom_backoffAt {fuel : Nat} (hfuel : fuel + i = c.maxAttempts)
    (hi : i < c.maxAttempts) (s : σ) :
    (c.connectFrom k fuel i (c.backoffAt (i + 1)) s = none ↔ c.AbortsAt k i s) ∧
    ∀ res s', c.connectFrom k fuel i (c.backoffAt (i + 1)) s = some (res, s') ↔
      Ends c k i s res s' ∧ ¬c.AbortsAt k i s := by
  induction fuel generalizing i s with
  | zero => omega
  | succ fuel ih =>
    -- the loop body's branches, in the order it takes them
    cases h0 : k.callerRaised s
    case true =>
      exact outcome_of_eq_some (by simp [connectFrom, h0])
        (fun h => absurd h.first.2.1 (by simp [h0])) fun _ _ => ends_of_raised h0
    rcases hk : k.attempt s with ⟨out, s₁⟩
    cases out with
    | ok u =>
      exact outcome_of_eq_some (by simp [connectFrom, h0, hk])
        (fun h => by obtain ⟨e, s₁', ha, -⟩ := h.first.2.2; simp [hk] at ha)
        fun _ _ => ends_of_succeeded h0 hk
    | error e =>
    cases h1 : k.callerRaised s₁
    case true =>
      exact outcome_of_eq_some (by simp [connectFrom, h0, hk, h1])
        (fun h => by obtain ⟨e', s₁', ha, h1'⟩ := h.first.2.2; simp_all)
        fun _ _ => ends_of_interruptedAfter h0 hk h1
    by_cases hN : c.maxAttempts ≤ i + 1
    · have hlast : i + 1 = c.maxAttempts := by omega
      exact outcome_of_eq_some (by simp [connectFrom, h0, hk, h1, hlast])
        (fun h => absurd h.first.1 (by omega)) fun _ _ => ends_of_exhausted h0 hk h1 hlast
    have hN' : i + 1 < c.maxAttempts := by omega
    by_cases hb : sleepHorizon (k.uptime s₁) < c.backoffAt (i + 1)
    · -- the backoff cannot be scheduled: the process aborts
      have hx : c.connectFrom k (fuel + 1) i (c.backoffAt (i + 1)) s = none := by
        simp [connectFrom, h0, hk, h1, hN, hb]
      have hA : c.AbortsAt k i s := ⟨i, s, .done _ _, hN', h0, e, s₁, hk, h1, hb⟩
      rw [hx]
      exact ⟨iff_of_true rfl hA, fun _ _ => iff_of_false (by simp) fun h => h.2 hA⟩
    rcases hs : k.sleep s₁ (c.backoffAt (i + 1)) with ⟨slept, s₂⟩
    cases slept with
    | false =>
      exact outcome_of_eq_some (by simp [connectFrom, h0, hk, h1, hN, hb, hs])
        (not_abortsAt_of_cut hk hb hs) fun _ _ => ends_of_cut h0 hk h1 hN' hb hs
    | true =>
      -- a full sleep: on to the next attempt
      have hx : c.connectFrom k (fuel + 1) i (c.backoffAt (i + 1)) s =
          c.connectFrom k fuel (i + 1) (c.backoffAt (i + 1 + 1)) s₂ := by
        simp [connectFrom, h0, hk, h1, hN, hb, hs, c.nextBackoff_backoffAt (Nat.le_add_left 1 i)]
      have hA := abortsAt_of_retry h0 hk h1 hN' hb hs
      obtain ⟨hnone, hsome⟩ := ih (i := i + 1) (by omega) hN' s₂
      rw [hx]
      refine ⟨hnone.trans hA.symm, fun res s' => ?_⟩
      rw [hsome, ends_of_retry h0 hk h1 hN' hb hs, hA]

/-- A connect from any world is a run of failed rounds within the budget
followed by one of the five endings, unless its first backoff is reached and
too long to schedule, when it aborts. -/
theorem connect_retries (c : Controller) (k : Connector σ) (s : σ) :
    (c.connect k s = none ↔ c.AbortsAt k 0 s) ∧
    ∀ res s', c.connect k s = some (res, s') ↔
      (∃ n w, c.Rounds k 0 s n w ∧ n < c.maxAttempts ∧ c.Ending k n w res s') ∧
        ¬c.AbortsAt k 0 s := by
  have hrun : c.connect k s = c.connectFrom k c.maxAttempts 0 (c.backoffAt (0 + 1)) s := by
    rw [Nat.zero_add, backoffAt_one]
    rfl
  obtain ⟨hnone, hsome⟩ := connectFrom_backoffAt (show c.maxAttempts + 0 = c.maxAttempts from rfl)
    c.maxAttempts_pos s
  rw [hrun]
  refine ⟨hnone, fun res s' => (hsome res s').trans (and_congr_left fun _ => ?_)⟩
  -- the rounds stay within the budget by themselves
  exact ⟨fun ⟨n, w, hr, he⟩ => ⟨n, w, hr, hr.lt_maxAttempts c.maxAttempts_pos, he⟩,
    fun ⟨n, w, hr, _, he⟩ => ⟨n, w, hr, he⟩⟩

/-- One failed attempt, a full backoff, then a successful second attempt. -/
theorem connect_retries_after_one_failure :
    let c : Controller := ⟨Duration.ofSecs 5, 1, Duration.ofMillis 1⟩
    let k := Protocol.ScriptedConnector.connector (Duration.ofSecs 5)
    let s : Protocol.ScriptedConnector := ⟨[.fail .connectionLost], 0, false, none⟩
    ∃ s', c.connect k s = some (.ok (), s') ∧
      ∃ n w, c.Rounds k 0 s n w ∧ n < c.maxAttempts ∧ c.Ending k n w (.ok ()) s' := by
  intro c k s
  have h : c.connect k s = some (.ok (), ⟨[], 2, false, none⟩) := rfl
  exact ⟨_, h, (((connect_retries c k s).2 _ _).1 h).1⟩

/-- A connect whose first attempt fails, with a retry left and a first backoff
of `2 ^ 64 - 1` seconds, has no outcome: the process aborts at the backoff. -/
theorem connect_aborts_on_overlong_backoff :
    Controller.connect ⟨Duration.ofSecs 5, 1, Duration.ofSecs 18446744073709551615⟩
      (Protocol.ScriptedConnector.connector (Duration.ofSecs 5))
      ⟨[.fail .connectionLost], 0, false, none⟩ = none := rfl

end Controller

end DepthFeed
