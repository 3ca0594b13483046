import Mathlib
import DepthFeed.Time.Clock

/-!
# Advancing a manual clock

A manual clock reads a 64-bit word, and an advance adds the duration's
nanoseconds, capped at `2 ^ 64 - 1`, with wrap-around. The readings never
decrease exactly while the capped durations, added up, stay within the word.
-/

namespace DepthFeed

namespace ManualClock

/-- The readings of a clock advanced by each duration in turn: the reading it
starts at, then one after each advance. -/
def readings (c : ManualClock) : List Duration → List UInt64
  | [] => [c.now]
  | d :: ds => c.now :: readings (c.advance d) ds

theorem toNat_durationWord (d : Duration) : (durationWord d).toNat = min d.toNanos (2 ^ 64 - 1) := by
  have h : min d.toNanos 18446744073709551615 < 2 ^ 64 := by omega
  simp only [durationWord, Nat.toUInt64_eq, UInt64.toNat_ofNat', Nat.mod_eq_of_lt h]
  rfl

theorem toNat_now_advance (c : ManualClock) (d : Duration) :
    (c.advance d).now.toNat = (c.now.toNat + min d.toNanos (2 ^ 64 - 1)) % 2 ^ 64 := by
  rw [now_advance, UInt64.toNat_add, toNat_durationWord]

/-- The reading after a run of advances: the capped durations added up,
modulo `2 ^ 64`. -/
theorem now_foldl_advance (c : ManualClock) (ds : List Duration) :
    (ds.foldl advance c).now.toNat =
      (c.now.toNat + (ds.map fun d => min d.toNanos (2 ^ 64 - 1)).sum) % 2 ^ 64 := by
  induction ds generalizing c with
  | nil => simp [Nat.mod_eq_of_lt c.now.toNat_lt]
  | cons d ds ih =>
    rw [List.foldl_cons, ih, toNat_now_advance, List.map_cons, List.sum_cons, Nat.mod_add_mod,
      Nat.add_assoc]

theorem readings_eq_cons (c : ManualClock) (ds : List Duration) :
    ∃ rest, c.readings ds = c.now :: rest := by
  cases ds with
  | nil => exact ⟨[], rfl⟩
  | cons d ds => exact ⟨_, rfl⟩

theorem le_of_readings_pairwise {c : ManualClock} {ds : List Duration}
    (h : (c.readings ds).Pairwise (· ≤ ·)) : ∀ r ∈ c.readings ds, c.now ≤ r := by
  obtain ⟨rest, hrest⟩ := readings_eq_cons c ds
  rw [hrest] at h ⊢
  intro r hr
  rcases List.mem_cons.1 hr with rfl | hr
  · exact UInt64.le_refl _
  · exact List.rel_of_pairwise_cons h hr

/-- The readings never decrease exactly when the capped durations, added to
the first reading, stay within a word: an advance that wraps lands below the
reading before it, since it adds less than `2 ^ 64`. -/
theorem readings_pairwise_iff (c : ManualClock) (ds : List Duration) :
    (c.readings ds).Pairwise (· ≤ ·) ↔
      c.now.toNat + (ds.map fun d => min d.toNanos (2 ^ 64 - 1)).sum < 2 ^ 64 := by
  induction ds generalizing c with
  | nil => simp [readings, c.now.toNat_lt]
  | cons d ds ih =>
    have hstep := toNat_now_advance c d
    have hw : min d.toNanos (2 ^ 64 - 1) < 2 ^ 64 := by omega
    rw [readings, List.pairwise_cons, ih, List.map_cons, List.sum_cons]
    by_cases hwrap : c.now.toNat + min d.toNanos (2 ^ 64 - 1) < 2 ^ 64
    · rw [hstep, Nat.mod_eq_of_lt hwrap, ← Nat.add_assoc]
      constructor
      · exact fun h => h.2
      · intro h
        refine ⟨fun r hr => ?_, h⟩
        -- every later reading is at least the next one, which is at least this one
        have hnext := le_of_readings_pairwise ((ih (c.advance d)).2 (by omega)) r hr
        rw [UInt64.le_iff_toNat_le] at hnext ⊢
        omega
    · have hback : (c.advance d).now < c.now := by
        rw [UInt64.lt_iff_toNat_lt, hstep]
        omega
      have hmem : (c.advance d).now ∈ (c.advance d).readings ds := by
        obtain ⟨rest, hrest⟩ := readings_eq_cons (c.advance d) ds
        rw [hrest]
        exact List.mem_cons_self
      constructor
      · rintro ⟨h, -⟩
        exact absurd (h _ hmem) (UInt64.not_le.2 hback)
      · intro h
        omega

theorem add_sum_min_of_lt (xs : List Nat) :
    ∀ t, t + (xs.map fun x => min x (2 ^ 64 - 1)).sum < 2 ^ 64 →
      t + (xs.map fun x => min x (2 ^ 64 - 1)).sum = min (t + xs.sum) (2 ^ 64 - 1) := by
  induction xs with
  | nil => intro t ht; simp; omega
  | cons x xs ih =>
    intro t ht
    simp only [List.map_cons, List.sum_cons] at ht ⊢
    have := ih (t + min x (2 ^ 64 - 1)) (by omega)
    omega

end ManualClock

/-- Advancing a manual clock: the reading is the first reading plus the
capped durations, modulo `2 ^ 64`; the readings never decrease exactly when
that sum stays within a word; and then the last reading is the first plus
the durations, at most `2 ^ 64 - 1`. -/
theorem advances_wrap (c : ManualClock) (ds : List Duration) :
    (ds.foldl ManualClock.advance c).now.toNat =
      (c.now.toNat + (ds.map fun d => min d.toNanos (2 ^ 64 - 1)).sum) % 2 ^ 64 ∧
    ((c.readings ds).Pairwise (· ≤ ·) ↔
      c.now.toNat + (ds.map fun d => min d.toNanos (2 ^ 64 - 1)).sum < 2 ^ 64) ∧
    ((c.readings ds).Pairwise (· ≤ ·) →
      (ds.foldl ManualClock.advance c).now.toNat =
        min (c.now.toNat + (ds.map Duration.toNanos).sum) (2 ^ 64 - 1)) := by
  refine ⟨ManualClock.now_foldl_advance c ds, ManualClock.readings_pairwise_iff c ds, fun h => ?_⟩
  have hlt := (ManualClock.readings_pairwise_iff c ds).1 h
  rw [ManualClock.now_foldl_advance, Nat.mod_eq_of_lt hlt]
  have := ManualClock.add_sum_min_of_lt (ds.map Duration.toNanos) c.now.toNat
    (by rw [List.map_map]; exact hlt)
  rw [List.map_map] at this
  exact this

/-- Advancing the clock at `1000` by the longest duration moves it back to
`999`: below the reading before, and short of the largest word. -/
theorem advance_moves_back :
    ((⟨1000⟩ : ManualClock).advance (Duration.ofSecs 18446744073709551615)).now = 999 ∧
    ((⟨1000⟩ : ManualClock).advance (Duration.ofSecs 18446744073709551615)).now < 1000 ∧
    ((⟨1000⟩ : ManualClock).advance (Duration.ofSecs 18446744073709551615)).now.toNat ≠
      min (1000 + (Duration.ofSecs 18446744073709551615).toNanos) (2 ^ 64 - 1) := by
  decide

end DepthFeed
