import Mathlib
import DepthFeed.Gateway.Schedule

/-!
# When a schedule fires

A schedule's history lists its starts, its checks with whether they fired,
and the triggers raised (`Schedule.Event`). A trigger is pending when no check
of the started schedule came after it, and the schedule was last armed at its
latest start or firing check. The proof carries one invariant along the
history (`Schedule.Tracks`): the flag is raised exactly when a trigger is
pending, and the due time is one capped interval after the last arming.
-/

namespace DepthFeed

namespace Schedule

/-- What a history records: a start or a check at a clock reading, the check
with whether it fired, and a raised trigger. -/
inductive Event where
  | start (now : UInt64)
  | check (now : UInt64) (fired : Bool)
  | trigger
  deriving DecidableEq

namespace Event

/-- The reading an event arms the schedule at: a start, or a check that fired. -/
def arming : Event → Option UInt64
  | .start now => some now
  | .check now true => some now
  | _ => none

def reading? : Event → Option UInt64
  | .start now => some now
  | .check now _ => some now
  | .trigger => none

def isCheck : Event → Bool
  | .check _ _ => true
  | _ => false

theorem reading?_of_arming {e : Event} {t : UInt64} (h : e.arming = some t) :
    e.reading? = some t := by
  rcases e with now | ⟨now, _ | _⟩ | _ <;> simp_all [arming, reading?]

end Event

def Started (h : List Event) : Prop := ∃ now, Event.start now ∈ h

/-- Event `j` of the history is a check made after a start. -/
def StartedCheck (h : List Event) (j : Nat) : Prop :=
  (∃ now fired, h[j]? = some (.check now fired)) ∧ Started (h.take j)

/-- A trigger is pending: one was raised, and no check of the started schedule
came after it. -/
def Pending (h : List Event) : Prop :=
  ∃ i, h[i]? = some .trigger ∧ ∀ j, i < j → ¬ StartedCheck h j

/-- The reading the schedule was last armed at: its latest start or firing check. -/
def lastArm (h : List Event) : Option UInt64 := h.reverse.findSome? Event.arming

/-- `Run s₀ h s`: the history `h`, played on `s₀`, leaves `s`. -/
inductive Run (s₀ : Schedule) : List Event → Schedule → Prop
  | nil : Run s₀ [] s₀
  | start {h : List Event} {s : Schedule} (now : UInt64) :
      Run s₀ h s → Run s₀ (h ++ [.start now]) (s.start now)
  | check {h : List Event} {s s' : Schedule} {now : UInt64} {b : Bool} :
      Run s₀ h s → s.check now = (b, s') → Run s₀ (h ++ [.check now b]) s'
  | trigger {h : List Event} {s : Schedule} :
      Run s₀ h s → Run s₀ (h ++ [.trigger]) s.trigger

/-! ## Histories -/

section History

variable {h : List Event} {e : Event}

theorem started_append : Started (h ++ [e]) ↔ Started h ∨ ∃ now, e = .start now := by
  simp only [Started, List.mem_append, List.mem_singleton]
  constructor
  · rintro ⟨now, hmem | rfl⟩
    · exact .inl ⟨now, hmem⟩
    · exact .inr ⟨now, rfl⟩
  · rintro (⟨now, hmem⟩ | ⟨now, rfl⟩)
    · exact ⟨now, .inl hmem⟩
    · exact ⟨now, .inr rfl⟩

theorem StartedCheck.lt_length {j : Nat} (hj : StartedCheck h j) : j < h.length := by
  obtain ⟨⟨now, fired, hget⟩, -⟩ := hj
  exact (List.getElem?_eq_some_iff.mp hget).1

theorem startedCheck_append_of_lt {j : Nat} (hj : j < h.length) :
    StartedCheck (h ++ [e]) j ↔ StartedCheck h j := by
  unfold StartedCheck
  rw [List.getElem?_append_left hj, List.take_append_of_le_length (Nat.le_of_lt hj)]

theorem startedCheck_append_length :
    StartedCheck (h ++ [e]) h.length ↔ e.isCheck = true ∧ Started h := by
  unfold StartedCheck
  rw [List.getElem?_concat_length, List.take_left]
  constructor
  · rintro ⟨⟨now, fired, he⟩, hs⟩
    cases he
    exact ⟨rfl, hs⟩
  · rintro ⟨hc, hs⟩
    rcases e with now | ⟨now, fired⟩ | _
    · simp [Event.isCheck] at hc
    · exact ⟨⟨now, fired, rfl⟩, hs⟩
    · simp [Event.isCheck] at hc

theorem pending_append_trigger : Pending (h ++ [.trigger]) := by
  refine ⟨h.length, List.getElem?_concat_length, fun j hj hcheck => ?_⟩
  have := hcheck.lt_length
  simp only [List.length_append, List.length_singleton] at this
  omega

/-- Any other event keeps a pending trigger, unless it is a check of the
started schedule, which consumes it. -/
theorem pending_append (he : e ≠ .trigger) :
    Pending (h ++ [e]) ↔ Pending h ∧ ¬ (e.isCheck = true ∧ Started h) := by
  constructor
  · rintro ⟨i, hi, hlater⟩
    -- the trigger is an old one: the new event is not a trigger
    have hlt : i < h.length := by
      rcases Nat.lt_or_ge i h.length with hlt | hge
      · exact hlt
      · rcases Nat.eq_or_lt_of_le hge with rfl | hgt
        · rw [List.getElem?_concat_length] at hi
          exact (he (Option.some.inj hi)).elim
        · rw [List.getElem?_eq_none (by simp; omega)] at hi
          cases hi
    refine ⟨⟨i, by rwa [List.getElem?_append_left hlt] at hi, fun j hij hj => ?_⟩, fun hc => ?_⟩
    · exact hlater j hij ((startedCheck_append_of_lt hj.lt_length).mpr hj)
    · exact hlater h.length hlt (startedCheck_append_length.mpr hc)
  · rintro ⟨⟨i, hi, hlater⟩, hnew⟩
    have hlt : i < h.length := (List.getElem?_eq_some_iff.mp hi).1
    refine ⟨i, by rw [List.getElem?_append_left hlt]; exact hi, fun j hij hj => ?_⟩
    have hjlen := hj.lt_length
    simp only [List.length_append, List.length_singleton] at hjlen
    rcases Nat.lt_or_ge j h.length with hjh | hjh
    · exact hlater j hij ((startedCheck_append_of_lt hjh).mp hj)
    · obtain rfl : j = h.length := by omega
      exact hnew (startedCheck_append_length.mp hj)

theorem lastArm_append : lastArm (h ++ [e]) = e.arming.or (lastArm h) := by
  simp only [lastArm, List.reverse_append, List.reverse_singleton, List.singleton_append,
    List.findSome?_cons]
  cases e.arming <;> rfl

end History

/-! ## The invariant -/

theorem toNat_saturatingAdd (a b : UInt64) :
    (saturatingAdd a b).toNat = min (a.toNat + b.toNat) (2 ^ 64 - 1) := by
  unfold saturatingAdd
  split
  · rw [UInt64.toNat_add]
    omega
  · rename_i hover
    show 18446744073709551615 = _
    omega

theorem toNat_intervalNanos_new (name : String) (d : Duration) :
    (new name d).intervalNanos.toNat = min d.toNanos (2 ^ 64 - 1) :=
  UInt64.toNat_ofNat_of_lt' (Nat.lt_of_le_of_lt (Nat.min_le_right _ _) (by decide))

/-- What a schedule's state says of its history: the trigger flag is raised
exactly when a trigger is pending, the schedule is due one interval after the
reading it was last armed at, and it was armed exactly when it was started. -/
structure Tracks (interval : UInt64) (h : List Event) (s : Schedule) : Prop where
  intervalNanos : s.intervalNanos = interval
  forced : s.forced = true ↔ Pending h
  nextDue : s.nextDue = (lastArm h).map fun t => saturatingAdd t interval
  armed : (lastArm h).isSome = true ↔ Started h

section Tracks

variable {interval : UInt64} {h : List Event} {s : Schedule}

theorem Tracks.new (name : String) (d : Duration) :
    Tracks (new name d).intervalNanos [] (new name d) where
  intervalNanos := rfl
  forced := by simp [Schedule.new, Pending]
  nextDue := rfl
  armed := by simp [lastArm, Started]

theorem Tracks.start (ht : Tracks interval h s) (now : UInt64) :
    Tracks interval (h ++ [.start now]) (s.start now) where
  intervalNanos := ht.intervalNanos
  forced := by
    rw [pending_append (by simp)]
    simpa [Event.isCheck, Schedule.start] using ht.forced
  nextDue := by
    simp [Schedule.start, lastArm_append, Event.arming, ht.intervalNanos]
  armed := by
    simp [lastArm_append, Event.arming, started_append]

theorem Tracks.trigger (ht : Tracks interval h s) : Tracks interval (h ++ [.trigger]) s.trigger where
  intervalNanos := ht.intervalNanos
  forced := iff_of_true rfl pending_append_trigger
  nextDue := by
    simpa [Schedule.trigger, lastArm_append, Event.arming] using ht.nextDue
  armed := by
    simpa [lastArm_append, Event.arming, started_append] using ht.armed

theorem Tracks.check_of_not_started (ht : Tracks interval h s) (hs : ¬ Started h) (now : UInt64) :
    s.check now = (false, s) ∧ Tracks interval (h ++ [.check now false]) s := by
  have hnone : lastArm h = none := by
    cases harm : lastArm h with
    | none => rfl
    | some t => exact (hs (ht.armed.mp (by simp [harm]))).elim
  refine ⟨check_of_nextDue_eq_none s now (by simp [ht.nextDue, hnone]), ?_⟩
  refine ⟨ht.intervalNanos, ?_, ?_, ?_⟩
  · rw [pending_append (by simp), ht.forced]
    simp [hs]
  · simp [lastArm_append, Event.arming, ht.nextDue]
  · simpa [lastArm_append, Event.arming, started_append] using ht.armed

/-- A check of a started schedule fires when a trigger is pending or the
schedule is due, re-arms it from the reading when it fires, and consumes the
trigger either way. -/
theorem Tracks.check_of_started (ht : Tracks interval h s) (hs : Started h) (now : UInt64) :
    ∃ t, lastArm h = some t ∧
      ((s.check now).1 = true ↔ Pending h ∨ saturatingAdd t interval ≤ now) ∧
      Tracks interval (h ++ [.check now (s.check now).1]) (s.check now).2 := by
  obtain ⟨t, ht'⟩ := Option.isSome_iff_exists.mp (ht.armed.mpr hs)
  have hdue : s.nextDue = some (saturatingAdd t interval) := by simp [ht.nextDue, ht']
  refine ⟨t, ht', ?_, ?_⟩
  · rw [check_of_nextDue_eq_some s now _ hdue, ← ht.forced]
    split <;> simp_all
  · have hconsumed : ¬ Pending (h ++ [.check now (s.check now).1]) := by
      rw [pending_append (by simp)]
      simp [Event.isCheck, hs]
    refine ⟨?_, ?_, ?_, ?_⟩
    · rw [check_of_nextDue_eq_some s now _ hdue]
      split <;> exact ht.intervalNanos
    · rw [iff_false_intro hconsumed, iff_false, Bool.not_eq_true, forced_check s now _ hdue]
    · rw [check_of_nextDue_eq_some s now _ hdue, lastArm_append, ht']
      split <;> simp_all [Event.arming, ht.intervalNanos]
    · simp only [lastArm_append, ht', started_append, hs, true_or, iff_true]
      cases (s.check now).1 <;> simp [Event.arming]

theorem Run.tracks {name : String} {d : Duration} (hrun : Run (new name d) h s) :
    Tracks (new name d).intervalNanos h s := by
  induction hrun with
  | nil => exact Tracks.new name d
  | start now _ ih => exact ih.start now
  | @check h s s' now b _ hcheck ih =>
    by_cases hs : Started h
    · obtain ⟨-, -, -, hnext⟩ := ih.check_of_started hs now
      rwa [hcheck] at hnext
    · obtain ⟨hnone, hnext⟩ := ih.check_of_not_started hs now
      rw [hnone] at hcheck
      cases hcheck
      exact hnext
  | trigger _ ih => exact ih.trigger

end Tracks

/-! ## Firing -/

section Firing

variable {name : String} {d : Duration} {h : List Event} {s : Schedule}

theorem Run.check_of_not_started (hrun : Run (new name d) h s) (hs : ¬ Started h) (now : UInt64) :
    s.check now = (false, s) :=
  (hrun.tracks.check_of_not_started hs now).1

theorem Run.started_of_fires (hrun : Run (new name d) h s) {now : UInt64}
    (hfire : (s.check now).1 = true) : Started h := by
  by_cases hs : Started h
  · exact hs
  · rw [hrun.check_of_not_started hs now] at hfire
    cases hfire

/-- After a start, a check fires exactly when a trigger is pending or the
reading has reached one interval, saturating, past the reading the schedule was
last armed at. -/
theorem Run.fires_iff (hrun : Run (new name d) h s) (hs : Started h) (now : UInt64) :
    (s.check now).1 = true ↔ Pending h ∨
      ∃ t, lastArm h = some t ∧ min (t.toNat + min d.toNanos (2 ^ 64 - 1)) (2 ^ 64 - 1) ≤ now.toNat := by
  obtain ⟨t, ht, hfires, -⟩ := hrun.tracks.check_of_started hs now
  rw [hfires, UInt64.le_iff_toNat_le, toNat_saturatingAdd, toNat_intervalNanos_new]
  constructor
  · rintro (hp | hle)
    · exact .inl hp
    · exact .inr ⟨t, ht, hle⟩
  · rintro (hp | ⟨t', ht'', hle⟩)
    · exact .inl hp
    · rw [ht] at ht''
      cases ht''
      exact .inr hle

theorem Run.fires_consumes (hrun : Run (new name d) h s) {now : UInt64}
    (hfire : (s.check now).1 = true) :
    (s.check now).2.forced = false ∧ ¬ Pending (h ++ [.check now true]) := by
  have hs := hrun.started_of_fires hfire
  have hconsumed : ¬ Pending (h ++ [.check now true]) := by
    rw [pending_append (by simp)]
    simp [Event.isCheck, hs]
  obtain ⟨-, -, -, hnext⟩ := hrun.tracks.check_of_started hs now
  rw [hfire] at hnext
  exact ⟨by simpa using mt hnext.forced.mp hconsumed, hconsumed⟩

/-- The latest arming of a history that was armed at `t₁` and then went on
with `h₂` is at `t₁` or at an arming within `h₂`. -/
theorem lastArm_append_cons (h₁ h₂ : List Event) {e : Event} {t₁ : UInt64}
    (he : e.arming = some t₁) :
    ∃ t, lastArm (h₁ ++ e :: h₂) = some t ∧ (t = t₁ ∨ ∃ e' ∈ h₂, e'.arming = some t) := by
  unfold lastArm
  rw [List.reverse_append, List.reverse_cons, List.findSome?_append, List.findSome?_append]
  cases hlater : h₂.reverse.findSome? Event.arming with
  | none => exact ⟨t₁, by simp [he], .inl rfl⟩
  | some t =>
    obtain ⟨e', hmem, harm⟩ := List.exists_of_findSome?_eq_some hlater
    exact ⟨t, rfl, .inr ⟨e', List.mem_reverse.mp hmem, harm⟩⟩

/-- With a clock that does not run back past a firing at `t₁`, a later firing
that no trigger caused comes at least one interval, saturating, after `t₁`. -/
theorem Run.untriggered_fires_spaced {h₁ h₂ : List Event} {t₁ t₂ : UInt64}
    (hrun : Run (new name d) (h₁ ++ .check t₁ true :: h₂) s)
    (hclock : ∀ e ∈ h₂, ∀ t ∈ e.reading?, t₁ ≤ t)
    (huntriggered : ¬ Pending (h₁ ++ .check t₁ true :: h₂)) (hfire : (s.check t₂).1 = true) :
    min (t₁.toNat + min d.toNanos (2 ^ 64 - 1)) (2 ^ 64 - 1) ≤ t₂.toNat := by
  have hs := hrun.started_of_fires hfire
  rcases (hrun.fires_iff hs t₂).mp hfire with hp | ⟨t, ht, hdue⟩
  · exact (huntriggered hp).elim
  · -- the schedule was last armed at `t₁` or later
    have hlater : t₁.toNat ≤ t.toNat := by
      obtain ⟨t', ht', hwhere⟩ := lastArm_append_cons h₁ h₂
        (show (Event.check t₁ true).arming = some t₁ from rfl)
      rw [ht] at ht'
      cases ht'
      rcases hwhere with rfl | ⟨e', hmem, harm⟩
      · exact Nat.le_refl _
      · exact UInt64.le_iff_toNat_le.mp (hclock e' hmem t (Event.reading?_of_arming harm))
    omega

theorem Run.fires_after_trigger {h₁ h₂ : List Event} (hrun : Run (new name d) (h₁ ++ .trigger :: h₂) s)
    (hs : Started h₁) (hquiet : ∀ e ∈ h₂, e.isCheck = false) (now : UInt64) :
    (s.check now).1 = true := by
  have hpending : Pending (h₁ ++ .trigger :: h₂) := by
    refine ⟨h₁.length, by simp, fun j hj hcheck => ?_⟩
    obtain ⟨⟨t, fired, hget⟩, -⟩ := hcheck
    -- event `j` comes after the trigger, so it lies in `h₂`, where no check is
    obtain ⟨k, rfl⟩ : ∃ k, j = h₁.length + (k + 1) := ⟨j - h₁.length - 1, by omega⟩
    rw [List.getElem?_append_right (by omega), Nat.add_sub_cancel_left,
      List.getElem?_cons_succ] at hget
    have := hquiet _ (List.mem_of_getElem? hget)
    simp [Event.isCheck] at this
  have hstarted : Started (h₁ ++ .trigger :: h₂) := by
    obtain ⟨t, hmem⟩ := hs
    exact ⟨t, List.mem_append_left _ hmem⟩
  exact (hrun.fires_iff hstarted now).mpr (.inl hpending)

end Firing

end Schedule

/-- On every history of a fresh schedule: a check before any start answers
false and changes nothing; after a start a check fires exactly when a trigger
is pending or the reading has reached the last arming plus the capped interval,
saturating; a firing check leaves no trigger pending; under a clock that does
not run back, an untriggered firing comes an interval after the previous one;
and a trigger raised after the start fires at the next check. -/
theorem schedule_fires_on_trigger_or_due (name : String) (d : Duration) :
    (∀ h s, Schedule.Run (Schedule.new name d) h s → ¬ Schedule.Started h →
      ∀ now, s.check now = (false, s)) ∧
    (∀ h s, Schedule.Run (Schedule.new name d) h s → Schedule.Started h → ∀ now,
      ((s.check now).1 = true ↔ Schedule.Pending h ∨ ∃ t, Schedule.lastArm h = some t ∧
        min (t.toNat + min d.toNanos (2 ^ 64 - 1)) (2 ^ 64 - 1) ≤ now.toNat)) ∧
    (∀ h s now, Schedule.Run (Schedule.new name d) h s → (s.check now).1 = true →
      (s.check now).2.forced = false ∧ ¬ Schedule.Pending (h ++ [.check now true])) ∧
    (∀ h₁ h₂ s t₁ t₂, Schedule.Run (Schedule.new name d) (h₁ ++ .check t₁ true :: h₂) s →
      (∀ e ∈ h₂, ∀ t ∈ e.reading?, t₁ ≤ t) → ¬ Schedule.Pending (h₁ ++ .check t₁ true :: h₂) →
      (s.check t₂).1 = true → min (t₁.toNat + min d.toNanos (2 ^ 64 - 1)) (2 ^ 64 - 1) ≤ t₂.toNat) ∧
    (∀ h₁ h₂ s, Schedule.Run (Schedule.new name d) (h₁ ++ .trigger :: h₂) s → Schedule.Started h₁ →
      (∀ e ∈ h₂, e.isCheck = false) → ∀ now, (s.check now).1 = true) :=
  ⟨fun _ _ hrun hs now => hrun.check_of_not_started hs now,
    fun _ _ hrun hs now => hrun.fires_iff hs now,
    fun _ _ _ hrun hfire => hrun.fires_consumes hfire,
    fun _ _ _ _ _ hrun hclock hun hfire => hrun.untriggered_fires_spaced hclock hun hfire,
    fun _ _ _ hrun hs hquiet now => hrun.fires_after_trigger hs hquiet now⟩

/-- A reconnect schedule started at zero and then triggered fires at the next
check, ten seconds in. -/
theorem schedule_fires_after_trigger_ten_seconds_in :
    Schedule.Run (Schedule.new "reconnect" (Duration.ofSecs 60)) ([.start 0] ++ .trigger :: [])
        ((Schedule.new "reconnect" (Duration.ofSecs 60)).start 0).trigger ∧
      Schedule.Started [.start 0] ∧
      (((Schedule.new "reconnect" (Duration.ofSecs 60)).start 0).trigger.check 10000000000).1 = true :=
  have hrun : Schedule.Run (Schedule.new "reconnect" (Duration.ofSecs 60)) ([.start 0] ++ .trigger :: [])
      ((Schedule.new "reconnect" (Duration.ofSecs 60)).start 0).trigger :=
    .trigger (.start 0 .nil)
  have hs : Schedule.Started [.start 0] := ⟨0, List.mem_singleton_self _⟩
  ⟨hrun, hs, (schedule_fires_on_trigger_or_due "reconnect" (Duration.ofSecs 60)).2.2.2.2
    [.start 0] [] _ hrun hs (fun _ h => nomatch h) 10000000000⟩

end DepthFeed
