import DepthFeed.Proofs.Reader.Frame
import DepthFeed.Book.Incremental

/-!
# The park handshake excludes the two threads from each other

On a run that has opened fewer than `2 ^ 64` parks the epoch word counts the
parks, so no opening wraps. Epochs then only grow and only epochs the worker
loaded are acknowledged: a park that opened epoch `e` sees `acked ≥ e` only
after the worker loaded `e`, which it does only after seeing `pause`, and
`pause` stays raised until the supervisor hands the state back. A worker
already past its park check when the park began has acknowledged no epoch
since (`acked_lt`), so it must check again before the park can succeed.
-/

namespace DepthFeed

namespace Sys

variable {β : Type}

/-- What each thread may assume of the other at every reachable state of a
run that opened fewer than `2 ^ 64` parks. -/
structure Exclusive (s : Sys β) : Prop where
  epoch_eq_parks : s.shared.handshake.epoch.toNat = s.parks
  acked_le : s.shared.handshake.acked.toNat ≤ s.shared.handshake.epoch.toNat
  marking_le : ∀ e, s.worker = .marking e → e.toNat ≤ s.shared.handshake.epoch.toNat
  acking_le : ∀ e, s.worker = .acking e → e.toNat ≤ s.shared.handshake.epoch.toNat
  paused_of_acking : ∀ e, s.worker = .acking e → s.shared.handshake.isPaused = true
  gone_of_detached : s.shared.handshake.detached = true → s.worker = .gone
  paused_of_leaving : s.worker = .leaving ∨ s.worker = .gone → s.shared.handshake.isPaused = true
  /-- A park waits for the epoch it opened. -/
  waitEpoch_eq : ∀ e, s.super.waitEpoch = some e → e = s.shared.handshake.epoch
  /-- Past its first store a park keeps `pause` raised. -/
  pause_of_parking : ∀ k st, s.super = .parking k st → st ≠ .raising →
    s.shared.handshake.pause = true
  /-- A worker inside or entering the shared state has not acknowledged the
  epoch a park waits for. -/
  acked_lt : s.super.waitEpoch.isSome = true →
    (s.worker.owns = true ∨ s.worker.entering = true) →
    s.shared.handshake.acked.toNat < s.shared.handshake.epoch.toNat
  /-- Whoever acknowledged the awaited epoch sits parked. -/
  paused_of_acked : s.super.waitEpoch.isSome = true →
    s.shared.handshake.epoch.toNat ≤ s.shared.handshake.acked.toNat →
    s.shared.handshake.isPaused = true
  pause_of_holds : s.super.holds = true → s.shared.handshake.pause = true
  paused_of_holds : s.super.holds = true → s.shared.handshake.isPaused = true
  outside_of_holds : s.super.holds = true →
    s.worker.owns = false ∧ s.worker.entering = false

theorem Exclusive.pause_of_waiting {s : Sys β} (hi : s.Exclusive)
    (hw : s.super.waitEpoch.isSome = true) : s.shared.handshake.pause = true := by
  obtain ⟨shared, worker, super, log⟩ := s
  cases super with
  | parking k st =>
    apply hi.pause_of_parking k st rfl
    intro hst
    subst hst
    simp [SuperPc.waitEpoch] at hw
  | _ => simp [SuperPc.waitEpoch] at hw

theorem Exclusive.init (book : β) (capacity : Nat) :
    (Sys.init (Shared.new book capacity)).Exclusive where
  epoch_eq_parks := by simp [Sys.init, Shared.new, Handshake.new, Sys.parks]
  acked_le := by simp [Sys.init, Shared.new, Handshake.new]
  marking_le := by simp [Sys.init]
  acking_le := by simp [Sys.init]
  paused_of_acking := by simp [Sys.init]
  gone_of_detached := by simp [Sys.init, Shared.new, Handshake.new]
  paused_of_leaving := by simp [Sys.init]
  waitEpoch_eq := by simp [Sys.init, SuperPc.waitEpoch]
  pause_of_parking := by simp [Sys.init]
  acked_lt := by simp [Sys.init, SuperPc.waitEpoch]
  paused_of_acked := by simp [Sys.init, SuperPc.waitEpoch]
  pause_of_holds := by simp [Sys.init, SuperPc.holds]
  paused_of_holds := by simp [Sys.init, SuperPc.holds]
  outside_of_holds := by simp [Sys.init, SuperPc.holds]

section Steps

variable [Book β]

theorem Exclusive.worker_step {s : Sys β} {w : WorkerPc} {sh : Shared β} {evs : List (Event β)}
    (hi : s.Exclusive) (h : WorkerStep s.worker s.shared w sh evs) :
    (⟨sh, w, s.super, s.log ++ evs⟩ : Sys β).Exclusive := by
  have hepoch := h.epoch_eq
  -- the worker never leaves the shared state only to come back without a park check
  have hinside : w.owns = true ∨ w.entering = true →
      s.worker.owns = true ∨ s.worker.entering = true ∨
        (s.worker = .idle ∧ s.shared.handshake.pause = false) := by
    rintro (ho | he)
    · rcases h.owns_of ho with ho' | he'
      · exact .inl ho'
      · exact .inr (.inl he')
    · rcases h.entering_of he with he' | hidle
      · exact .inr (.inl he')
      · exact .inr (.inr hidle)
  constructor
  · simp only [Sys.parks, List.countP_append, h.countP_opened, Nat.add_zero, hepoch]
    exact hi.epoch_eq_parks
  · rcases h.acked_eq with hack | ⟨e, hw, -, hack⟩
    · simpa [hack, hepoch] using hi.acked_le
    · simpa [hack, hepoch] using hi.acking_le e hw
  · intro e hw
    obtain ⟨-, rfl⟩ := h.marking_of hw
    simp [hepoch]
  · intro e hw
    obtain ⟨hm, -⟩ := h.acking_of hw
    simpa [hepoch] using hi.marking_le e hm
  · intro e hw
    exact (h.acking_of hw).2
  · intro hd
    rcases h.detached_of_detached hd with hd' | ⟨-, hgone⟩
    · exact absurd (hi.gone_of_detached hd') h.not_gone
    · exact hgone
  · intro hw
    rcases h.leaving_of hw with ⟨-, hm⟩ | hleave
    · exact hm
    · exact h.isPaused_of_isPaused (hi.paused_of_leaving (.inl hleave)) (by simp [hleave, WorkerPc.entering])
  · intro e he
    simpa [hepoch] using hi.waitEpoch_eq e he
  · intro k st hp hst
    exact h.pause_of_pause (hi.pause_of_parking k st hp hst)
  · intro hw hin
    have hpause := hi.pause_of_waiting hw
    rcases h.acked_eq with hack | ⟨e, -, hidle, -⟩
    · rw [hack, hepoch]
      rcases hinside hin with ho | he | ⟨-, hp⟩
      · exact hi.acked_lt hw (.inl ho)
      · exact hi.acked_lt hw (.inr he)
      · simp [hpause] at hp
    · subst hidle
      simp [WorkerPc.owns, WorkerPc.entering] at hin
  · intro hw hle
    rcases h.acked_eq with hack | ⟨e, hacking, -, hack⟩
    · rw [hack, hepoch] at hle
      have hent : s.worker.entering = false := by
        cases hent : s.worker.entering
        · rfl
        · have := hi.acked_lt hw (.inr hent)
          omega
      exact h.isPaused_of_isPaused (hi.paused_of_acked hw hle) hent
    · exact h.isPaused_of_isPaused (hi.paused_of_acking e hacking) (by simp [hacking, WorkerPc.entering])
  · intro hh
    exact h.pause_of_pause (hi.pause_of_holds hh)
  · intro hh
    exact h.isPaused_of_isPaused (hi.paused_of_holds hh) (hi.outside_of_holds hh).2
  · intro hh
    have hout := hi.outside_of_holds hh
    have hpause := hi.pause_of_holds hh
    constructor
    · cases ho : w.owns
      · rfl
      · rcases hinside (.inl ho) with ho' | he' | ⟨-, hp⟩
        · simp [hout.1] at ho'
        · simp [hout.2] at he'
        · simp [hpause] at hp
    · cases he : w.entering
      · rfl
      · rcases hinside (.inr he) with ho' | he' | ⟨-, hp⟩
        · simp [hout.1] at ho'
        · simp [hout.2] at he'
        · simp [hpause] at hp

/-- A supervisor step keeps the handshake invariant, as long as the run stays
below `2 ^ 64` parks. -/
theorem Exclusive.super_step {s : Sys β} {p : SuperPc β} {sh : Shared β} {evs : List (Event β)}
    (hi : s.Exclusive) (h : SuperStep s.super s.shared p sh evs)
    (hb : (⟨sh, s.worker, p, s.log ++ evs⟩ : Sys β).parks < UInt64.size) :
    (⟨sh, s.worker, p, s.log ++ evs⟩ : Sys β).Exclusive := by
  obtain ⟨hacked, hpaused, hdet⟩ := h.worker_fields_eq
  have hparks : (⟨sh, s.worker, p, s.log ++ evs⟩ : Sys β).parks =
      s.parks + evs.countP Event.isOpened := by
    simp [Sys.parks, List.countP_append]
  -- below the bound an opening adds one to the epoch without wrapping
  have hepoch : sh.handshake.epoch.toNat =
      s.shared.handshake.epoch.toNat + evs.countP Event.isOpened := by
    rcases h.epoch_eq with ⟨he, hc⟩ | ⟨-, -, -, he, rfl⟩
    · rw [he, hc, Nat.add_zero]
    · have hlt : s.shared.handshake.epoch.toNat + 1 < UInt64.size := by
        rw [hi.epoch_eq_parks]
        simpa [hparks, Event.isOpened] using hb
      rw [he, UInt64.toNat_add, UInt64.toNat_one, Nat.mod_eq_of_lt hlt]
      simp [Event.isOpened]
  have hgrow : s.shared.handshake.epoch.toNat ≤ sh.handshake.epoch.toNat := by omega
  -- a wait either goes on with nothing changed or has just opened its epoch
  have hwait : ∀ e, p.waitEpoch = some e →
      (s.super.waitEpoch = some e ∧ sh = s.shared) ∨
        sh.handshake.epoch.toNat = s.shared.handshake.epoch.toNat + 1 := by
    intro e he
    rcases h.waitEpoch_of he with hold | ⟨-, -, -, -, rfl⟩
    · exact .inl hold
    · exact .inr (by simpa [Event.isOpened] using hepoch)
  -- the shared state is taken from a waiting park whose worker is parked or gone
  have htake : p.holds = true → s.super.holds = true ∨
      (sh = s.shared ∧ s.super.waitEpoch.isSome = true ∧
        (s.shared.handshake.epoch.toNat ≤ s.shared.handshake.acked.toNat ∨
          s.shared.handshake.detached = true)) := by
    intro hh
    rcases h.holds_of hh with hold | ⟨k, e, hp, he, rfl⟩ | ⟨k, e, hp, hd, rfl⟩
    · exact .inl hold
    · have hwe : s.super.waitEpoch = some e := by simp [hp, SuperPc.waitEpoch]
      rw [← hi.waitEpoch_eq e hwe]
      exact .inr ⟨rfl, by simp [hwe], .inl (UInt64.le_iff_toNat_le.mp he)⟩
    · exact .inr ⟨rfl, by simp [hp, SuperPc.waitEpoch], .inr hd⟩
  constructor
  · rw [hparks, hepoch, hi.epoch_eq_parks]
  · rw [hacked]
    exact Nat.le_trans hi.acked_le hgrow
  · intro e hw
    exact Nat.le_trans (hi.marking_le e hw) hgrow
  · intro e hw
    exact Nat.le_trans (hi.acking_le e hw) hgrow
  · intro e hw
    rw [hpaused]
    exact hi.paused_of_acking e hw
  · intro hd
    exact hi.gone_of_detached (hdet ▸ hd)
  · intro hw
    rw [hpaused]
    exact hi.paused_of_leaving hw
  · intro e he
    rcases h.waitEpoch_of he with ⟨hold, rfl⟩ | ⟨-, -, rfl, rfl, -⟩
    · exact hi.waitEpoch_eq e hold
    · simp
  · intro k st hp hst
    rcases h.parking_of hp hst with ⟨st', hp', hst', hpause⟩ | ⟨-, hpause⟩
    · rw [hpause]
      exact hi.pause_of_parking k st' hp' hst'
    · exact hpause
  · intro hw hin
    obtain ⟨e, he⟩ := Option.isSome_iff_exists.mp hw
    rcases hwait e he with ⟨hold, rfl⟩ | hep
    · exact hi.acked_lt (by simp [hold]) hin
    · rw [hacked, hep]
      have := hi.acked_le
      omega
  · intro hw hle
    obtain ⟨e, he⟩ := Option.isSome_iff_exists.mp hw
    rcases hwait e he with ⟨hold, rfl⟩ | hep
    · exact hi.paused_of_acked (by simp [hold]) hle
    · rw [hacked, hep] at hle
      have := hi.acked_le
      omega
  · intro hh
    rcases htake hh with hold | ⟨rfl, hw, -⟩
    · rcases h.pause_cases with hpause | hpause | ⟨-, hrel, -⟩
      · rw [hpause]
        exact hi.pause_of_holds hold
      · exact hpause
      · simp [hh] at hrel
    · exact hi.pause_of_waiting hw
  · intro hh
    rw [hpaused]
    rcases htake hh with hold | ⟨-, hw, hle | hd⟩
    · exact hi.paused_of_holds hold
    · exact hi.paused_of_acked hw hle
    · exact hi.paused_of_leaving (.inr (hi.gone_of_detached hd))
  · intro hh
    rcases htake hh with hold | ⟨-, hw, hle | hd⟩
    · exact hi.outside_of_holds hold
    · -- a worker inside would not have acknowledged the awaited epoch
      have hout : ¬ (s.worker.owns = true ∨ s.worker.entering = true) := by
        intro hin
        have := hi.acked_lt hw hin
        omega
      simpa [not_or] using hout
    · rw [hi.gone_of_detached hd]
      exact ⟨rfl, rfl⟩

theorem Reachable.exclusive {s : Sys β} (h : s.Reachable) (hb : s.parks < UInt64.size) :
    s.Exclusive := by
  induction h with
  | init book capacity => exact Exclusive.init book capacity
  | step _ hstep ih =>
    have hi := ih (Nat.lt_of_le_of_lt hstep.parks_le hb)
    cases hstep with
    | worker hw => exact hi.worker_step hw
    | super hp => exact hi.super_step hp hb

/-- On a run that opened fewer than `2 ^ 64 - 1` parks, the worker is never
inside a duty cycle past a park check that returned false while the
supervisor holds the shared state after a park that succeeded; so one of the
two threads can only work the handshake: its next step, whatever it is,
leaves the book, the scratch record, the replay queue, the flags and the
counters alone and calls no transport. -/
theorem worker_supervisor_exclusive {s : Sys β} (h : s.Reachable) (hb : s.parks < UInt64.size - 1) :
    ¬ (s.worker.owns = true ∧ s.super.holds = true) ∧
      (WorkerStep.Quiet s.worker s.shared ∨ SuperStep.Quiet s.super s.shared) := by
  have hi := h.exclusive (by omega)
  constructor
  · rintro ⟨ho, hh⟩
    simp [(hi.outside_of_holds hh).1] at ho
  · cases hh : s.super.holds
    · exact .inr (SuperStep.quiet_of_holds_eq_false hh)
    · exact .inl (WorkerStep.quiet_of_owns_eq_false (hi.outside_of_holds hh).1)

end Steps

/-- A connect whose first park the worker acknowledged: the supervisor holds
the shared state and the worker sits at the top of its duty cycle. -/
theorem worker_supervisor_exclusive_parked :
    ∃ s : Sys IncrementalBook, s.Reachable ∧ s.parks < UInt64.size - 1 ∧
      s.super = .attaching ∧ s.worker = .idle ∧ s.shared.handshake.acked = 1 ∧
      ¬ (s.worker.owns = true ∧ s.super.holds = true) ∧
      (WorkerStep.Quiet s.worker s.shared ∨ SuperStep.Quiet s.super s.shared) := by
  -- the connect's first park, answered by the worker
  have h1 := (Reachable.init (IncrementalBook.new 4) 8).super (.callConnect rfl)
  have h2 := h1.super .raisePause
  have h3 := h2.super .openEpoch
  have h4 := h3.worker (.notice rfl)
  have h5 := h4.worker .loadEpoch
  have h6 := h5.worker .mark
  have h7 := h6.worker .ack
  have h8 := h7.super (.acked (by decide))
  exact ⟨_, h8, by decide, rfl, rfl, rfl, worker_supervisor_exclusive h8 (by decide)⟩

end Sys

end DepthFeed
