import DepthFeed.Reader.Worker
import DepthFeed.Gateway.Inbound

/-!
# The run loop of an agent

`Agent.cycles k` followed by `Agent.stop` is the run whose running flag was
seen raised `k` times and then lowered. Every such run ends in one of the five
ways of `Agent.Ends`; in the three that do not abort, the final state is the
close applied once to what the start and the cycles produced, so the agent is
closed exactly once.
-/

namespace DepthFeed

namespace Agent

variable {α ε : Type} (a : Agent α ε)

/-- Whether the loop goes on after a cycle: it did work, or failed with an
error that is not fatal. -/
def Continues : Cycle ε → Prop
  | .done _ => True
  | .failed e => a.isFatal e = false
  | .aborted _ => False

/-- `Cycling a s n s'`: `n` cycles from state `s`, each letting the loop go
on, end in state `s'`. -/
inductive Cycling : α → Nat → α → Prop
  | stop (s : α) : Cycling s 0 s
  | step {s s₁ s' : α} {o : Cycle ε} {n : Nat} :
      a.doWork s = (o, s₁) → a.Continues o → Cycling s₁ n s' → Cycling s (n + 1) s'

/-- How a run from state `s`, stopped before its cycle `k + 1`, ends: the
state after, the cycles run, and the exit. -/
inductive Ends (s : α) (k : Nat) : Run α ε → Prop
  | startFailed {s₁ : α} {e : ε} :
      a.onStart s = (.failed e, s₁) → Ends s k ⟨a.onClose s₁, 0, some (.failed e)⟩
  | stopped {s₁ s₂ : α} :
      a.onStart s = (.ok, s₁) → a.Cycling s₁ k s₂ → Ends s k ⟨a.onClose s₂, k, some .ok⟩
  | fatal {s₁ s₂ s₃ : α} {j : Nat} {e : ε} :
      a.onStart s = (.ok, s₁) → a.Cycling s₁ j s₂ → j < k → a.doWork s₂ = (.failed e, s₃) →
      a.isFatal e = true → Ends s k ⟨a.onClose s₃, j + 1, some (.failed e)⟩
  | startAborted {s₁ : α} {m : String} :
      a.onStart s = (.aborted m, s₁) → Ends s k ⟨s₁, 0, some (.aborted m)⟩
  | cycleAborted {s₁ s₂ s₃ : α} {j : Nat} {m : String} :
      a.onStart s = (.ok, s₁) → a.Cycling s₁ j s₂ → j < k → a.doWork s₂ = (.aborted m, s₃) →
      Ends s k ⟨s₃, j + 1, some (.aborted m)⟩

@[simp] theorem cycles_zero (r : Run α ε) : a.cycles 0 r = r := rfl

@[simp] theorem cycles_of_exit {x : Exit ε} (n : Nat) (s : α) (i : Nat) :
    a.cycles n ⟨s, i, some x⟩ = ⟨s, i, some x⟩ := by
  cases n <;> rfl

@[simp] theorem stop_of_exit {x : Exit ε} (s : α) (i : Nat) :
    a.stop ⟨s, i, some x⟩ = ⟨s, i, some x⟩ := rfl

@[simp] theorem stop_of_running (s : α) (i : Nat) :
    a.stop ⟨s, i, none⟩ = ⟨a.onClose s, i, some .ok⟩ := rfl

theorem cycles_succ (n : Nat) (s : α) (i : Nat) :
    a.cycles (n + 1) ⟨s, i, none⟩ =
      match a.doWork s with
      | (.done _, s₁) => a.cycles n ⟨s₁, i + 1, none⟩
      | (.failed e, s₁) =>
        if a.isFatal e then ⟨a.onClose s₁, i + 1, some (.failed e)⟩
        else a.cycles n ⟨s₁, i + 1, none⟩
      | (.aborted m, s₁) => ⟨s₁, i + 1, some (.aborted m)⟩ := rfl

theorem cycles_succ_of_continues {n : Nat} {s s₁ : α} {i : Nat} {o : Cycle ε}
    (h : a.doWork s = (o, s₁)) (ho : a.Continues o) :
    a.cycles (n + 1) ⟨s, i, none⟩ = a.cycles n ⟨s₁, i + 1, none⟩ := by
  rw [cycles_succ, h]
  cases o with
  | done w => rfl
  | failed e =>
    simp only [Continues] at ho
    simp [ho]
  | aborted m => exact ho.elim

theorem cycles_of_cycling {s s' : α} {n : Nat} (h : a.Cycling s n s') (m i : Nat) :
    a.cycles (n + m) ⟨s, i, none⟩ = a.cycles m ⟨s', i + n, none⟩ := by
  induction h generalizing i with
  | stop s => rw [Nat.zero_add, Nat.add_zero]
  | @step s s₁ s' o n hwork ho _ ih =>
    rw [show n + 1 + m = (n + m) + 1 by omega, cycles_succ_of_continues a hwork ho, ih]
    rw [Nat.add_assoc, Nat.add_comm 1 n]

theorem Cycling.snoc {s s₁ s₂ : α} {n : Nat} {o : Cycle ε} (h : a.Cycling s n s₁)
    (hwork : a.doWork s₁ = (o, s₂)) (ho : a.Continues o) : a.Cycling s (n + 1) s₂ := by
  induction h with
  | stop s => exact .step hwork ho (.stop s₂)
  | step hw hc _ ih => exact .step hw hc (ih hwork)

/-- Within `k` cycles the loop either goes on through all of them, or meets a
cycle after which it stops. -/
theorem cycling_or_stops (k : Nat) (s : α) :
    (∃ s', a.Cycling s k s') ∨
      ∃ j s₂, j < k ∧ a.Cycling s j s₂ ∧ ¬ a.Continues (a.doWork s₂).1 := by
  induction k with
  | zero => exact .inl ⟨s, .stop s⟩
  | succ k ih =>
    rcases ih with ⟨s₁, hs₁⟩ | ⟨j, s₂, hj, hs₂, hstop⟩
    · -- all `k` cycles went on: the next one decides
      by_cases hc : a.Continues (a.doWork s₁).1
      · exact .inl ⟨_, hs₁.snoc a rfl hc⟩
      · exact .inr ⟨k, s₁, Nat.lt_succ_self k, hs₁, hc⟩
    · exact .inr ⟨j, s₂, Nat.lt_succ_of_lt hj, hs₂, hstop⟩

/-- A cycle after which the loop stops ends the run: with a fatal failure the
agent is closed, with an abort it is not. -/
theorem cycles_of_stops (n : Nat) {s s₁ : α} (i : Nat) {o : Cycle ε} (h : a.doWork s = (o, s₁))
    (ho : ¬ a.Continues o) :
    (∃ e, o = .failed e ∧ a.isFatal e = true ∧
      a.cycles (n + 1) ⟨s, i, none⟩ = ⟨a.onClose s₁, i + 1, some (.failed e)⟩) ∨
    (∃ m, o = .aborted m ∧ a.cycles (n + 1) ⟨s, i, none⟩ = ⟨s₁, i + 1, some (.aborted m)⟩) := by
  rw [cycles_succ, h]
  cases o with
  | done w => exact (ho trivial).elim
  | failed e =>
    have hfatal : a.isFatal e = true := by simpa [Continues] using ho
    exact .inl ⟨e, rfl, hfatal, by simp [hfatal]⟩
  | aborted m => exact .inr ⟨m, rfl, rfl⟩

/-- Every run stopped before its cycle `k + 1` ends in one of the five ways of
`Ends`. -/
theorem ends_run (s : α) (k : Nat) : a.Ends s k (a.stop (a.cycles k (a.begin s))) := by
  unfold begin
  rcases hstart : a.onStart s with ⟨_ | e | m, s₁⟩
  · rcases a.cycling_or_stops k s₁ with ⟨s₂, hcyc⟩ | ⟨j, s₂, hj, hcyc, hstop⟩
    · -- the flag was lowered after `k` cycles that all went on
      have hrun := a.cycles_of_cycling hcyc 0 0
      rw [Nat.add_zero] at hrun
      rw [hrun, cycles_zero, stop_of_running, Nat.zero_add]
      exact .stopped hstart hcyc
    · -- cycle `j + 1` stopped the loop before the flag was seen lowered
      obtain ⟨n, rfl⟩ : ∃ n, k = j + (n + 1) := ⟨k - j - 1, by omega⟩
      rw [a.cycles_of_cycling hcyc, Nat.zero_add]
      rcases a.cycles_of_stops n j rfl hstop with
        ⟨e, he, hfatal, hrun⟩ | ⟨m, hm, hrun⟩
      · rw [hrun, stop_of_exit]
        exact .fatal hstart hcyc hj (by rw [← he]) hfatal
      · rw [hrun, stop_of_exit]
        exact .cycleAborted hstart hcyc hj (by rw [← hm])
  · rw [cycles_of_exit, stop_of_exit]
    exact .startFailed hstart
  · rw [cycles_of_exit, stop_of_exit]
    exact .startAborted hstart

end Agent

theorem Reader.isFatal_agent {β : Type} [Book β] (e : ReaderError) :
    (Reader.agent : Agent (Reader β) ReaderError).isFatal e = true ↔ e = .channelClosed := by
  cases e <;> simp [Reader.agent, ReaderError.isFatal]

theorem Writer.isFatal_agent {σ : Type} (write : σ → List UInt8 → Option String × σ)
    (e : WriterError) : (Writer.agent write).isFatal e = false := rfl

/-- The inbound gateway stops on a failed connect, an interrupted reader and a
closed distribution channel, and on no other error. -/
theorem InboundGateway.isFatal_agent {σ : Type} (k : Supervised σ) (e : GatewayError) :
    (InboundGateway.agent k).isFatal e = true ↔
      (∃ c, e = .connect c) ∨ e = .reader .interrupted ∨ e = .reader .channelClosed := by
  rcases e with c | r | w
  · simp [InboundGateway.agent, GatewayError.isFatal]
  · cases r <;> simp [InboundGateway.agent, GatewayError.isFatal, ReaderError.isFatal]
  · simp [InboundGateway.agent, GatewayError.isFatal]

/-- Every run of every agent ends in one of the ways of `Agent.Ends`, and the
library's agents count as fatal only the errors named above. -/
theorem run_loop_exits :
    (∀ {α ε : Type} (a : Agent α ε) (s : α) (k : Nat),
      a.Ends s k (a.stop (a.cycles k (a.begin s)))) ∧
    (∀ {β : Type} [Book β] (e : ReaderError),
      (Reader.agent : Agent (Reader β) ReaderError).isFatal e = true ↔ e = .channelClosed) ∧
    (∀ {σ : Type} (write : σ → List UInt8 → Option String × σ) (e : WriterError),
      (Writer.agent write).isFatal e = false) ∧
    (∀ {σ : Type} (k : Supervised σ) (e : GatewayError),
      (InboundGateway.agent k).isFatal e = true ↔
        (∃ c, e = .connect c) ∨ e = .reader .interrupted ∨ e = .reader .channelClosed) :=
  ⟨fun a s k => a.ends_run s k, fun e => Reader.isFatal_agent e,
    fun write e => Writer.isFatal_agent write e, fun k e => InboundGateway.isFatal_agent k e⟩

end DepthFeed
