/-!
# Agents and their runners

An `Agent` starts, does one cycle of work at a time, and closes. A runner
drives it on its own thread: a failed start or a fatal cycle error closes the
agent and ends the run with that error, other failures are only logged, an
abort ends the run at once without closing, and stopping a live run closes
the agent. `Agent.cycles` lets a bounded number of cycles pass.
-/

namespace DepthFeed

/-- The outcome of one duty cycle. -/
inductive Cycle (ε : Type) where
  | done (work : Nat)
  | failed (e : ε)
  | aborted (message : String)

/-- How a run, or the start of one, ended. -/
inductive Exit (ε : Type) where
  | ok
  | failed (e : ε)
  | aborted (message : String)

/-- A duty-cycle worker over state `α` with errors `ε`. -/
structure Agent (α ε : Type) where
  roleName : String
  /-- Starting: `ok` to go on to the cycles, a failure, or an abort. -/
  onStart : α → Exit ε × α
  doWork : α → Cycle ε × α
  onClose : α → α
  isFatal : ε → Bool

/-- The state of a run: the agent's state, the cycles done, and how the run
ended, once it did. -/
structure Run (α ε : Type) where
  state : α
  calls : Nat
  exit : Option (Exit ε)

namespace Agent

variable {α ε : Type}

/-- Starts a run: a failed start closes the agent and ends the run; an aborted
one ends it without closing. -/
def begin (a : Agent α ε) (s : α) : Run α ε :=
  match a.onStart s with
  | (.ok, s) => ⟨s, 0, none⟩
  | (.failed e, s) => ⟨a.onClose s, 0, some (.failed e)⟩
  | (.aborted m, s) => ⟨s, 0, some (.aborted m)⟩

/-- Runs at most `n` more cycles, stopping early when the run ends. -/
def cycles (a : Agent α ε) : Nat → Run α ε → Run α ε
  | 0, r => r
  | n + 1, r =>
    match r.exit with
    | some _ => r
    | none =>
      let calls := r.calls + 1
      match a.doWork r.state with
      | (.done _, s) => cycles a n ⟨s, calls, none⟩
      | (.failed e, s) =>
        if a.isFatal e then ⟨a.onClose s, calls, some (.failed e)⟩
        else cycles a n ⟨s, calls, none⟩
      | (.aborted m, s) => ⟨s, calls, some (.aborted m)⟩

/-- Stops a run: one still going closes the agent and ends cleanly. -/
def stop (a : Agent α ε) (r : Run α ε) : Run α ε :=
  match r.exit with
  | some _ => r
  | none => { r with state := a.onClose r.state, exit := some .ok }

end Agent

def Run.finished {α ε : Type} (r : Run α ε) : Bool := r.exit.isSome

end DepthFeed
