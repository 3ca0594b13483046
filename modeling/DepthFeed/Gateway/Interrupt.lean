import DepthFeed.Gateway.Controller

/-!
# Interrupt tokens

A token counts as raised when it or one of its ancestors is; a clone shares
its token's flag and parent. `Interrupts` keeps a family of tokens by index,
a parent always before its children. A sleep checks its token before each
slice of at most a millisecond, each check seeing the family as other threads
then left it; a deadline past the monotonic clock's whole range aborts.
-/

namespace DepthFeed

/-- One token: the flag it raises and reads, and its parent token. -/
structure Token where
  flag : Nat
  parent : Option Nat
  deriving DecidableEq, Repr

/-- A family of tokens and their flags. -/
structure Interrupts where
  flags : List Bool
  tokens : List Token
  deriving DecidableEq, Repr

namespace Interrupts

def empty : Interrupts := ⟨[], []⟩

def fresh (f : Interrupts) (parent : Option Nat) : Nat × Interrupts :=
  (f.tokens.length, ⟨f.flags ++ [false], f.tokens ++ [⟨f.flags.length, parent⟩]⟩)

def new (f : Interrupts) : Nat × Interrupts := f.fresh none

def child (f : Interrupts) (i : Nat) : Nat × Interrupts := f.fresh (some i)

def clone (f : Interrupts) (i : Nat) : Nat × Interrupts :=
  match f.tokens[i]? with
  | some t => (f.tokens.length, { f with tokens := f.tokens ++ [t] })
  | none => f.new

def raise (f : Interrupts) (i : Nat) : Interrupts :=
  match f.tokens[i]? with
  | some t => { f with flags := f.flags.set t.flag true }
  | none => f

@[simp] theorem tokens_new (f : Interrupts) :
    f.new.2.tokens = f.tokens ++ [⟨f.flags.length, none⟩] := rfl

@[simp] theorem flags_new (f : Interrupts) : f.new.2.flags = f.flags ++ [false] := rfl

@[simp] theorem tokens_child (f : Interrupts) (i : Nat) :
    (f.child i).2.tokens = f.tokens ++ [⟨f.flags.length, some i⟩] := rfl

@[simp] theorem flags_child (f : Interrupts) (i : Nat) : (f.child i).2.flags = f.flags ++ [false] := rfl

theorem clone_of_getElem? {f : Interrupts} {i : Nat} {t : Token} (h : f.tokens[i]? = some t) :
    f.clone i = (f.tokens.length, { f with tokens := f.tokens ++ [t] }) := by
  simp [clone, h]

theorem raise_of_getElem? {f : Interrupts} {i : Nat} {t : Token} (h : f.tokens[i]? = some t) :
    f.raise i = { f with flags := f.flags.set t.flag true } := by
  simp [raise, h]

@[simp] theorem tokens_raise (f : Interrupts) (i : Nat) : (f.raise i).tokens = f.tokens := by
  unfold raise
  split <;> rfl

/-- Whether token `i` or one of its ancestors is raised, following at most
`fuel` parent links. -/
def raisedWithin (f : Interrupts) : Nat → Nat → Bool
  | 0, _ => false
  | fuel + 1, i =>
    match f.tokens[i]? with
    | none => false
    | some t =>
      f.flags.getD t.flag false ||
        match t.parent with
        | some p => f.raisedWithin fuel p
        | none => false

def isRaised (f : Interrupts) (i : Nat) : Bool := f.raisedWithin (f.tokens.length + 1) i

/-- The slices a sleep of `d` takes: its length in milliseconds, rounded up. -/
def sliceCount (d : Duration) : Nat := (d.toNanos + 999999) / 1000000

/-- The checks of a sleep on token `i` with `n` slices still to sleep, where
check `k` sees the family `seen k`: false at the first check that finds the
token raised, true at the check that reaches the deadline. -/
def sleepChecks (seen : Nat → Interrupts) (i : Nat) : Nat → Nat → Bool
  | k, 0 => !(seen k).isRaised i
  | k, n + 1 => !(seen k).isRaised i && sleepChecks seen i (k + 1) n

/-- Sleeps on token `i` for `d`, check `k` seeing the family `seen k`: whether
the whole duration passed unraised; `none` when the deadline overflows. -/
def sleep (seen : Nat → Interrupts) (i : Nat) (d : Duration) : Option Bool :=
  if Controller.deadlineLimit ≤ d.toNanos then none else some (sleepChecks seen i 0 (sliceCount d))

end Interrupts

end DepthFeed
