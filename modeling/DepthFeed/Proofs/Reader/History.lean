import Mathlib
import DepthFeed.Proofs.Reader.Exclusion

/-!
# What the log records of the reader's state

Three views of a run's log, each a fold over it, with which the state agrees
at every reachable state: the events since the supervisor's last call
(`sinceCall`), the buffer flag as the calls and the unbuffering set it
(`bufferFlag`), and the connect count as the number of drains.
-/

namespace DepthFeed

variable {β : Type}

namespace Event

def isCall : Event β → Bool
  | .call _ => true
  | _ => false

def isDetach : Event β → Bool
  | .detached _ _ => true
  | _ => false

def isDrained : Event β → Bool
  | .drained _ _ => true
  | _ => false

/-- What the worker logs: reads, offers, publications and the ends of its
duty cycles. -/
def byWorker : Event β → Bool
  | .read _ | .offered _ _ | .published _ | .worked _ => true
  | _ => false

/-- The buffer flag after this event, given the flag before: a connect or a
disconnect raises it, the end of a connect's replay lowers it. -/
def bufferAfter (ev : Event β) (flag : Bool) : Bool :=
  match ev with
  | .call .connect | .call .disconnect => true
  | .unbuffered => false
  | _ => flag

theorem bufferAfter_of_byWorker {ev : Event β} (hw : ev.byWorker = true) (flag : Bool) :
    ev.bufferAfter flag = flag := by
  cases ev <;> simp_all [byWorker, bufferAfter]

theorem isCall_of_byWorker {ev : Event β} (hw : ev.byWorker = true) : ev.isCall = false := by
  cases ev <;> simp_all [byWorker, isCall]

theorem isDetach_of_byWorker {ev : Event β} (hw : ev.byWorker = true) : ev.isDetach = false := by
  cases ev <;> simp_all [byWorker, isDetach]

theorem isDrained_of_byWorker {ev : Event β} (hw : ev.byWorker = true) : ev.isDrained = false := by
  cases ev <;> simp_all [byWorker, isDrained]

end Event

/-- Whether a drain above `floor` applies a record: no floor, or the record
is not older than it. -/
def Book.keeps (floor : Option UInt64) (record : MarketRecord) : Bool :=
  floor.all fun f => f.toNat ≤ record.sequence.toNat

def Event.replayedCount : Event β → Nat
  | .drained floor records => records.countP (Book.keeps floor)
  | _ => 0

def Event.discardedCount : Event β → Nat
  | .drained floor records => records.countP fun r => !Book.keeps floor r
  | _ => 0

theorem counts_eq_zero_of_undrained {seg : List (Event β)}
    (h : ∀ ev ∈ seg, ev.isDrained = false) :
    (seg.map Event.replayedCount).sum = 0 ∧ (seg.map Event.discardedCount).sum = 0 := by
  induction seg with
  | nil => simp
  | cons ev rest ih =>
    have hev := h ev (by simp)
    obtain ⟨hr, hd⟩ := ih fun ev' hm => h ev' (by simp [hm])
    cases ev <;> simp_all [Event.isDrained, Event.replayedCount, Event.discardedCount]

def sinceCall (log : List (Event β)) : List (Event β) :=
  log.foldl (fun seg ev => if ev.isCall then [] else seg ++ [ev]) []

/-- The buffer flag as the log sets it; a new reader buffers. -/
def bufferFlag (log : List (Event β)) : Bool :=
  log.foldl (fun flag ev => ev.bufferAfter flag) true

theorem foldl_sinceCall_of_not_call {seg evs : List (Event β)}
    (h : ∀ ev ∈ evs, ev.isCall = false) :
    evs.foldl (fun seg ev => if ev.isCall then [] else seg ++ [ev]) seg = seg ++ evs := by
  induction evs generalizing seg with
  | nil => simp
  | cons ev rest ih =>
    have hev : ev.isCall = false := h ev (by simp)
    rw [List.foldl_cons, if_neg (by simp [hev]), ih (fun ev' hm => h ev' (by simp [hm]))]
    simp

theorem sinceCall_append {log evs : List (Event β)} (h : ∀ ev ∈ evs, ev.isCall = false) :
    sinceCall (log ++ evs) = sinceCall log ++ evs := by
  rw [sinceCall, List.foldl_append]
  exact foldl_sinceCall_of_not_call h

@[simp] theorem sinceCall_append_call (log : List (Event β)) (op : Op) :
    sinceCall (log ++ [.call op]) = [] := by
  simp [sinceCall, List.foldl_append, Event.isCall]

theorem sinceCall_call_append {pre mid : List (Event β)} {op : Op}
    (h : ∀ ev ∈ mid, ev.isCall = false) : sinceCall (pre ++ .call op :: mid) = mid := by
  have hsplit : pre ++ .call op :: mid = (pre ++ [.call op]) ++ mid := by simp
  rw [hsplit, sinceCall_append h, sinceCall_append_call, List.nil_append]

theorem bufferFlag_append (log evs : List (Event β)) :
    bufferFlag (log ++ evs) = evs.foldl (fun flag ev => ev.bufferAfter flag) (bufferFlag log) := by
  rw [bufferFlag, bufferFlag, List.foldl_append]

theorem foldl_bufferAfter_of_byWorker {evs : List (Event β)} (h : ∀ ev ∈ evs, ev.byWorker = true)
    (flag : Bool) : evs.foldl (fun flag ev => ev.bufferAfter flag) flag = flag := by
  induction evs generalizing flag with
  | nil => rfl
  | cons ev rest ih =>
    rw [List.foldl_cons, Event.bufferAfter_of_byWorker (h ev (by simp))]
    exact ih (fun ev' hm => h ev' (by simp [hm])) flag

theorem bufferFlag_call_connect (pre mid : List (Event β)) (h : .unbuffered ∉ mid) :
    bufferFlag (pre ++ .call .connect :: mid) = true := by
  have hsplit : pre ++ .call .connect :: mid = (pre ++ [.call .connect]) ++ mid := by simp
  rw [hsplit, bufferFlag_append]
  have hstart : bufferFlag (pre ++ [.call .connect]) = true := by
    simp [bufferFlag_append, Event.bufferAfter]
  rw [hstart]
  clear hsplit hstart
  induction mid with
  | nil => rfl
  | cons ev rest ih =>
    have hev : ev ≠ .unbuffered := fun he => h (by simp [he])
    have hrest : .unbuffered ∉ rest := fun hm => h (by simp [hm])
    have hkeep : ev.bufferAfter true = true := by
      cases ev with
      | call op => cases op <;> rfl
      | unbuffered => exact absurd rfl hev
      | _ => rfl
    rw [List.foldl_cons, hkeep]
    exact ih hrest

theorem append_eq_append_cons {α : Type} {log evs before after : List α} {x : α}
    (h : log ++ evs = before ++ x :: after) :
    (∃ post, log = before ++ x :: post) ∨ ∃ pre, before = log ++ pre ∧ evs = pre ++ x :: after := by
  rcases List.append_eq_append_iff.mp h with ⟨pre, hb, he⟩ | ⟨c, hl, hx⟩
  · exact .inr ⟨pre, hb, he⟩
  · cases c with
    | nil => exact .inr ⟨[], by simp [hl], by simpa using hx.symm⟩
    | cons y post =>
      simp only [List.cons_append, List.cons.injEq] at hx
      obtain ⟨rfl, -⟩ := hx
      exact .inl ⟨post, hl⟩

theorem append_cons_eq_of_first {α : Type} {p : α → Prop} :
    ∀ {x₁ x₂ z₁ z₂ : List α} {a₁ a₂ : α}, (∀ y ∈ x₁, ¬ p y) → (∀ y ∈ x₂, ¬ p y) → p a₁ → p a₂ →
      x₁ ++ a₁ :: z₁ = x₂ ++ a₂ :: z₂ → x₁ = x₂ ∧ a₁ = a₂ ∧ z₁ = z₂
  | [], [], _, _, _, _, _, _, _, _, h => by simpa using h
  | [], c :: _, _, _, _, _, _, h₂, h₁, _, h => by
    simp only [List.nil_append, List.cons_append, List.cons.injEq] at h
    exact absurd (h.1 ▸ h₁) (h₂ c List.mem_cons_self)
  | b :: _, [], _, _, _, _, h₁, _, _, h₂, h => by
    simp only [List.nil_append, List.cons_append, List.cons.injEq] at h
    exact absurd (h.1 ▸ h₂) (h₁ b List.mem_cons_self)
  | b :: x₁, c :: x₂, _, _, _, _, h₁, h₂, ha₁, ha₂, h => by
    simp only [List.cons_append, List.cons.injEq] at h
    obtain ⟨rfl, h⟩ := h
    obtain ⟨rfl, rfl, rfl⟩ := append_cons_eq_of_first (fun y hy => h₁ y (List.mem_cons_of_mem _ hy))
      (fun y hy => h₂ y (List.mem_cons_of_mem _ hy)) ha₁ ha₂ h
    exact ⟨rfl, rfl, rfl⟩

def ParkFor.connecting : ParkFor β → Bool
  | .attach | .synchronize _ | .teardown _ => true
  | _ => false

/-- Inside a connect and before its unbuffering: the supervisor has raised
the buffer flag and does not lower it. -/
def SuperPc.connecting : SuperPc β → Bool
  | .parking k _ => k.connecting
  | .attaching | .resetting | .resettingScratch | .clearingQueue | .clearingOverflow
  | .clearingLost | .releasing | .fetching => true
  | .checkingLost _ | .discardingLost | .checkingOverflow _ | .discardingOverflow
  | .installing _ | .draining _ => true
  | .abandoning _ _ | .pausingAfter _ | .detaching _ | .resettingAfter _ | .clearingAfter _ => true
  | _ => false

@[simp] theorem ParkFor.connecting_parked (k : ParkFor β) : k.parked.connecting = k.connecting := by
  cases k <;> rfl

namespace Sys

/-- The state agrees with the log's views of it. -/
structure Logged (s : Sys β) : Prop where
  buffer_of_connecting : s.super.connecting = true → s.shared.handshake.buffer = true
  buffer_eq : s.shared.handshake.buffer = bufferFlag s.log
  /-- Every offer went where the buffer flag said at the time. -/
  offered_eq : ∀ pre r b post, s.log = pre ++ .offered r b :: post → b = bufferFlag pre
  connects_eq : s.shared.stats.connects = UInt64.ofNat (s.log.countP Event.isDrained)
  replayed_eq : s.shared.stats.replayed = UInt64.ofNat (s.log.map Event.replayedCount).sum
  discarded_eq : s.shared.stats.discarded = UInt64.ofNat (s.log.map Event.discardedCount).sum

theorem Logged.init (book : β) (capacity : Nat) : (Sys.init (Shared.new book capacity)).Logged where
  buffer_of_connecting := by simp [Sys.init, SuperPc.connecting]
  buffer_eq := by simp [Sys.init, Shared.new, Handshake.new, bufferFlag]
  offered_eq := by simp [Sys.init]
  connects_eq := by simp [Sys.init, Shared.new, ReaderStats.zero]
  replayed_eq := by simp [Sys.init, Shared.new, ReaderStats.zero]
  discarded_eq := by simp [Sys.init, Shared.new, ReaderStats.zero]

end Sys

variable [Book β]

/-- A drain applies, in order, the records it keeps, and counts those it
keeps and those it skips. -/
theorem Book.replayRecords_eq (floor : Option UInt64) (book : β) (records : List MarketRecord) :
    Book.replayRecords floor book records =
      ((records.filter (Book.keeps floor)).foldl (fun b r => (Book.updateFrom b r).2) book,
        records.countP (Book.keeps floor), records.countP fun r => !Book.keeps floor r) := by
  -- the fold's accumulator is generalised: book so far and both counts
  suffices h : ∀ (b : β) (n m : Nat), records.foldl (fun (acc : β × Nat × Nat) record =>
      if floor.all fun f => f.toNat ≤ record.sequence.toNat then
        ((Book.updateFrom acc.1 record).2, acc.2.1 + 1, acc.2.2)
      else (acc.1, acc.2.1, acc.2.2 + 1)) (b, n, m) =
      ((records.filter (Book.keeps floor)).foldl (fun b r => (Book.updateFrom b r).2) b,
        n + records.countP (Book.keeps floor), m + records.countP fun r => !Book.keeps floor r) by
    unfold Book.replayRecords
    simpa using h book 0 0
  induction records with
  | nil => simp
  | cons record rest ih =>
    intro b n m
    by_cases hk : Book.keeps floor record = true
    · have hk' : (floor.all fun f => f.toNat ≤ record.sequence.toNat) = true := hk
      rw [List.foldl_cons, if_pos hk', ih]
      simp [hk, Nat.add_assoc, Nat.add_comm 1]
    · have hk' : ¬ (floor.all fun f => f.toNat ≤ record.sequence.toNat) = true := hk
      rw [List.foldl_cons, if_neg hk', ih]
      simp [hk, Nat.add_assoc, Nat.add_comm 1]

namespace WorkerStep

variable {w w' : WorkerPc} {sh sh' : Shared β} {evs : List (Event β)}

theorem byWorker (h : WorkerStep w sh w' sh' evs) : ∀ ev ∈ evs, ev.byWorker = true := by
  cases h <;> simp [Event.byWorker]

theorem not_call (h : WorkerStep w sh w' sh' evs) : ∀ ev ∈ evs, ev.isCall = false :=
  fun ev hev => Event.isCall_of_byWorker (h.byWorker ev hev)

theorem offered_mem (h : WorkerStep w sh w' sh' evs) {pre post : List (Event β)}
    {r : MarketRecord} {b : Bool} (he : evs = pre ++ .offered r b :: post) :
    pre = [] ∧ b = sh.handshake.buffer := by
  cases h <;> simp [List.cons_eq_append_iff] at he ⊢ <;> simp_all

theorem connects_eq (h : WorkerStep w sh w' sh' evs) : sh'.stats.connects = sh.stats.connects := by
  cases h <;> simp

theorem replayed_eq (h : WorkerStep w sh w' sh' evs) : sh'.stats.replayed = sh.stats.replayed := by
  cases h <;> simp

theorem discarded_eq (h : WorkerStep w sh w' sh' evs) :
    sh'.stats.discarded = sh.stats.discarded := by
  cases h <;> simp

end WorkerStep

namespace SuperStep

variable {p p' : SuperPc β} {sh sh' : Shared β} {evs : List (Event β)}

theorem calls (h : SuperStep p sh p' sh' evs) :
    (∀ ev ∈ evs, ev.isCall = false) ∨ (p.ready = true ∧ ∃ op, evs = [.call op]) := by
  cases h with
  | interrupted hk =>
    rcases ParkFor.interrupted_cases hk with ⟨_, rfl, rfl⟩ | ⟨_, rfl, rfl⟩ <;>
      simp [Event.isCall]
  | _ => simp_all [Event.isCall]

theorem offered_not_mem (h : SuperStep p sh p' sh' evs) (r : MarketRecord) (b : Bool) :
    .offered r b ∉ evs := by
  cases h with
  | interrupted hk =>
    rcases ParkFor.interrupted_cases hk with ⟨_, rfl, rfl⟩ | ⟨_, rfl, rfl⟩ <;> simp
  | _ => simp

/-- The supervisor sets the buffer flag as its events say, given that a
connect being abandoned still buffers. -/
theorem buffer_follows (h : SuperStep p sh p' sh' evs)
    (hab : ∀ a e, p = .abandoning a e → sh.handshake.buffer = true) :
    sh'.handshake.buffer = evs.foldl (fun flag ev => ev.bufferAfter flag) sh.handshake.buffer := by
  cases h with
  | interrupted hk =>
    rcases ParkFor.interrupted_cases hk with ⟨_, rfl, rfl⟩ | ⟨_, rfl, rfl⟩ <;>
      simp [Event.bufferAfter]
  | abandonAttached => simp [hab true _ rfl]
  | abandonDetached => simp [hab false _ rfl]
  | _ => simp [Event.bufferAfter]

/-- A connect is entered by its call, which raises the buffer flag, and the
flag is lowered only by the unbuffering that ends it. -/
theorem connecting_of (h : SuperStep p sh p' sh' evs) (hc : p'.connecting = true) :
    (p.connecting = true ∧ (sh.handshake.buffer = true → sh'.handshake.buffer = true)) ∨
      (p.ready = true ∧ sh'.handshake.buffer = true) := by
  cases h with
  | acked =>
    rw [ParkFor.connecting_parked] at hc
    simp [hc, SuperPc.connecting]
  | workerGone =>
    rw [ParkFor.connecting_parked] at hc
    simp [hc, SuperPc.connecting]
  | @interrupted _ k _ _ _ hk =>
    cases k <;> simp only [ParkFor.interrupted, Option.some.injEq, Prod.mk.injEq,
      reduceCtorEq] at hk <;> obtain ⟨rfl, rfl⟩ := hk <;>
      simp_all [SuperPc.connecting, ParkFor.connecting]
  | _ => simp_all [SuperPc.connecting, ParkFor.connecting]

theorem replayed_step (h : SuperStep p sh p' sh' evs) :
    sh'.stats.replayed = sh.stats.replayed + UInt64.ofNat (evs.map Event.replayedCount).sum := by
  cases h with
  | interrupted hk =>
    rcases ParkFor.interrupted_cases hk with ⟨_, rfl, rfl⟩ | ⟨_, rfl, rfl⟩ <;>
      simp [Event.replayedCount]
  | drain => simp [Shared.drain, Book.replayRecords_eq, Event.replayedCount]
  | _ => simp [Event.replayedCount]

theorem discarded_step (h : SuperStep p sh p' sh' evs) :
    sh'.stats.discarded = sh.stats.discarded + UInt64.ofNat (evs.map Event.discardedCount).sum := by
  cases h with
  | interrupted hk =>
    rcases ParkFor.interrupted_cases hk with ⟨_, rfl, rfl⟩ | ⟨_, rfl, rfl⟩ <;>
      simp [Event.discardedCount]
  | drain => simp [Shared.drain, Book.replayRecords_eq, Event.discardedCount]
  | _ => simp [Event.discardedCount]

theorem connects_step (h : SuperStep p sh p' sh' evs) :
    sh'.stats.connects = sh.stats.connects + UInt64.ofNat (evs.countP Event.isDrained) := by
  cases h with
  | interrupted hk =>
    rcases ParkFor.interrupted_cases hk with ⟨_, rfl, rfl⟩ | ⟨_, rfl, rfl⟩ <;>
      simp [Event.isDrained]
  | drain => simp [Shared.drain, Event.isDrained]
  | _ => simp [Event.isDrained]

end SuperStep

namespace Sys

theorem Logged.worker_step {s : Sys β} {w : WorkerPc} {sh : Shared β} {evs : List (Event β)}
    (hi : s.Logged) (h : WorkerStep s.worker s.shared w sh evs) :
    (⟨sh, w, s.super, s.log ++ evs⟩ : Sys β).Logged := by
  have hbuffer := h.buffer_eq
  have hflag : bufferFlag (s.log ++ evs) = bufferFlag s.log := by
    rw [bufferFlag_append, foldl_bufferAfter_of_byWorker h.byWorker]
  have hcounts := counts_eq_zero_of_undrained fun ev hev =>
    Event.isDrained_of_byWorker (h.byWorker ev hev)
  constructor
  · intro hc
    rw [hbuffer]
    exact hi.buffer_of_connecting hc
  · rw [hbuffer, hflag]
    exact hi.buffer_eq
  · intro before r b after hl
    rcases append_eq_append_cons hl with ⟨post, hold⟩ | ⟨pre, rfl, hevs⟩
    · exact hi.offered_eq before r b post hold
    · -- the offer is this step's, made on the flag as it stands
      obtain ⟨rfl, hb⟩ := h.offered_mem hevs
      rw [List.append_nil, hb]
      exact hi.buffer_eq
  · have hnone : evs.countP Event.isDrained = 0 :=
      List.countP_eq_zero.mpr fun ev hev => by simp [Event.isDrained_of_byWorker (h.byWorker ev hev)]
    rw [List.countP_append, hnone, h.connects_eq]
    exact hi.connects_eq
  · rw [List.map_append, List.sum_append, hcounts.1, h.replayed_eq]
    exact hi.replayed_eq
  · rw [List.map_append, List.sum_append, hcounts.2, h.discarded_eq]
    exact hi.discarded_eq

theorem Logged.super_step {s : Sys β} {p : SuperPc β} {sh : Shared β} {evs : List (Event β)}
    (hi : s.Logged) (h : SuperStep s.super s.shared p sh evs) :
    (⟨sh, s.worker, p, s.log ++ evs⟩ : Sys β).Logged := by
  have hbuffer := h.buffer_follows fun a e hp =>
    hi.buffer_of_connecting (by simp [hp, SuperPc.connecting])
  constructor
  · intro hc
    rcases h.connecting_of hc with ⟨hc', hkeep⟩ | ⟨-, hb⟩
    · exact hkeep (hi.buffer_of_connecting hc')
    · exact hb
  · rw [hbuffer, bufferFlag_append, hi.buffer_eq]
  · intro before r b after hl
    rcases append_eq_append_cons hl with ⟨post, hold⟩ | ⟨pre, -, hevs⟩
    · exact hi.offered_eq before r b post hold
    · exact absurd (by simp [hevs]) (h.offered_not_mem r b)
  · rw [List.countP_append, UInt64.ofNat_add, h.connects_step, hi.connects_eq]
  · rw [List.map_append, List.sum_append, UInt64.ofNat_add, h.replayed_step, hi.replayed_eq]
  · rw [List.map_append, List.sum_append, UInt64.ofNat_add, h.discarded_step, hi.discarded_eq]

theorem Reachable.logged {s : Sys β} (h : s.Reachable) : s.Logged := by
  induction h with
  | init book capacity => exact Logged.init book capacity
  | step _ hstep ih =>
    cases hstep with
    | worker hw => exact ih.worker_step hw
    | super hp => exact ih.super_step hp

/-- Every offer made after a connect began and before any unbuffering went
to the replay queue. -/
theorem Reachable.offered_buffered {s : Sys β} (h : s.Reachable) {pre mid post : List (Event β)}
    {r : MarketRecord} {b : Bool} (hl : s.log = pre ++ .call .connect :: mid ++ .offered r b :: post)
    (hmid : .unbuffered ∉ mid) : b = true := by
  have hb := h.logged.offered_eq (pre ++ .call .connect :: mid) r b post (by simp [hl])
  rw [hb]
  exact bufferFlag_call_connect pre mid hmid

theorem Reachable.run {s t : Sys β} (hs : s.Reachable) (hr : Relation.ReflTransGen Step s t) :
    t.Reachable := by
  induction hr with
  | refl => exact hs
  | tail _ hstep ih => exact .step ih hstep

end Sys

end DepthFeed
