import DepthFeed.Proofs.Reader.Rounds

/-!
# The worker reads only an open transport

The worker reads only in a duty cycle it entered with no pause requested, so
the argument is about who lowers `pause`. Each of the three hand-backs is made
on an open transport; a failed read lowers nothing, the worker requesting a
pause itself; and the two detaches are made with `pause` raised.
-/

namespace DepthFeed

variable {β : Type}

/-- Some successful attach in the log is followed by no detach and no failed
read. -/
def TransportOpen (log : List (Event β)) : Prop :=
  ∃ before after, log = before ++ .attached (.ok ()) :: after ∧
    ∀ ev ∈ after, ev.closesTransport = false

namespace TransportOpen

theorem append_attached (log : List (Event β)) : TransportOpen (log ++ [.attached (.ok ())]) :=
  ⟨log, [], rfl, by simp⟩

theorem append {log evs : List (Event β)} (h : TransportOpen log)
    (hevs : ∀ ev ∈ evs, ev.closesTransport = false) : TransportOpen (log ++ evs) := by
  obtain ⟨before, after, rfl, hafter⟩ := h
  exact ⟨before, after ++ evs, by simp, List.forall_mem_append.mpr ⟨hafter, hevs⟩⟩

end TransportOpen

/-- A failed read is being handled: the connection is marked lost, then a
pause requested. -/
def WorkerPc.failing : WorkerPc → Bool
  | .losing _ | .pausing _ => true
  | _ => false

theorem WorkerPc.failing_iff {w : WorkerPc} :
    w.failing = true ↔ (∃ e, w = .losing e) ∨ ∃ e, w = .pausing e := by
  cases w <;> simp [failing]

theorem WorkerPc.owns_of_failing {w : WorkerPc} (hf : w.failing = true) : w.owns = true := by
  cases w <;> simp_all [failing, owns]

/-- A park after which the supervisor checks for a lost connection: a
connect's second park, and inspect's park when no pause was requested before
it. -/
def ParkFor.checksLoss : ParkFor β → Bool
  | .synchronize _ => true
  | .inspect wasParked => !wasParked
  | _ => false

namespace SuperPc

/-- From here on the supervisor hands the shared state back to a worker that
will read: right after a connect's attach, and once a connect's or inspect's
park found no lost connection. -/
def handsBackOpen : SuperPc β → Bool
  | .resetting | .resettingScratch | .clearingQueue | .clearingOverflow | .clearingLost
  | .releasing => true
  | .checkingOverflow _ | .installing _ | .draining _ | .unbuffering | .finishing => true
  | .resumingWorker => true
  | _ => false

/-- The worker may be running, and a read may fail, before the supervisor
checks for a lost connection. -/
def awaitsLossCheck : SuperPc β → Bool
  | .fetching => true
  | .parking k _ => k.checksLoss
  | _ => false

/-- The park is done and the lost-connection check is ahead. -/
def checksLoss : SuperPc β → Bool
  | .checkingLost _ => true
  | .looking wasParked | .checkingResume wasParked => !wasParked
  | _ => false

theorem holds_of_handsBackOpen {p : SuperPc β} (hb : p.handsBackOpen = true) : p.holds = true := by
  cases p <;> simp_all [handsBackOpen, holds]

theorem holds_of_checksLoss {p : SuperPc β} (hc : p.checksLoss = true) : p.holds = true := by
  cases p <;> simp_all [checksLoss, holds]

@[simp] theorem awaitsLossCheck_parking (k : ParkFor β) (st : ParkStage) :
    (parking k st).awaitsLossCheck = k.checksLoss := rfl

end SuperPc

namespace ParkFor

/-- A park hands nothing back by itself: it leads to a loss check or to work
that closes or detaches. -/
@[simp] theorem handsBackOpen_parked (k : ParkFor β) : k.parked.handsBackOpen = false := by
  cases k <;> rfl

@[simp] theorem awaitsLossCheck_parked (k : ParkFor β) : k.parked.awaitsLossCheck = false := by
  cases k <;> rfl

@[simp] theorem checksLoss_parked (k : ParkFor β) : k.parked.checksLoss = k.checksLoss := by
  cases k <;> rfl

end ParkFor

namespace SuperStep

variable [Book β] {p p' : SuperPc β} {sh sh' : Shared β} {evs : List (Event β)}

/-- The supervisor comes to hand back an open transport only by attaching, or
by finding no lost connection after a park. -/
theorem handsBackOpen_of (h : SuperStep p sh p' sh' evs) (hb : p'.handsBackOpen = true) :
    (p.handsBackOpen = true ∧ ∀ ev ∈ evs, ev.closesTransport = false) ∨
      (p = .attaching ∧ evs = [.attached (.ok ())]) ∨
      (p.checksLoss = true ∧ sh.connectionLost = false ∧ evs = []) := by
  cases h with
  | acked => simp at hb
  | workerGone => simp at hb
  | interrupted hk =>
    have := (ParkFor.interrupted_exits hk).1
    simp [SuperPc.holds_of_handsBackOpen hb] at this
  | _ => simp_all [SuperPc.handsBackOpen, SuperPc.checksLoss, Event.closesTransport]

/-- A park that checks for a lost connection is entered from the fetch, from
a hand-back, or by an inspect that found no pause requested. -/
theorem awaitsLossCheck_of (h : SuperStep p sh p' sh' evs) (ha : p'.awaitsLossCheck = true) :
    ((p.awaitsLossCheck = true ∧ sh'.connectionLost = sh.connectionLost) ∨
        p.handsBackOpen = true ∨ sh.handshake.pause = false) ∧
      ∀ ev ∈ evs, ev.closesTransport = false := by
  cases h with
  | acked => simp at ha
  | workerGone => simp at ha
  | interrupted hk =>
    rcases ParkFor.interrupted_cases hk with ⟨_, rfl, rfl⟩ | ⟨_, rfl, rfl⟩ <;>
      simp [SuperPc.awaitsLossCheck] at ha
  | callInspect => simp_all [ParkFor.checksLoss, Event.closesTransport]
  | _ => simp_all [SuperPc.awaitsLossCheck, SuperPc.handsBackOpen, ParkFor.checksLoss,
      Event.closesTransport]

/-- The loss check is reached only from a park that checks for it, with
nothing changed. -/
theorem checksLoss_of (h : SuperStep p sh p' sh' evs) (hc : p'.checksLoss = true) :
    ((p.awaitsLossCheck = true ∧ evs = []) ∨
        (p.checksLoss = true ∧ ∀ ev ∈ evs, ev.closesTransport = false)) ∧ sh' = sh := by
  cases h with
  | acked => simp_all
  | workerGone => simp_all
  | interrupted hk =>
    rcases ParkFor.interrupted_cases hk with ⟨_, rfl, rfl⟩ | ⟨_, rfl, rfl⟩ <;>
      simp [SuperPc.checksLoss] at hc
  | _ => simp_all [SuperPc.checksLoss, Event.closesTransport]

end SuperStep

namespace Sys

/-- What keeps the worker's reads on an open transport. -/
structure TransportSafe (s : Sys β) : Prop where
  open_of_inside : s.worker.entering = true ∨ s.worker = .reading → TransportOpen s.log
  /-- With no pause requested the worker may start a read, unless it is
  handling a failed one. -/
  open_of_pause : s.shared.handshake.pause = false →
    TransportOpen s.log ∨ s.worker.failing = true
  lost_of_pausing : ∀ e, s.worker = .pausing e → s.shared.connectionLost = true
  open_of_handsBack : s.super.handsBackOpen = true → TransportOpen s.log
  open_of_awaits : s.super.awaitsLossCheck = true →
    TransportOpen s.log ∨ s.shared.connectionLost = true ∨ s.worker.failing = true
  open_of_checksLoss : s.super.checksLoss = true →
    TransportOpen s.log ∨ s.shared.connectionLost = true

theorem TransportSafe.init (book : β) (capacity : Nat) :
    (Sys.init (Shared.new book capacity)).TransportSafe where
  open_of_inside := by simp [Sys.init, WorkerPc.entering]
  open_of_pause := by simp [Sys.init, Shared.new, Handshake.new]
  lost_of_pausing := by simp [Sys.init]
  open_of_handsBack := by simp [Sys.init, SuperPc.handsBackOpen]
  open_of_awaits := by simp [Sys.init, SuperPc.awaitsLossCheck]
  open_of_checksLoss := by simp [Sys.init, SuperPc.checksLoss]

section Steps

variable [Book β]

theorem TransportSafe.worker_step {s : Sys β} {w : WorkerPc} {sh : Shared β}
    {evs : List (Event β)} (hx : s.Exclusive) (hi : s.TransportSafe)
    (h : WorkerStep s.worker s.shared w sh evs) :
    (⟨sh, w, s.super, s.log ++ evs⟩ : Sys β).TransportSafe := by
  -- an open transport stays open unless this step is a failed read
  have hkeep : TransportOpen s.log →
      TransportOpen (s.log ++ evs) ∨ (s.worker = .reading ∧ ∃ e, w = .losing e) := by
    intro ho
    rcases h.closes_of with hevs | hfail
    · exact .inl (ho.append hevs)
    · exact .inr hfail
  -- and the worker makes no read while the supervisor holds the shared state
  have hheld : s.super.holds = true → TransportOpen s.log → TransportOpen (s.log ++ evs) := by
    intro hh ho
    rcases hkeep ho with ho' | ⟨hr, -⟩
    · exact ho'
    · have hout := (hx.outside_of_holds hh).1
      simp [hr, WorkerPc.owns] at hout
  -- a failed read is handled to its end: the connection marked lost, then a pause requested
  have hfailing : s.worker.failing = true →
      w.failing = true ∨ (s.shared.connectionLost = true ∧ sh.handshake.pause = true) := by
    intro hf
    rcases WorkerPc.failing_iff.mp hf with ⟨e, he⟩ | ⟨e, he⟩
    · rw [(h.of_losing he).1]
      exact .inl rfl
    · exact .inr ⟨hi.lost_of_pausing e he, (h.of_pausing he).2⟩
  constructor
  · intro hin
    rcases h.inside_of hin with hent | ⟨hidle, hpause⟩
    · rcases hkeep (hi.open_of_inside (.inl hent)) with ho | ⟨hr, -⟩
      · exact ho
      · simp [hr, WorkerPc.entering] at hent
    · rcases hi.open_of_pause hpause with ho | hf
      · rcases hkeep ho with ho' | ⟨hr, -⟩
        · exact ho'
        · simp [hidle] at hr
      · simp [hidle, WorkerPc.failing] at hf
  · intro hpause'
    have hpause : s.shared.handshake.pause = false := by
      cases hp : s.shared.handshake.pause
      · rfl
      · simp [h.pause_of_pause hp] at hpause'
    rcases hi.open_of_pause hpause with ho | hf
    · rcases hkeep ho with ho' | ⟨-, e, rfl⟩
      · exact .inl ho'
      · exact .inr rfl
    · rcases hfailing hf with hf' | ⟨-, hp⟩
      · exact .inr hf'
      · simp [hp] at hpause'
  · intro e hw
    exact h.lost_of_pausing hw
  · intro hb
    exact hheld (SuperPc.holds_of_handsBackOpen hb) (hi.open_of_handsBack hb)
  · intro ha
    rcases hi.open_of_awaits ha with ho | hl | hf
    · rcases hkeep ho with ho' | ⟨-, e, rfl⟩
      · exact .inl ho'
      · exact .inr (.inr rfl)
    · exact .inr (.inl (h.lost_of_lost hl))
    · rcases hfailing hf with hf' | ⟨hl, -⟩
      · exact .inr (.inr hf')
      · exact .inr (.inl (h.lost_of_lost hl))
  · intro hc
    rcases hi.open_of_checksLoss hc with ho | hl
    · exact .inl (hheld (SuperPc.holds_of_checksLoss hc) ho)
    · exact .inr (h.lost_of_lost hl)

theorem TransportSafe.super_step {s : Sys β} {p : SuperPc β} {sh : Shared β}
    {evs : List (Event β)} (hx : s.Exclusive)
    (hx' : (⟨sh, s.worker, p, s.log ++ evs⟩ : Sys β).Exclusive) (hi : s.TransportSafe)
    (h : SuperStep s.super s.shared p sh evs) :
    (⟨sh, s.worker, p, s.log ++ evs⟩ : Sys β).TransportSafe := by
  -- the supervisor closes the transport only by a detach, made holding the shared state
  have hkeep : s.super.holds = false → TransportOpen s.log → TransportOpen (s.log ++ evs) := by
    intro hh ho
    rcases h.closes_of with hevs | ⟨e, hp, -⟩ | ⟨hp, -⟩
    · exact ho.append hevs
    · simp [hp, SuperPc.holds] at hh
    · simp [hp, SuperPc.holds] at hh
  constructor
  · intro hin
    have hfree : s.super.holds = false := by
      cases hh : s.super.holds
      · rfl
      · have hout := hx.outside_of_holds hh
        rcases hin with hent | hr
        · simp [hout.2] at hent
        · dsimp only at hr
          simp [hr, WorkerPc.owns] at hout
    exact hkeep hfree (hi.open_of_inside hin)
  · intro hpause'
    cases hpause : s.shared.handshake.pause
    · -- `pause` stays lowered, so the supervisor holds nothing and closes nothing
      have hfree : s.super.holds = false := by
        cases hh : s.super.holds
        · rfl
        · simp [hx.pause_of_holds hh] at hpause
      rcases hi.open_of_pause hpause with ho | hf
      · exact .inl (hkeep hfree ho)
      · exact .inr hf
    · -- a hand-back, made on an open transport
      have hb : s.super.handsBackOpen = true := by
        rcases h.pause_lowered hpause hpause' with hp | hp | hp <;>
          simp [hp, SuperPc.handsBackOpen]
      rcases h.closes_of with hevs | ⟨e, hp, -⟩ | ⟨hp, -⟩
      · exact .inl ((hi.open_of_handsBack hb).append hevs)
      · simp [hp, SuperPc.handsBackOpen] at hb
      · simp [hp, SuperPc.handsBackOpen] at hb
  · intro e hw
    dsimp only at hw
    rcases h.lost_eq with hl | hp
    · rw [hl]
      exact hi.lost_of_pausing e hw
    · have hout := (hx.outside_of_holds (by simp [hp, SuperPc.holds])).1
      simp [hw, WorkerPc.owns] at hout
  · intro hb
    rcases h.handsBackOpen_of hb with ⟨hb', hevs⟩ | ⟨-, rfl⟩ | ⟨hc, hl, rfl⟩
    · exact (hi.open_of_handsBack hb').append hevs
    · exact TransportOpen.append_attached s.log
    · rcases hi.open_of_checksLoss hc with ho | hl'
      · simpa using ho
      · simp [hl] at hl'
  · intro ha
    obtain ⟨hfrom, hevs⟩ := h.awaitsLossCheck_of ha
    rcases hfrom with ⟨ha', hl⟩ | hb | hpause
    · rcases hi.open_of_awaits ha' with ho | hl' | hf
      · exact .inl (ho.append hevs)
      · exact .inr (.inl (hl ▸ hl'))
      · exact .inr (.inr hf)
    · exact .inl ((hi.open_of_handsBack hb).append hevs)
    · rcases hi.open_of_pause hpause with ho | hf
      · exact .inl (ho.append hevs)
      · exact .inr (.inr hf)
  · intro hc
    obtain ⟨hfrom, rfl⟩ := h.checksLoss_of hc
    rcases hfrom with ⟨ha, rfl⟩ | ⟨hc', hevs⟩
    · -- the park completed, so the worker is not in the middle of a failed read
      rcases hi.open_of_awaits ha with ho | hl | hf
      · simpa using Or.inl ho
      · exact .inr hl
      · have hout := (hx'.outside_of_holds (SuperPc.holds_of_checksLoss hc)).1
        simp [WorkerPc.owns_of_failing hf] at hout
    · rcases hi.open_of_checksLoss hc' with ho | hl
      · exact .inl (ho.append hevs)
      · exact .inr hl

theorem Reachable.transportSafe {s : Sys β} (h : s.Reachable) (hb : s.parks < UInt64.size) :
    s.TransportSafe := by
  induction h with
  | init book capacity => exact TransportSafe.init book capacity
  | step hs hstep ih =>
    have hb' := Nat.lt_of_le_of_lt hstep.parks_le hb
    have hx := hs.exclusive hb'
    have hx' := (Reachable.step hs hstep).exclusive hb
    cases hstep with
    | worker hw => exact (ih hb').worker_step hx hw
    | super hp => exact (ih hb').super_step hx hx' hp

/-- On a run that opened fewer than `2 ^ 64 - 1` parks, every read of the
transport comes after a successful attach, with no detach and no failed read
since. -/
theorem worker_reads_open_transport {s : Sys β} (h : s.Reachable) (hb : s.parks < UInt64.size - 1)
    {before after : List (Event β)} {r : Except TransportError (Option (List UInt8))}
    (hl : s.log = before ++ .read r :: after) :
    ∃ opened since, before = opened ++ .attached (.ok ()) :: since ∧
      ∀ ev ∈ since, ev.closesTransport = false := by
  -- the induction is on the run; a read is either old or made by the step just taken
  induction h generalizing before after with
  | init book capacity => simp [Sys.init] at hl
  | step hs hstep ih =>
    have hb' := Nat.lt_of_le_of_lt hstep.parks_le hb
    have hsafe := hs.transportSafe (by omega)
    cases hstep with
    | worker hw =>
      rcases append_eq_append_cons hl with ⟨post, hold⟩ | ⟨pre, rfl, hevs⟩
      · exact ih hb' hold
      · obtain ⟨hr, rfl⟩ := hw.read_mem hevs
        have ho := hsafe.open_of_inside (.inr hr)
        rw [List.append_nil]
        exact ho
    | super hp =>
      rcases append_eq_append_cons hl with ⟨post, hold⟩ | ⟨pre, -, hevs⟩
      · exact ih hb' hold
      · exact absurd (by simp [hevs]) (hp.read_not_mem r)

end Steps

/-- A connect parks the new worker, attaches and hands the state back; the
worker's first read then follows that attach. -/
theorem worker_reads_open_transport_after_connect :
    ∃ s : Sys IncrementalBook, s.Reachable ∧
      s.log = [.call .connect, .opened, .worked (.ok 0), .attached (.ok ()),
          .reset (Book.reset (IncrementalBook.new 4)), .released] ++
        .read (.ok none) :: [.worked (.ok 0)] ∧
      ∃ opened since, ([.call .connect, .opened, .worked (.ok 0), .attached (.ok ()),
          .reset (Book.reset (IncrementalBook.new 4)), .released] : List (Event IncrementalBook)) =
          opened ++ .attached (.ok ()) :: since ∧
        ∀ ev ∈ since, ev.closesTransport = false := by
  -- the supervisor's first park, answered by the worker
  have h1 := (Reachable.init (IncrementalBook.new 4) 8).super (.callConnect rfl)
  have h2 := h1.super .raisePause
  have h3 := h2.super .openEpoch
  have h4 := h3.worker (.notice rfl)
  have h5 := h4.worker .loadEpoch
  have h6 := h5.worker .mark
  have h7 := h6.worker .ack
  -- attach, reset and the first hand-back
  have h8 := h7.super (.acked (by decide))
  have h9 := h8.super .attachOk
  have h10 := h9.super .resetBook
  have h11 := h10.super .resetScratch
  have h12 := h11.super .clearQueue
  have h13 := h12.super .clearOverflow
  have h14 := h13.super .clearLost
  have h15 := h14.super .releaseForSnapshot
  -- the worker resumes and reads
  have h16 := h15.worker (.resume rfl)
  have h17 := h16.worker (.unmark rfl)
  have h18 := h17.worker .clearMark
  have h19 := h18.worker .readNothing
  exact ⟨_, h19, rfl, worker_reads_open_transport h19 (by decide) rfl⟩

/-- After `2 ^ 64` parks the worker reads a transport that was detached after
the last attach. -/
theorem worker_reads_detached_transport :
    ∃ s : Sys IncrementalBook, s.Reachable ∧ s.parks = UInt64.size ∧
      ∃ before after r, s.log = before ++ .read r :: after ∧
        ¬ ∃ opened since, before = opened ++ .attached (.ok ()) :: since ∧
          ∀ ev ∈ since, ev.closesTransport = false := by
  obtain ⟨s₀, s, mid, e, h₀, hrun, hl, -, -, hw, hparks, rfl, hquiet⟩ := wrapped_teardown_run
  have hread : WorkerStep s.worker s.shared .idle s.shared [.read (.ok none), .worked (.ok 0)] :=
    hw ▸ .readNothing
  refine ⟨_, (h₀.run hrun).worker hread, ?_, s.log, [.worked (.ok 0)], .ok none, by simp, ?_⟩
  · rw [parks, List.countP_append, ← parks, hparks]
    rfl
  · rintro ⟨opened, since, hsplit, hsince⟩
    -- the connect's attach is the only one, and its teardown's detach follows it
    have hsplit' : (s₀.log ++ [.call .connect, .opened, .worked (.ok 0)]) ++ .attached (.ok ()) ::
        [.reset (Book.reset (IncrementalBook.new 4)), .released, .fetched (.error .connectionLost),
          .opened, .detached (.ok ()) .buffering, .returned .connect (.error e)] =
        opened ++ .attached (.ok ()) :: since := by
      rw [← hsplit, hl]
      simp
    have hnot : Event.attached (.ok ()) ∉ s₀.log ++ [.call .connect, .opened, .worked (.ok 0)] := by
      intro hm
      rcases List.mem_append.mp hm with hm | hm
      · exact absurd (hquiet _ hm) (by simp [Event.callsTransport])
      · simp at hm
    obtain ⟨-, -, rfl⟩ := (List.append_cons_inj_of_notMem hnot (by simp)).mp hsplit'
    exact absurd (hsince (.detached (.ok ()) .buffering) (by simp)) (by simp [Event.closesTransport])

end Sys

end DepthFeed
