import DepthFeed.Proofs.Reader.Rounds

/-!
# A failed connect leaves the reader parked and torn down

A connect passes through four stages (`ConnectStage`): before a successful
attach, attached, torn down after the detach, and failed. `TearsDown` says what
the events since the call show at each stage. A detach is made holding the
shared state, hence with the worker parked, and after it `pause` stays raised.
-/

namespace DepthFeed

variable {β : Type}

/-- How far a connect has come on its way to a failure. -/
inductive ConnectStage where
  | fresh
  | attached
  | tornDown
  | failed
  deriving DecidableEq, Repr

def ParkFor.connectStage : ParkFor β → Option ConnectStage
  | .attach => some .fresh
  | .synchronize _ | .teardown _ => some .attached
  | _ => none

/-- The stage of the connect the supervisor is in, on the paths that may fail. -/
def SuperPc.connectStage : SuperPc β → Option ConnectStage
  | .parking k _ => k.connectStage
  | .attaching | .abandoning false _ | .pausingAfter _ => some .fresh
  | .resetting | .resettingScratch | .clearingQueue | .clearingOverflow | .clearingLost
  | .releasing | .fetching => some .attached
  | .checkingLost _ | .discardingLost | .checkingOverflow _ | .discardingOverflow => some .attached
  | .abandoning true _ | .detaching _ => some .attached
  | .resettingAfter _ | .clearingAfter _ => some .tornDown
  | .done .connect (.error _) => some .failed
  | _ => none

@[simp] theorem ParkFor.connectStage_parked (k : ParkFor β) :
    k.parked.connectStage = k.connectStage := by
  cases k <;> rfl

@[simp] theorem ParkFor.connectStage_ne_tornDown (k : ParkFor β) :
    k.connectStage ≠ some .tornDown := by
  cases k <;> simp [connectStage]

@[simp] theorem ParkFor.connectStage_ne_failed (k : ParkFor β) :
    k.connectStage ≠ some .failed := by
  cases k <;> simp [connectStage]

/-- Exactly one detach, after a successful attach, made with the worker
parked. -/
def DetachedOnce (seg : List (Event β)) : Prop :=
  ∃ before between after r, seg = before ++ .attached (.ok ()) :: between ++ .detached r .parked :: after ∧
    ∀ ev ∈ before ++ between ++ after, ev.isDetach = false

theorem DetachedOnce.append {seg evs : List (Event β)} (h : DetachedOnce seg)
    (hevs : ∀ ev ∈ evs, ev.isDetach = false) : DetachedOnce (seg ++ evs) := by
  obtain ⟨before, between, after, r, rfl, hnone⟩ := h
  refine ⟨before, between, after ++ evs, r, by simp, ?_⟩
  intro ev hev
  simp only [List.mem_append, or_assoc] at hev
  rcases hev with hb | hb | ha | he
  · exact hnone ev (by simp [hb])
  · exact hnone ev (by simp [hb])
  · exact hnone ev (by simp [ha])
  · exact hevs ev he

theorem DetachedOnce.attached_mem {seg : List (Event β)} (h : DetachedOnce seg) :
    .attached (.ok ()) ∈ seg := by
  obtain ⟨before, between, after, r, rfl, -⟩ := h
  simp

def ConnectStage.Shows : ConnectStage → List (Event β) → Prop
  | .fresh, seg => .attached (.ok ()) ∉ seg ∧ ∀ ev ∈ seg, ev.isDetach = false
  | .attached, seg => .attached (.ok ()) ∈ seg ∧ ∀ ev ∈ seg, ev.isDetach = false
  | .tornDown, seg => DetachedOnce seg
  | .failed, seg =>
    (.attached (.ok ()) ∉ seg ∧ ∀ ev ∈ seg, ev.isDetach = false) ∨ DetachedOnce seg

theorem ConnectStage.Shows.append_byWorker {st : ConnectStage} {seg evs : List (Event β)}
    (h : st.Shows seg) (hevs : ∀ ev ∈ evs, ev.byWorker = true) : st.Shows (seg ++ evs) := by
  have hdetach : ∀ ev ∈ evs, ev.isDetach = false :=
    fun ev hev => Event.isDetach_of_byWorker (hevs ev hev)
  have hattach : .attached (.ok ()) ∉ evs := fun hm => by simpa [Event.byWorker] using hevs _ hm
  have hfresh : (.attached (.ok ()) ∉ seg ∧ ∀ ev ∈ seg, ev.isDetach = false) →
      (.attached (.ok ()) ∉ seg ++ evs ∧ ∀ ev ∈ seg ++ evs, ev.isDetach = false) := by
    rintro ⟨hnot, hnone⟩
    exact ⟨by simp [hnot, hattach], List.forall_mem_append.mpr ⟨hnone, hdetach⟩⟩
  cases st with
  | fresh => exact hfresh h
  | attached =>
    exact ⟨List.mem_append_left _ h.1, List.forall_mem_append.mpr ⟨h.2, hdetach⟩⟩
  | tornDown => exact DetachedOnce.append h hdetach
  | failed =>
    rcases h with hf | hd
    · exact .inl (hfresh hf)
    · exact .inr (DetachedOnce.append hd hdetach)

theorem Handshake.state_of_parked {h : Handshake} (hp : h.pause = true) (hm : h.isPaused = true) :
    h.state = .parked := by
  simp [Handshake.state, hp, hm]

variable [Book β]

namespace SuperStep

variable {p p' : SuperPc β} {sh sh' : Shared β} {evs : List (Event β)}

/-- Events that change no connect stage's showing and are no part of a
connect's synchronization. -/
def Plain (evs : List (Event β)) : Prop :=
  ∀ ev ∈ evs, ev.isDetach = false ∧ ev.isCall = false ∧ ev.isDrained = false ∧ ev ≠ .unbuffered

theorem into_fresh (h : SuperStep p sh p' sh' evs) (hp' : p'.connectStage = some .fresh) :
    (p.connectStage = some .fresh ∧ Plain evs ∧ .attached (.ok ()) ∉ evs) ∨
      ∃ op, evs = [.call op] := by
  cases h with
  | acked =>
    rw [ParkFor.connectStage_parked] at hp'
    simp [hp', SuperPc.connectStage, Plain]
  | workerGone =>
    rw [ParkFor.connectStage_parked] at hp'
    simp [hp', SuperPc.connectStage, Plain]
  | @interrupted _ k _ _ _ hk =>
    cases k <;> simp only [ParkFor.interrupted, Option.some.injEq, Prod.mk.injEq,
      reduceCtorEq] at hk <;> obtain ⟨rfl, rfl⟩ := hk <;>
      simp_all [SuperPc.connectStage, ParkFor.connectStage, Plain]
  | _ => simp_all [SuperPc.connectStage, ParkFor.connectStage, Plain, Event.isDetach,
      Event.isCall, Event.isDrained]

/-- An attached connect is entered by the successful attach and logs plain
events until its detach. -/
theorem into_attached (h : SuperStep p sh p' sh' evs) (hp' : p'.connectStage = some .attached) :
    (p.connectStage = some .attached ∧ Plain evs) ∨
      (p = .attaching ∧ evs = [.attached (.ok ())]) := by
  cases h with
  | acked =>
    rw [ParkFor.connectStage_parked] at hp'
    simp [hp', SuperPc.connectStage, Plain]
  | workerGone =>
    rw [ParkFor.connectStage_parked] at hp'
    simp [hp', SuperPc.connectStage, Plain]
  | @interrupted _ k _ _ _ hk =>
    cases k <;> simp only [ParkFor.interrupted, Option.some.injEq, Prod.mk.injEq,
      reduceCtorEq] at hk <;> obtain ⟨rfl, rfl⟩ := hk <;>
      simp_all [SuperPc.connectStage, ParkFor.connectStage, Plain]
  | _ => simp_all [SuperPc.connectStage, ParkFor.connectStage, Plain, Event.isDetach,
      Event.isCall, Event.isDrained]

theorem into_tornDown (h : SuperStep p sh p' sh' evs) (hp' : p'.connectStage = some .tornDown) :
    (∃ e r, p = .detaching e ∧ p' = .resettingAfter e ∧
        evs = [.detached r sh.handshake.state] ∧ sh' = sh) ∨
      (∃ e, p = .resettingAfter e ∧ p' = .clearingAfter e ∧ evs = [] ∧
        sh' = { sh with book := Book.reset sh.book }) := by
  cases h with
  | acked => simp at hp'
  | workerGone => simp at hp'
  | @interrupted _ k _ _ _ hk =>
    cases k <;> simp only [ParkFor.interrupted, Option.some.injEq, Prod.mk.injEq,
      reduceCtorEq] at hk <;> obtain ⟨rfl, rfl⟩ := hk <;> simp_all [SuperPc.connectStage]
  | _ => simp_all [SuperPc.connectStage]

/-- A connect fails by requesting a pause when nothing was attached, and by
clearing the replay queue after a teardown. -/
theorem into_failed (h : SuperStep p sh p' sh' evs) (hp' : p'.connectStage = some .failed) :
    (∃ e, p = .pausingAfter e ∧ evs = [.returned .connect (.error e)] ∧
        sh' = sh.withHandshake (·.requestPause)) ∨
      (∃ e, p = .clearingAfter e ∧ evs = [.returned .connect (.error e)] ∧
        sh' = { sh with replay := sh.replay.clear }) := by
  cases h with
  | acked => simp at hp'
  | workerGone => simp at hp'
  | @interrupted _ k _ _ _ hk =>
    cases k <;> simp only [ParkFor.interrupted, Option.some.injEq, Prod.mk.injEq,
      reduceCtorEq] at hk <;> obtain ⟨rfl, rfl⟩ := hk <;> simp_all [SuperPc.connectStage]
  | _ => simp_all [SuperPc.connectStage]

/-- A connect stage is entered by the connect's call, or from another stage
with no call and no part of a synchronization logged. -/
theorem into_connect (h : SuperStep p sh p' sh' evs) {st : ConnectStage}
    (hp' : p'.connectStage = some st) :
    (∃ op, evs = [.call op]) ∨
      (p.connectStage.isSome = true ∧
        ∀ ev ∈ evs, ev.isCall = false ∧ ev.isDrained = false ∧ ev ≠ .unbuffered) := by
  cases st with
  | fresh =>
    rcases h.into_fresh hp' with ⟨hp, hplain, -⟩ | hcall
    · exact .inr ⟨by simp [hp], fun ev hev => (hplain ev hev).2⟩
    · exact .inl hcall
  | attached =>
    rcases h.into_attached hp' with ⟨hp, hplain⟩ | ⟨rfl, rfl⟩
    · exact .inr ⟨by simp [hp], fun ev hev => (hplain ev hev).2⟩
    · exact .inr ⟨by simp [SuperPc.connectStage], by simp [Event.isCall, Event.isDrained]⟩
  | tornDown =>
    rcases h.into_tornDown hp' with ⟨e, r, rfl, -, rfl, -⟩ | ⟨e, rfl, -, rfl, -⟩
    · exact .inr ⟨by simp [SuperPc.connectStage], by simp [Event.isCall, Event.isDrained]⟩
    · exact .inr ⟨by simp [SuperPc.connectStage], by simp⟩
  | failed =>
    rcases h.into_failed hp' with ⟨e, rfl, rfl, -⟩ | ⟨e, rfl, rfl, -⟩
    · exact .inr ⟨by simp [SuperPc.connectStage], by simp [Event.isCall, Event.isDrained]⟩
    · exact .inr ⟨by simp [SuperPc.connectStage], by simp [Event.isCall, Event.isDrained]⟩

end SuperStep

namespace Sys

/-- What a connect on its way to a failure has done so far, and what it
leaves once failed. -/
structure TearsDown (s : Sys β) : Prop where
  shows : ∀ st, s.super.connectStage = some st → st.Shows (sinceCall s.log)
  unsynced : s.super.connectStage.isSome = true →
    ∀ ev ∈ sinceCall s.log, ev.isDrained = false ∧ ev ≠ .unbuffered
  book_of_clearing : ∀ e, s.super = .clearingAfter e → ∃ b, s.shared.book = Book.reset b
  raised_of_failed : ∀ e, s.super = .done .connect (.error e) →
    s.shared.handshake.pause = true ∧ s.shared.handshake.buffer = true
  /-- After a teardown the worker stays out of the reset book and the empty
  queue. -/
  reset_of_failed : ∀ e, s.super = .done .connect (.error e) →
    .attached (.ok ()) ∈ sinceCall s.log →
    (∃ b, s.shared.book = Book.reset b) ∧ s.shared.replay.records = [] ∧
      s.worker.owns = false ∧ s.worker.entering = false

theorem TearsDown.init (book : β) (capacity : Nat) :
    (Sys.init (Shared.new book capacity)).TearsDown where
  shows := by simp [Sys.init, SuperPc.connectStage]
  unsynced := by simp [Sys.init, SuperPc.connectStage]
  book_of_clearing := by simp [Sys.init]
  raised_of_failed := by simp [Sys.init]
  reset_of_failed := by simp [Sys.init]

theorem TearsDown.worker_step {s : Sys β} {w : WorkerPc} {sh : Shared β} {evs : List (Event β)}
    (hx : s.Exclusive) (hi : s.TearsDown) (h : WorkerStep s.worker s.shared w sh evs) :
    (⟨sh, w, s.super, s.log ++ evs⟩ : Sys β).TearsDown := by
  have hseg : sinceCall (s.log ++ evs) = sinceCall s.log ++ evs := sinceCall_append h.not_call
  -- a worker outside the shared state leaves the book and the queue alone
  have hcore : s.worker.owns = false → sh.book = s.shared.book ∧ sh.replay = s.shared.replay := by
    intro ho
    have hq := (WorkerStep.quiet_of_owns_eq_false ho) w sh evs h
    have hb := congrArg Shared.book hq.1
    have hr := congrArg Shared.replay hq.1
    exact ⟨hb, hr⟩
  constructor
  · intro st hst
    rw [hseg]
    exact (hi.shows st hst).append_byWorker h.byWorker
  · intro hst ev hev
    rw [hseg] at hev
    rcases List.mem_append.mp hev with hold | hnew
    · exact hi.unsynced hst ev hold
    · have hw := h.byWorker ev hnew
      refine ⟨Event.isDrained_of_byWorker hw, ?_⟩
      rintro rfl
      simp [Event.byWorker] at hw
  · intro e hp
    dsimp only at hp
    have hout := (hx.outside_of_holds (by simp [hp, SuperPc.holds])).1
    rw [(hcore hout).1]
    exact hi.book_of_clearing e hp
  · intro e hp
    dsimp only at hp
    obtain ⟨hpause, hbuffer⟩ := hi.raised_of_failed e hp
    exact ⟨h.pause_of_pause hpause, h.buffer_eq ▸ hbuffer⟩
  · intro e hp hin
    dsimp only at hp
    have hin' : .attached (.ok ()) ∈ sinceCall s.log := by
      rw [hseg] at hin
      rcases List.mem_append.mp hin with hold | hnew
      · exact hold
      · simpa [Event.byWorker] using h.byWorker _ hnew
    obtain ⟨hbook, hreplay, hout, hent⟩ := hi.reset_of_failed e hp hin'
    have hpause := (hi.raised_of_failed e hp).1
    obtain ⟨hb, hq⟩ := hcore hout
    refine ⟨hb ▸ hbook, hq ▸ hreplay, ?_, ?_⟩
    · -- the worker cannot get in: it is outside and `pause` is raised
      cases ho : w.owns
      · rfl
      · rcases h.owns_of ho with ho' | he'
        · simp [hout] at ho'
        · simp [hent] at he'
    · cases he : w.entering
      · rfl
      · rcases h.entering_of he with he' | ⟨-, hp'⟩
        · simp [hent] at he'
        · simp [hpause] at hp'

theorem TearsDown.super_step {s : Sys β} {p : SuperPc β} {sh : Shared β} {evs : List (Event β)}
    (hx : s.Exclusive) (hl : s.Logged) (hi : s.TearsDown)
    (h : SuperStep s.super s.shared p sh evs) :
    (⟨sh, s.worker, p, s.log ++ evs⟩ : Sys β).TearsDown := by
  -- the events since the call: none after a call, else the old ones extended
  have hseg : ∀ st, p.connectStage = some st →
      (∃ op, evs = [.call op] ∧ sinceCall (s.log ++ evs) = []) ∨
        (s.super.connectStage.isSome = true ∧ sinceCall (s.log ++ evs) = sinceCall s.log ++ evs ∧
          ∀ ev ∈ evs, ev.isDrained = false ∧ ev ≠ .unbuffered) := by
    intro st hst
    rcases h.into_connect hst with ⟨op, rfl⟩ | ⟨hp, hevs⟩
    · exact .inl ⟨op, rfl, sinceCall_append_call s.log op⟩
    · exact .inr ⟨hp, sinceCall_append fun ev hev => (hevs ev hev).1,
        fun ev hev => (hevs ev hev).2⟩
  constructor
  · intro st hst
    cases st with
    | fresh =>
      rcases h.into_fresh hst with ⟨hp, hplain, hnot⟩ | ⟨op, rfl⟩
      · obtain ⟨hnot', hnone⟩ := hi.shows .fresh hp
        show ConnectStage.fresh.Shows _
        rw [sinceCall_append fun ev hev => (hplain ev hev).2.1]
        exact ⟨by simp [hnot', hnot],
          List.forall_mem_append.mpr ⟨hnone, fun ev hev => (hplain ev hev).1⟩⟩
      · show ConnectStage.fresh.Shows _
        rw [sinceCall_append_call]
        simp [ConnectStage.Shows]
    | attached =>
      rcases h.into_attached hst with ⟨hp, hplain⟩ | ⟨hp, rfl⟩
      · obtain ⟨hmem, hnone⟩ := hi.shows .attached hp
        show ConnectStage.attached.Shows _
        rw [sinceCall_append fun ev hev => (hplain ev hev).2.1]
        exact ⟨List.mem_append_left _ hmem,
          List.forall_mem_append.mpr ⟨hnone, fun ev hev => (hplain ev hev).1⟩⟩
      · -- the successful attach
        obtain ⟨-, hnone⟩ := hi.shows .fresh (by simp [hp, SuperPc.connectStage])
        show ConnectStage.attached.Shows _
        rw [sinceCall_append (by simp [Event.isCall])]
        refine ⟨by simp, ?_⟩
        intro ev hev
        rcases List.mem_append.mp hev with hold | hnew
        · exact hnone ev hold
        · simp at hnew
          simp [hnew, Event.isDetach]
    | tornDown =>
      show ConnectStage.tornDown.Shows _
      rcases h.into_tornDown hst with ⟨e, r, hp, -, rfl, -⟩ | ⟨e, hp, -, rfl, -⟩
      · -- the detach, made holding the shared state with the worker parked
        obtain ⟨hmem, hnone⟩ := hi.shows .attached (by simp [hp, SuperPc.connectStage])
        have hh : s.super.holds = true := by simp [hp, SuperPc.holds]
        have hstate := Handshake.state_of_parked (hx.pause_of_holds hh) (hx.paused_of_holds hh)
        obtain ⟨before, between, hsplit⟩ := List.append_of_mem hmem
        rw [sinceCall_append (by simp [Event.isCall]), hstate, hsplit]
        refine ⟨before, between, [], r, by simp, ?_⟩
        intro ev hev
        apply hnone ev
        rw [hsplit]
        simp only [List.append_nil, List.mem_append] at hev
        rcases hev with hb | hb <;> simp [hb]
      · rw [List.append_nil]
        exact hi.shows .tornDown (by simp [hp, SuperPc.connectStage])
    | failed =>
      show ConnectStage.failed.Shows _
      rcases h.into_failed hst with ⟨e, hp, rfl, -⟩ | ⟨e, hp, rfl, -⟩
      · obtain ⟨hnot, hnone⟩ := hi.shows .fresh (by simp [hp, SuperPc.connectStage])
        rw [sinceCall_append (by simp [Event.isCall])]
        refine .inl ⟨by simp [hnot], ?_⟩
        intro ev hev
        rcases List.mem_append.mp hev with hold | hnew
        · exact hnone ev hold
        · simp at hnew
          simp [hnew, Event.isDetach]
      · have hd := hi.shows .tornDown (by simp [hp, SuperPc.connectStage])
        rw [sinceCall_append (by simp [Event.isCall])]
        exact .inr (hd.append (by simp [Event.isDetach]))
  · intro hst ev hev
    obtain ⟨st, hst⟩ := Option.isSome_iff_exists.mp hst
    rcases hseg st hst with ⟨op, -, hnil⟩ | ⟨hp, hsplit, hevs⟩
    · simp [hnil] at hev
    · rw [hsplit] at hev
      exact List.forall_mem_append.mpr ⟨hi.unsynced hp, hevs⟩ ev hev
  · intro e hp
    dsimp only at hp
    rcases h.into_tornDown (by simp [hp, SuperPc.connectStage]) with
      ⟨e', r, -, hp', -, -⟩ | ⟨e', -, -, -, rfl⟩
    · simp [hp] at hp'
    · exact ⟨s.shared.book, rfl⟩
  · intro e hp
    dsimp only at hp
    rcases h.into_failed (by simp [hp, SuperPc.connectStage]) with
      ⟨e', hp', -, rfl⟩ | ⟨e', hp', -, rfl⟩
    · exact ⟨by simp, hl.buffer_of_connecting (by simp [hp', SuperPc.connecting])⟩
    · exact ⟨hx.pause_of_holds (by simp [hp', SuperPc.holds]),
        hl.buffer_of_connecting (by simp [hp', SuperPc.connecting])⟩
  · intro e hp hin
    dsimp only at hp hin
    rcases h.into_failed (by simp [hp, SuperPc.connectStage]) with
      ⟨e', hp', rfl, -⟩ | ⟨e', hp', rfl, rfl⟩
    · -- a connect that attached nothing fails by requesting a pause
      obtain ⟨hnot, -⟩ := hi.shows .fresh (by simp [hp', SuperPc.connectStage])
      rw [sinceCall_append (by simp [Event.isCall])] at hin
      simp [hnot] at hin
    · obtain ⟨hout, hent⟩ := hx.outside_of_holds (by simp [hp', SuperPc.holds])
      exact ⟨hi.book_of_clearing e' hp', rfl, hout, hent⟩

theorem Reachable.tearsDown {s : Sys β} (h : s.Reachable) (hb : s.parks < UInt64.size) :
    s.TearsDown := by
  induction h with
  | init book capacity => exact TearsDown.init book capacity
  | step hs hstep ih =>
    have hb' := Nat.lt_of_le_of_lt hstep.parks_le hb
    cases hstep with
    | worker hw => exact (ih hb').worker_step (hs.exclusive hb') hw
    | super hp => exact (ih hb').super_step (hs.exclusive hb') hs.logged hp

/-- On a run that opened fewer than `2 ^ 64 - 1` parks, a connect that
returned an error has left `pause` and `buffer` raised.
If an attach succeeded during the call, the transport was detached exactly
once after it, with the worker parked, and the book is reset and the replay
queue empty; otherwise it was never detached. No connect was counted, the
call unbuffered nothing, and every later offer with no unbuffering between
the call and it goes to the replay queue. -/
theorem failed_connect_tears_down {s₀ s : Sys β} (h₀ : s₀.Reachable)
    (hrun : Relation.ReflTransGen Step s₀ s) {mid : List (Event β)} {e : ReaderError}
    (hl : s.log = s₀.log ++ .call .connect :: mid) (hmid : ∀ ev ∈ mid, ev.isCall = false)
    (hs : s.super = .done .connect (.error e)) (hb : s.parks < UInt64.size - 1) :
    s.shared.handshake.pause = true ∧ s.shared.handshake.buffer = true ∧
      (.attached (.ok ()) ∈ mid →
        (∃ before between after r,
            mid = before ++ .attached (.ok ()) :: between ++ .detached r .parked :: after ∧
            ∀ ev ∈ before ++ between ++ after, ev.isDetach = false) ∧
          (∃ b, s.shared.book = Book.reset b) ∧ s.shared.replay.records = []) ∧
      (.attached (.ok ()) ∉ mid → ∀ ev ∈ mid, ev.isDetach = false) ∧
      s.shared.stats.connects = s₀.shared.stats.connects ∧
      .unbuffered ∉ mid ∧
      ∀ u : Sys β, Relation.ReflTransGen Step s u →
        ∀ later r b after, u.log = s₀.log ++ .call .connect :: later ++ .offered r b :: after →
          .unbuffered ∉ later → b = true := by
  have hreach := h₀.run hrun
  have ht := hreach.tearsDown (by omega)
  have hseg : sinceCall s.log = mid := by
    rw [hl]
    exact sinceCall_call_append hmid
  have hstage : s.super.connectStage = some .failed := by simp [hs, SuperPc.connectStage]
  have hshows := ht.shows .failed hstage
  have hunsynced := ht.unsynced (by simp [hstage])
  rw [hseg] at hshows hunsynced
  obtain ⟨hpause, hbuffer⟩ := ht.raised_of_failed e hs
  refine ⟨hpause, hbuffer, ?_, ?_, ?_, fun hm => (hunsynced _ hm).2 rfl, ?_⟩
  · intro hin
    obtain ⟨hbook, hreplay, -, -⟩ := ht.reset_of_failed e hs (hseg ▸ hin)
    rcases hshows with ⟨hnot, -⟩ | hd
    · exact absurd hin hnot
    · exact ⟨hd, hbook, hreplay⟩
  · intro hnot
    rcases hshows with ⟨-, hnone⟩ | hd
    · exact hnone
    · exact absurd hd.attached_mem hnot
  · -- the counter follows the drains, and the call made none
    have hnone : (Event.call .connect :: mid).countP Event.isDrained = 0 := by
      apply List.countP_eq_zero.mpr
      intro ev hev
      rcases List.mem_cons.mp hev with rfl | hm
      · simp [Event.isDrained]
      · simp [(hunsynced ev hm).1]
    rw [hreach.logged.connects_eq, h₀.logged.connects_eq, hl, List.countP_append, hnone,
      Nat.add_zero]
  · intro u hu later r b after hlu hlater
    exact (hreach.run hu).offered_buffered hlu hlater

/-- A connect whose snapshot fetch fails after a successful attach: the
teardown detaches, resets the book and empties the queue. -/
theorem failed_connect_tears_down_after_fetch :
    ∃ (s₀ s : Sys IncrementalBook) (mid : List (Event IncrementalBook)),
      s₀.Reachable ∧ Relation.ReflTransGen Step s₀ s ∧
      s.log = s₀.log ++ .call .connect :: mid ∧ (∀ ev ∈ mid, ev.isCall = false) ∧
      s.super = .done .connect (.error (.transport .connectionLost)) ∧
      .attached (.ok ()) ∈ mid ∧
      (∃ b, s.shared.book = Book.reset b) ∧ s.shared.replay.records = [] := by
  have r0 : Relation.ReflTransGen Step (init (Shared.new (IncrementalBook.new 4) 8))
      (init (Shared.new (IncrementalBook.new 4) 8)) := .refl
  -- the first park, answered by the worker, then attach, reset and hand-back
  have r1 := r0.tail (.super (.callConnect rfl))
  have r2 := r1.tail (.super .raisePause)
  have r3 := r2.tail (.super .openEpoch)
  have r4 := r3.tail (.worker (.notice rfl))
  have r5 := r4.tail (.worker .loadEpoch)
  have r6 := r5.tail (.worker .mark)
  have r7 := r6.tail (.worker .ack)
  have r8 := r7.tail (.super (.acked (by decide)))
  have r9 := r8.tail (.super .attachOk)
  have r10 := r9.tail (.super .resetBook)
  have r11 := r10.tail (.super .resetScratch)
  have r12 := r11.tail (.super .clearQueue)
  have r13 := r12.tail (.super .clearOverflow)
  have r14 := r13.tail (.super .clearLost)
  have r15 := r14.tail (.super .releaseForSnapshot)
  -- the fetch fails; the teardown parks the worker again
  have r16 := r15.tail (.super (.fetchFail .connectionLost))
  have r17 := r16.tail (.super .abandonAttached)
  have r18 := r17.tail (.super .raisePause)
  have r19 := r18.tail (.super .openEpoch)
  have r20 := r19.tail (.worker (.notice rfl))
  have r21 := r20.tail (.worker .loadEpoch)
  have r22 := r21.tail (.worker .mark)
  have r23 := r22.tail (.worker .ack)
  have r24 := r23.tail (.super (.acked (by decide)))
  -- detach, reset, clear and return
  have r25 := r24.tail (.super (.detachAfterFailure (.ok ())))
  have r26 := r25.tail (.super .resetAfterFailure)
  have r27 := r26.tail (.super .clearAfterFailure)
  exact ⟨_, _, _, .init _ _, r27, rfl, by simp [Event.isCall], rfl, by simp,
    ((failed_connect_tears_down (.init _ _) r27 rfl (by simp [Event.isCall]) rfl (by decide)).2.2.1
      (by simp)).2⟩

/-- After `2 ^ 64` parks a failed connect detaches the transport while the
worker is not parked: no detach of the call is stamped `parked`. -/
theorem failed_connect_detaches_unparked :
    ∃ (s₀ s : Sys IncrementalBook) (mid : List (Event IncrementalBook)) (e : ReaderError),
      s₀.Reachable ∧ Relation.ReflTransGen Step s₀ s ∧
      s.log = s₀.log ++ .call .connect :: mid ∧ (∀ ev ∈ mid, ev.isCall = false) ∧
      s.super = .done .connect (.error e) ∧ s.parks = UInt64.size ∧ .attached (.ok ()) ∈ mid ∧
      ¬ ∃ before between after r,
        mid = before ++ .attached (.ok ()) :: between ++ .detached r .parked :: after := by
  obtain ⟨s₀, s, mid, e, h₀, hrun, hl, hmid, hs, -, hparks, rfl, -⟩ := wrapped_teardown_run
  refine ⟨s₀, s, _, e, h₀, hrun, hl, hmid, hs, hparks, by simp, ?_⟩
  rintro ⟨before, between, after, r, hsplit⟩
  have hmem := congrArg (Event.detached r .parked ∈ ·) hsplit
  simp at hmem

end Sys

end DepthFeed
