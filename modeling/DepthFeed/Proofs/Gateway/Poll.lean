import DepthFeed.Gateway.Inbound

/-!
# One duty cycle of the inbound gateway

`pollReference` states a cycle in plain steps: the liveness check, then the
reconnect, keep-alive and sanity stages, each run only if the one before did
not fail, and the count of schedules that fired. That a raised reconnect
trigger fires at the next cycle rests on `ReconnectArmed`: the reconnect
schedule is started whenever the gateway is connected or its trigger raised,
since only a successful connect connects it.
-/

namespace DepthFeed

namespace Schedule

@[simp] theorem isStarted_trigger (s : Schedule) : s.trigger.isStarted = s.isStarted := rfl

@[simp] theorem forced_trigger (s : Schedule) : s.trigger.forced = true := rfl

@[simp] theorem isStarted_check (s : Schedule) (now : UInt64) :
    (s.check now).2.isStarted = s.isStarted := by
  unfold check isStarted
  split
  · rfl
  · rename_i due h
    split <;> simp [h]

theorem isStarted_of_check (s : Schedule) (now : UInt64) (h : (s.check now).1 = true) :
    s.isStarted = true := by
  cases hs : s.nextDue with
  | none => simp [check_of_nextDue_eq_none s now hs] at h
  | some due => simp [isStarted, hs]

/-- A started schedule whose trigger is raised fires at its next check,
whatever the reading. -/
theorem check_of_forced (s : Schedule) (now : UInt64) (hs : s.isStarted = true)
    (hf : s.forced = true) : (s.check now).1 = true := by
  obtain ⟨due, hdue⟩ := Option.isSome_iff_exists.mp hs
  rw [check_of_nextDue_eq_some s now due hdue]
  simp [hf]

end Schedule

namespace InboundGateway

variable {σ : Type} (k : Supervised σ)

/-! ## The reference cycle -/

/-- How long the feed has been silent at the clock's reading: since the later
of the last frame and the connect, and not at all when that lies ahead. -/
def silentFor (g : InboundGateway σ) (since : UInt64) : Nat :=
  (k.now g.reader).toNat - max (k.lastRecvNanos g.reader).toNat since.toNat

/-- Whether the liveness check asks for a reconnect: connected, and the reader
reports a lost connection or the feed has been silent longer than allowed. -/
def stale (g : InboundGateway σ) : Bool :=
  match g.connectedAt with
  | none => false
  | some since =>
    k.connectionLost g.reader || decide (g.config.maxSilentInterval.toNanos < silentFor k g since)

/-- Connects through the controller, as the gateway stands. An abort ends the
cycle; the gateway is left connected, from the clock's reading, only by a
successful connect. -/
def connectStage (g : InboundGateway σ) : Option (Except GatewayError Unit) × InboundGateway σ :=
  match g.controller.connect (connector k g) g.reader with
  | none => (none, g)
  | some (.ok (), r) => (some (.ok ()), { g with reader := r, connectedAt := some (k.now r) })
  | some (.error e, r) => (some (.error (.connect e)), { g with reader := r })

/-- Disconnects, then connects. An interrupted disconnect stops with its error;
any other disconnect failure is ignored. -/
def reconnectStage (g : InboundGateway σ) : Option (Except GatewayError Unit) × InboundGateway σ :=
  match k.disconnect g.interrupted g.reader with
  | (.error .interrupted, r) =>
    (some (.error (.reader .interrupted)), { g with reader := r, connectedAt := none })
  | (_, r) => connectStage k { g with reader := r, connectedAt := none }

/-- Queues the keep-alive frame on the writer's control lane, when there is a
writer; a refused frame is the stage's error. -/
def keepAliveStage (g : InboundGateway σ) : Except GatewayError Unit × InboundGateway σ :=
  match g.keepAlive with
  | none => (.ok (), g)
  | some ka =>
    match ka.writer.enqueue .control ka.frame with
    | .error e => (.error (.writer e), g)
    | .ok w => (.ok (), { g with keepAlive := some { ka with writer := w } })

/-- Inspects the book when connected and the connection is not lost; a crossed
book raises the reconnect trigger. -/
def sanityStage (g : InboundGateway σ) : Except GatewayError Unit × InboundGateway σ :=
  if g.isConnected && !k.connectionLost g.reader then
    match k.bookIsCrossed g.interrupted g.reader with
    | (.error e, r) => (.error (.reader e), { g with reader := r })
    | (.ok crossed, r) =>
      let g := { g with reader := r }
      (.ok (), if crossed then g.forceReconnect else g)
  else (.ok (), g)

/-- The end of a cycle: the sanity schedule is checked and, when it fires, the
sanity stage runs; unless it failed, the cycle answers how many of the three
schedules fired. -/
def sanityPhase (due₁ due₂ : Bool) (g : InboundGateway σ) :
    Option (Except GatewayError Nat) × InboundGateway σ :=
  let (due₃, sanityCheck) := g.sanityCheck.check (k.now g.reader)
  match (if due₃ then sanityStage k else fun g => (.ok (), g)) { g with sanityCheck } with
  | (.error e, g) => (some (.error e), g)
  | (.ok (), g) => (some (.ok ([due₁, due₂, due₃].count true)), g)

/-- The keep-alive schedule is checked and, when it fires, the keep-alive
stage runs; unless it failed, the sanity phase follows. -/
def keepAlivePhase (due₁ : Bool) (g : InboundGateway σ) :
    Option (Except GatewayError Nat) × InboundGateway σ :=
  let (due₂, keepAliveSchedule) := g.keepAliveSchedule.check (k.now g.reader)
  match (if due₂ then keepAliveStage else fun g => (.ok (), g)) { g with keepAliveSchedule } with
  | (.error e, g) => (some (.error e), g)
  | (.ok (), g) => sanityPhase k due₁ due₂ g

/-- One duty cycle by the rules: the liveness check, then the reconnect
schedule, checked at the clock's reading, with its stage run when it fires;
unless that failed or aborted, the keep-alive phase follows. -/
def pollReference (g : InboundGateway σ) : Option (Except GatewayError Nat) × InboundGateway σ :=
  let g := if stale k g then g.forceReconnect else g
  let (due₁, reconnect) := g.reconnect.check (k.now g.reader)
  match (if due₁ then reconnectStage k else fun g => (some (.ok ()), g)) { g with reconnect } with
  | (none, g) => (none, g)
  | (some (.error e), g) => (some (.error e), g)
  | (some (.ok ()), g) => keepAlivePhase k due₁ g

/-! ## Running the gateway's computations -/

variable {k}

/-- A computation followed by another: the second runs from where the first
left the gateway, unless the first failed or aborted. -/
theorem run_bind {α β : Type} (m : GatewayM σ α) (f : α → GatewayM σ β) (g : InboundGateway σ) :
    run (m >>= f) g = match run m g with
      | (some (.ok a), g') => run (f a) g'
      | (some (.error e), g') => (some (.error e), g')
      | (none, g') => (none, g') := by
  unfold run
  rcases h : StateT.run (OptionT.run (ExceptT.run m)) g with ⟨_ | _ | _, g'⟩ <;>
    simp only [StateT.run, bind, ExceptT.bind, ExceptT.bindCont, ExceptT.mk, ExceptT.run,
      OptionT.bind, OptionT.mk, OptionT.run, StateT.bind] at h ⊢ <;>
    simp only [h] <;> rfl

@[simp] theorem run_pure {α : Type} (a : α) (g : InboundGateway σ) :
    run (pure a : GatewayM σ α) g = (some (.ok a), g) := rfl

@[simp] theorem run_throw {α : Type} (e : GatewayError) (g : InboundGateway σ) :
    run (throw e : GatewayM σ α) g = (some (.error e), g) := rfl

@[simp] theorem run_get (g : InboundGateway σ) :
    run (get : GatewayM σ (InboundGateway σ)) g = (some (.ok g), g) := rfl

@[simp] theorem run_set (g g' : InboundGateway σ) :
    run (set g' : GatewayM σ Unit) g = (some (.ok ()), g') := rfl

@[simp] theorem run_modify (f : InboundGateway σ → InboundGateway σ) (g : InboundGateway σ) :
    run (modify f : GatewayM σ Unit) g = (some (.ok ()), f g) := rfl

@[simp] theorem run_abort {α : Type} (g : InboundGateway σ) :
    run (abort : GatewayM σ α) g = (none, g) := rfl

/-! ## Each step of the cycle -/

theorem checkLiveness_eq (g : InboundGateway σ) :
    checkLiveness k g = if stale k g then g.forceReconnect else g := by
  unfold checkLiveness stale
  cases g.connectedAt with
  | none => rfl
  | some since =>
    cases k.connectionLost g.reader
    · simp only [Bool.false_or, Bool.false_eq_true, if_false]
      exact ite_congr (propext decide_eq_true_iff.symm) (fun _ => rfl) (fun _ => rfl)
    · rfl

theorem run_reconnectDue (g : InboundGateway σ) :
    run (reconnectDue k) g = (some (.ok (g.reconnect.check (k.now g.reader)).1),
      { g with reconnect := (g.reconnect.check (k.now g.reader)).2 }) := rfl

theorem run_keepAliveDue (g : InboundGateway σ) :
    run (keepAliveDue k) g = (some (.ok (g.keepAliveSchedule.check (k.now g.reader)).1),
      { g with keepAliveSchedule := (g.keepAliveSchedule.check (k.now g.reader)).2 }) := rfl

theorem run_sanityCheckDue (g : InboundGateway σ) :
    run (sanityCheckDue k) g = (some (.ok (g.sanityCheck.check (k.now g.reader)).1),
      { g with sanityCheck := (g.sanityCheck.check (k.now g.reader)).2 }) := rfl

theorem run_connect (g : InboundGateway σ) : run (connect k) g = connectStage k g := by
  unfold connect connectStage
  simp only [run_bind, run_get]
  rcases hc : g.controller.connect (connector k g) g.reader with _ | ⟨e | ⟨⟩, r⟩ <;>
    simp [run_bind]

theorem run_reconnectNow (g : InboundGateway σ) : run (reconnectNow k) g = reconnectStage k g := by
  unfold reconnectNow reconnectStage
  simp only [run_bind, run_get, run_set]
  rcases hd : k.disconnect g.interrupted g.reader with ⟨res, r⟩
  simp only [hd]
  rcases res with e | ⟨⟩
  · cases e <;> simp only [run_throw, run_connect]
  · simp only [run_connect]

theorem run_sendKeepAlive (g : InboundGateway σ) :
    run sendKeepAlive g = (some (keepAliveStage g).1, (keepAliveStage g).2) := by
  unfold sendKeepAlive keepAliveStage
  simp only [run_bind, run_get]
  rcases hk : g.keepAlive with _ | ka
  · simp
  · rcases he : ka.writer.enqueue .control ka.frame with e | w <;> simp [he]

theorem run_runSanityCheck (g : InboundGateway σ) :
    run (runSanityCheck k) g = (some (sanityStage k g).1, (sanityStage k g).2) := by
  unfold runSanityCheck sanityStage isConnected
  simp only [run_bind, run_get]
  rcases hc : g.connectedAt with _ | since
  · simp
  · cases hl : k.connectionLost g.reader
    · rcases hb : k.bookIsCrossed g.interrupted g.reader with ⟨e | crossed, r⟩
      · simp [hb, run_bind]
      · cases crossed <;> simp [hb, run_bind]
    · simp

theorem run_sanityPhase (due₁ due₂ : Bool) (g : InboundGateway σ) :
    run (do
      let checking ← sanityCheckDue k
      if checking then runSanityCheck k
      pure ([due₁, due₂, checking].count true)) g = sanityPhase k due₁ due₂ g := by
  unfold sanityPhase
  simp only [run_bind, run_sanityCheckDue]
  generalize g.sanityCheck.check (k.now g.reader) = c
  obtain ⟨_ | _, sanityCheck⟩ := c
  · simp
  · simp only [if_true, run_bind, run_runSanityCheck]
    obtain ⟨_ | _, g'⟩ := sanityStage k { g with sanityCheck } <;> simp

theorem run_keepAlivePhase (due₁ : Bool) (g : InboundGateway σ) :
    run (do
      let keepingAlive ← keepAliveDue k
      if keepingAlive then sendKeepAlive
      let checking ← sanityCheckDue k
      if checking then runSanityCheck k
      pure ([due₁, keepingAlive, checking].count true)) g = keepAlivePhase k due₁ g := by
  unfold keepAlivePhase
  simp only [run_bind, run_keepAliveDue]
  generalize g.keepAliveSchedule.check (k.now g.reader) = c
  obtain ⟨_ | _, keepAliveSchedule⟩ := c
  · simp only [Bool.false_eq_true, if_false, run_sanityPhase]
  · simp only [if_true]
    rw [run_bind, run_sendKeepAlive]
    obtain ⟨_ | _, g'⟩ := keepAliveStage { g with keepAliveSchedule }
    · rfl
    · simp only [run_sanityPhase]

theorem run_poll (g : InboundGateway σ) : run (poll k) g = pollReference k g := by
  unfold poll pollReference
  simp only [run_bind, run_modify, checkLiveness_eq, run_reconnectDue]
  generalize (if stale k g then g.forceReconnect else g) = g
  generalize g.reconnect.check (k.now g.reader) = c
  obtain ⟨_ | _, reconnect⟩ := c
  · simp only [Bool.false_eq_true, if_false, run_keepAlivePhase]
  · simp only [if_true]
    rw [run_bind, run_reconnectNow]
    obtain ⟨_ | _ | _, g'⟩ := reconnectStage k { g with reconnect }
    · rfl
    · rfl
    · simp only [run_keepAlivePhase]

/-! ## The reconnect trigger between cycles -/

/-- The reconnect schedule runs whenever it can be needed: while the gateway
is connected and while its trigger is raised. Only a started schedule fires,
so on such a gateway a raised trigger fires at the next check. -/
def ReconnectArmed (g : InboundGateway σ) : Prop :=
  g.isConnected = true ∨ g.reconnect.forced = true → g.reconnect.isStarted = true

/-- The gateways reached from a new one by giving it a keep-alive writer,
starting it, polling it, shutting it down and closing it. -/
inductive Reachable (k : Supervised σ) : InboundGateway σ → Prop
  | new (reader : σ) (config : GatewayConfig) : Reachable k (InboundGateway.new reader config)
  | withKeepAlive {g : InboundGateway σ} (writer : Writer) (frame : List UInt8) :
      Reachable k g → Reachable k (g.withKeepAlive writer frame)
  | start {g : InboundGateway σ} : Reachable k g → Reachable k (run (InboundGateway.start k) g).2
  | poll {g : InboundGateway σ} : Reachable k g → Reachable k (run (InboundGateway.poll k) g).2
  | shutdown {g : InboundGateway σ} : Reachable k g → Reachable k g.shutdown
  | close {g : InboundGateway σ} : Reachable k g → Reachable k (InboundGateway.close k g)

variable {g g' : InboundGateway σ}

theorem ReconnectArmed.of_started (h : g.reconnect.isStarted = true) : ReconnectArmed g :=
  fun _ => h

/-- The invariant carries over to a gateway whose reconnect schedule is as
started as before, and that is connected or triggered only where the old one
was. -/
theorem ReconnectArmed.transfer (h : ReconnectArmed g)
    (hs : g'.reconnect.isStarted = g.reconnect.isStarted)
    (hc : g'.isConnected = true ∨ g'.reconnect.forced = true →
      g.isConnected = true ∨ g.reconnect.forced = true) :
    ReconnectArmed g' :=
  fun h' => hs ▸ h (hc h')

theorem reconnectArmed_new (reader : σ) (config : GatewayConfig) :
    ReconnectArmed (InboundGateway.new reader config) := by
  simp [ReconnectArmed, InboundGateway.new, isConnected, Schedule.new]

theorem stale_isConnected (h : stale k g = true) : g.isConnected = true := by
  unfold stale at h
  unfold isConnected
  split at h
  · contradiction
  · rename_i since hs
    simp [hs]

theorem ReconnectArmed.checkLiveness (h : ReconnectArmed g) : ReconnectArmed (checkLiveness k g) := by
  rw [checkLiveness_eq]
  split
  · rename_i hst
    exact .of_started (h (.inl (stale_isConnected hst)))
  · exact h

/-- Checking the reconnect schedule keeps the invariant: a started schedule
stays started, and one never started does not change. -/
theorem ReconnectArmed.check (h : ReconnectArmed g) (now : UInt64) :
    ReconnectArmed { g with reconnect := (g.reconnect.check now).2 } := by
  cases hs : g.reconnect.isStarted
  · have hn : g.reconnect.nextDue = none := by simpa [Schedule.isStarted] using hs
    rw [Schedule.check_of_nextDue_eq_none _ _ hn]
    exact h
  · exact .of_started (by simp [hs])

theorem ReconnectArmed.connectStage (h : ReconnectArmed g)
    (hc : (connectStage k g).1 ≠ some (.ok ())) : ReconnectArmed (connectStage k g).2 := by
  unfold InboundGateway.connectStage at hc ⊢
  split
  · exact h
  · rename_i hcon
    simp [hcon] at hc
  · exact h

theorem reconnect_connectStage : (connectStage k g).2.reconnect = g.reconnect := by
  unfold connectStage
  split <;> rfl

theorem reconnect_reconnectStage : (reconnectStage k g).2.reconnect = g.reconnect := by
  unfold reconnectStage
  split
  · rfl
  · exact reconnect_connectStage

theorem ReconnectArmed.keepAliveStage (h : ReconnectArmed g) :
    ReconnectArmed (keepAliveStage g).2 := by
  unfold InboundGateway.keepAliveStage
  split
  · exact h
  · split
    · exact h
    · exact h

/-- The sanity stage raises the trigger only on a connected gateway, and
touches neither the connection nor when the reconnect is due. -/
theorem ReconnectArmed.sanityStage (h : ReconnectArmed g) :
    ReconnectArmed (sanityStage k g).2 := by
  unfold InboundGateway.sanityStage
  split
  · rename_i hc
    have hcon : g.isConnected = true := by simp_all
    split
    · exact h
    · exact .of_started (by split <;> exact h (.inl hcon))
  · exact h

theorem ReconnectArmed.sanityPhase (h : ReconnectArmed g) (due₁ due₂ : Bool) :
    ReconnectArmed (sanityPhase k due₁ due₂ g).2 := by
  unfold InboundGateway.sanityPhase
  obtain ⟨_ | _, sanityCheck⟩ := g.sanityCheck.check (k.now g.reader)
  · exact h
  · have hs := ReconnectArmed.sanityStage (k := k) (g := { g with sanityCheck }) h
    simp only [if_true]
    generalize InboundGateway.sanityStage k { g with sanityCheck } = r at hs ⊢
    obtain ⟨_ | _, g'⟩ := r <;> exact hs

theorem ReconnectArmed.keepAlivePhase (h : ReconnectArmed g) (due₁ : Bool) :
    ReconnectArmed (keepAlivePhase k due₁ g).2 := by
  unfold InboundGateway.keepAlivePhase
  obtain ⟨_ | _, keepAliveSchedule⟩ := g.keepAliveSchedule.check (k.now g.reader)
  · exact h.sanityPhase (g := { g with keepAliveSchedule }) due₁ false
  · have hs := ReconnectArmed.keepAliveStage (g := { g with keepAliveSchedule }) h
    simp only [if_true]
    generalize InboundGateway.keepAliveStage { g with keepAliveSchedule } = r at hs ⊢
    obtain ⟨_ | _, g'⟩ := r
    · exact hs
    · exact hs.sanityPhase due₁ true

/-- One cycle keeps the invariant. The reconnect stage may connect the
gateway, but it runs only when the schedule fired, so the schedule is started. -/
theorem ReconnectArmed.pollReference (h : ReconnectArmed g) :
    ReconnectArmed (pollReference k g).2 := by
  unfold InboundGateway.pollReference
  dsimp only
  rw [← checkLiveness_eq]
  have hl := h.checkLiveness (k := k)
  generalize InboundGateway.checkLiveness k g = g at hl ⊢
  have hc := hl.check (k.now g.reader)
  have hfire := Schedule.isStarted_of_check g.reconnect (k.now g.reader)
  have hkeep := Schedule.isStarted_check g.reconnect (k.now g.reader)
  generalize g.reconnect.check (k.now g.reader) = c at hc hfire hkeep ⊢
  obtain ⟨_ | _, reconnect⟩ := c
  · exact hc.keepAlivePhase false
  · have hs : ReconnectArmed (reconnectStage k { g with reconnect }).2 :=
      .of_started (by rw [reconnect_reconnectStage]; exact hkeep.trans (hfire rfl))
    simp only [if_true]
    generalize reconnectStage k { g with reconnect } = r at hs ⊢
    obtain ⟨_ | _ | _, g'⟩ := r
    · exact hs
    · exact hs
    · exact hs.keepAlivePhase true

/-- Starting keeps the invariant: a successful connect starts the schedules,
and a failed or aborted one leaves the connection and the reconnect schedule as
they were. -/
theorem ReconnectArmed.start (h : ReconnectArmed g) : ReconnectArmed (run (start k) g).2 := by
  unfold InboundGateway.start
  rw [run_bind, run_connect]
  have hc := h.connectStage (k := k)
  generalize InboundGateway.connectStage k g = r at hc ⊢
  obtain ⟨_ | _ | _, g'⟩ := r
  · exact hc (by simp)
  · exact hc (by simp)
  · simp only [run_modify]
    exact .of_started rfl

theorem ReconnectArmed.close (h : ReconnectArmed g) : ReconnectArmed (close k g) := by
  unfold InboundGateway.close
  obtain ⟨_, reader⟩ := k.disconnect false g.reader
  refine h.transfer rfl fun hc => .inr ?_
  simpa [isConnected] using hc

theorem Reachable.reconnectArmed (h : Reachable k g) : ReconnectArmed g := by
  induction h with
  | new reader config => exact reconnectArmed_new reader config
  | withKeepAlive _ _ _ ih => exact ih
  | start _ ih => exact ih.start
  | poll _ ih =>
    rw [run_poll]
    exact ih.pollReference
  | shutdown _ ih => exact ih
  | close _ ih => exact ih.close

theorem forced_checkLiveness (hf : g.reconnect.forced = true) :
    (checkLiveness k g).reconnect.forced = true := by
  rw [checkLiveness_eq]
  split
  · rfl
  · exact hf

/-- On a gateway that keeps the invariant, a raised trigger makes the next
cycle's reconnect check fire, after its liveness check. -/
theorem reconnectDue_of_forced (h : ReconnectArmed g) (hf : g.reconnect.forced = true) :
    (run (reconnectDue k) (checkLiveness k g)).1 = some (.ok true) := by
  have hf' := forced_checkLiveness (k := k) hf
  have hs : (checkLiveness k g).reconnect.isStarted = true := h.checkLiveness (.inr hf')
  rw [run_reconnectDue, Schedule.check_of_forced _ _ hs hf']

/-- After the reconnect stage the gateway is connected exactly when the stage
succeeded: an interrupted disconnect, an abort and a failed connect all leave it
disconnected. -/
theorem isConnected_reconnectStage :
    (reconnectStage k g).2.isConnected = true ↔ (reconnectStage k g).1 = some (.ok ()) := by
  unfold reconnectStage
  split
  · simp [isConnected]
  · unfold connectStage
    split <;> simp [isConnected]

/-- A duty cycle is the reference cycle; after the reconnect stage the gateway
is connected exactly when that stage succeeded; and on every reachable
gateway a raised reconnect trigger fires at the next cycle's reconnect check. -/
theorem poll_eq_reference (k : Supervised σ) :
    (∀ g : InboundGateway σ, run (poll k) g = pollReference k g) ∧
    (∀ g : InboundGateway σ,
      (reconnectStage k g).2.isConnected = true ↔ (reconnectStage k g).1 = some (.ok ())) ∧
    ∀ g : InboundGateway σ, Reachable k g → g.reconnect.forced = true →
      (run (reconnectDue k) (checkLiveness k g)).1 = some (.ok true) :=
  ⟨run_poll, fun _ => isConnected_reconnectStage,
    fun _ hr hf => reconnectDue_of_forced hr.reconnectArmed hf⟩

/-- A reader whose connects succeed and whose book is always crossed, with the
sanity check due at once: the first cycle after starting raises the reconnect
trigger through the sanity check, and the next cycle's reconnect check fires. -/
theorem poll_fires_after_crossed_book :
    let k : Supervised Unit := ⟨fun _ _ s => (.ok (), s), fun _ s => (.ok (), s), fun _ => 0,
      fun _ => false, fun _ s => (.ok true, s), fun _ => 0⟩
    let config := { GatewayConfig.default with sanityCheckInterval := Duration.zero }
    let g := (run (poll k) (run (start k) (InboundGateway.new () config)).2).2
    Reachable k g ∧ g.reconnect.forced = true ∧
      (run (reconnectDue k) (checkLiveness k g)).1 = some (.ok true) := by
  intro k config g
  have hr : Reachable k g := .poll (.start (.new () config))
  have hf : g.reconnect.forced = true := by decide
  exact ⟨hr, hf, (poll_eq_reference k).2.2 g hr hf⟩

end InboundGateway

end DepthFeed
