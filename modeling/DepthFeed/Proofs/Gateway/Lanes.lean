import DepthFeed.Gateway.Writer

/-!
# The outbound lanes

What the sink sees is observed by wrapping it (`Writer.recording`), which notes
each frame handed over and whether the sink took it. `Writer.attempts` lists
those calls for one lane, and `Writer.laneCalls` for each lane of a duty
cycle; along a run of enqueues and cycles (`Writer.Run`), a lane's calls
followed by what it still holds are the frames it accepted.
-/

namespace DepthFeed

namespace Writer

variable {σ : Type} (write : σ → List UInt8 → Option String × σ)

/-- The sink `write`, noting each call: the frame, and whether the sink took it. -/
def recording (sl : σ × List (List UInt8 × Bool)) (f : List UInt8) :
    Option String × (σ × List (List UInt8 × Bool)) :=
  ((write sl.1 f).1, ((write sl.1 f).2, sl.2 ++ [(f, (write sl.1 f).1.isNone)]))

/-- The calls `writeAll` makes: each frame handed to the sink, with whether the
sink took it, up to the first refusal. -/
def attempts : List (List UInt8) → σ → List (List UInt8 × Bool)
  | [], _ => []
  | f :: fs, s =>
    match write s f with
    | (some _, _) => [(f, false)]
    | (none, s₁) => (f, true) :: attempts fs s₁

/-! ## Writing one lane -/

section WriteAll

@[simp] theorem writeAll_nil (s : σ) : writeAll write [] s = (0, none, [], s) := rfl

@[simp] theorem attempts_nil (s : σ) : attempts write [] s = [] := rfl

theorem writeAll_cons_of_refused {f : List UInt8} {fs : List (List UInt8)} {s s₁ : σ} {m : String}
    (h : write s f = (some m, s₁)) : writeAll write (f :: fs) s = (0, some m, fs, s₁) := by
  simp [writeAll, h]

theorem writeAll_cons_of_taken {f : List UInt8} {fs : List (List UInt8)} {s s₁ : σ}
    (h : write s f = (none, s₁)) :
    writeAll write (f :: fs) s =
      ((writeAll write fs s₁).1 + 1, (writeAll write fs s₁).2.1, (writeAll write fs s₁).2.2.1,
        (writeAll write fs s₁).2.2.2) := by
  simp [writeAll, h]

theorem attempts_cons_of_refused {f : List UInt8} {fs : List (List UInt8)} {s s₁ : σ} {m : String}
    (h : write s f = (some m, s₁)) : attempts write (f :: fs) s = [(f, false)] := by
  simp [attempts, h]

theorem attempts_cons_of_taken {f : List UInt8} {fs : List (List UInt8)} {s s₁ : σ}
    (h : write s f = (none, s₁)) : attempts write (f :: fs) s = (f, true) :: attempts write fs s₁ := by
  simp [attempts, h]

/-- Through the recording sink, `writeAll` does what it does through the sink
itself, and the record grows by its calls. -/
theorem writeAll_recording (fs : List (List UInt8)) (s : σ) (log : List (List UInt8 × Bool)) :
    writeAll (recording write) fs (s, log) =
      ((writeAll write fs s).1, (writeAll write fs s).2.1, (writeAll write fs s).2.2.1,
        ((writeAll write fs s).2.2.2, log ++ attempts write fs s)) := by
  induction fs generalizing s log with
  | nil => simp
  | cons f fs ih =>
    rcases hw : write s f with ⟨_ | m, s₁⟩
    · have hrec : recording write (s, log) f = (none, (s₁, log ++ [(f, true)])) := by
        simp [recording, hw]
      rw [writeAll_cons_of_taken _ hrec, ih, writeAll_cons_of_taken _ hw,
        attempts_cons_of_taken _ hw, List.append_assoc, List.singleton_append]
    · have hrec : recording write (s, log) f = (some m, (s₁, log ++ [(f, false)])) := by
        simp [recording, hw]
      rw [writeAll_cons_of_refused _ hrec, writeAll_cons_of_refused _ hw,
        attempts_cons_of_refused _ hw]

theorem map_fst_attempts_append (fs : List (List UInt8)) (s : σ) :
    (attempts write fs s).map Prod.fst ++ (writeAll write fs s).2.2.1 = fs := by
  induction fs generalizing s with
  | nil => rfl
  | cons f fs ih =>
    rcases hw : write s f with ⟨_ | m, s₁⟩
    · rw [attempts_cons_of_taken _ hw, writeAll_cons_of_taken _ hw, List.map_cons,
        List.cons_append, ih]
    · rw [attempts_cons_of_refused _ hw, writeAll_cons_of_refused _ hw]
      rfl

theorem map_snd_attempts (fs : List (List UInt8)) (s : σ) :
    (attempts write fs s).map Prod.snd =
      List.replicate (writeAll write fs s).1 true ++ ((writeAll write fs s).2.1.map fun _ => false).toList := by
  induction fs generalizing s with
  | nil => rfl
  | cons f fs ih =>
    rcases hw : write s f with ⟨_ | m, s₁⟩
    · rw [attempts_cons_of_taken _ hw, writeAll_cons_of_taken _ hw, List.map_cons, ih,
        List.replicate_succ, List.cons_append]
    · rw [attempts_cons_of_refused _ hw, writeAll_cons_of_refused _ hw]
      rfl

theorem rest_writeAll_of_none {fs : List (List UInt8)} {s : σ} (h : (writeAll write fs s).2.1 = none) :
    (writeAll write fs s).2.2.1 = [] := by
  induction fs generalizing s with
  | nil => rfl
  | cons f fs ih =>
    rcases hw : write s f with ⟨_ | m, s₁⟩
    · rw [writeAll_cons_of_taken _ hw] at h ⊢
      exact ih h
    · rw [writeAll_cons_of_refused _ hw] at h
      cases h

end WriteAll

/-! ## One duty cycle -/

section Cycle

/-- The calls a duty cycle makes for each lane's frames: the control lane
first, then, when no control frame was refused, the data lane. -/
def laneCalls (w : Writer) (s : σ) : Lane → List (List UInt8 × Bool)
  | .control => attempts write w.control s
  | .data =>
    match (writeAll write w.control s).2.1 with
    | some _ => []
    | none => attempts write w.data (writeAll write w.control s).2.2.2

variable {w : Writer} {s : σ}

theorem doWork_of_control_refused {m : String} (h : (writeAll write w.control s).2.1 = some m) :
    w.doWork write s =
      (.error (.io m), { w with control := (writeAll write w.control s).2.2.1 },
        (writeAll write w.control s).2.2.2) := by
  rcases hc : writeAll write w.control s with ⟨nc, _ | m', rest, s₁⟩
  · rw [hc] at h
    cases h
  · rw [hc] at h
    cases h
    simp [doWork, hc]

theorem doWork_of_control_taken (h : (writeAll write w.control s).2.1 = none) :
    w.doWork write s =
      (match (writeAll write w.data (writeAll write w.control s).2.2.2).2.1 with
        | some m => .error (.io m)
        | none => .ok ((writeAll write w.control s).1 +
            (writeAll write w.data (writeAll write w.control s).2.2.2).1),
        { w with control := [], data := (writeAll write w.data (writeAll write w.control s).2.2.2).2.2.1 },
        (writeAll write w.data (writeAll write w.control s).2.2.2).2.2.2) := by
  rcases hc : writeAll write w.control s with ⟨nc, _ | m', rest, s₁⟩
  · rcases hd : writeAll write w.data s₁ with ⟨nd, _ | m, restData, s₂⟩ <;> simp [doWork, hc, hd]
  · rw [hc] at h
    cases h

/-- Through the recording sink a duty cycle does what it does through the sink
itself, and the record grows by the control lane's calls, then the data lane's. -/
theorem doWork_recording (log : List (List UInt8 × Bool)) :
    w.doWork (recording write) (s, log) =
      ((w.doWork write s).1, (w.doWork write s).2.1,
        ((w.doWork write s).2.2, log ++ laneCalls write w s .control ++ laneCalls write w s .data)) := by
  rcases hc : (writeAll write w.control s).2.1 with _ | m
  · have hc' : (writeAll (recording write) w.control (s, log)).2.1 = none := by
      rw [writeAll_recording, hc]
    rw [doWork_of_control_taken _ hc', doWork_of_control_taken _ hc, writeAll_recording,
      writeAll_recording]
    simp only [laneCalls, hc, List.append_assoc]
  · have hc' : (writeAll (recording write) w.control (s, log)).2.1 = some m := by
      rw [writeAll_recording, hc]
    rw [doWork_of_control_refused _ hc', doWork_of_control_refused _ hc, writeAll_recording]
    simp [laneCalls, hc]

/-- Per lane, the frames handed over are the head of the lane and the lane
keeps the rest: exactly the handed frames leave it. -/
theorem map_fst_laneCalls_append (l : Lane) :
    (laneCalls write w s l).map Prod.fst ++ (w.doWork write s).2.1.lane l = w.lane l := by
  rcases hc : (writeAll write w.control s).2.1 with _ | m
  · rw [doWork_of_control_taken _ hc]
    cases l with
    | data => simp only [laneCalls, hc, lane]; exact map_fst_attempts_append _ _ _
    | control =>
      simp only [laneCalls, lane]
      rw [← rest_writeAll_of_none write hc]
      exact map_fst_attempts_append _ _ _
  · rw [doWork_of_control_refused _ hc]
    cases l with
    | data => simp [laneCalls, hc, lane]
    | control => exact map_fst_attempts_append _ _ _

theorem control_doWork_of_laneCalls_data (h : laneCalls write w s .data ≠ []) :
    (w.doWork write s).2.1.control = [] := by
  rcases hc : (writeAll write w.control s).2.1 with _ | m
  · rw [doWork_of_control_taken _ hc]
  · simp [laneCalls, hc] at h

/-- A cycle answers the number of frames taken when no write was refused, and
the sink's failure when the last write was refused; every other write was
taken. -/
theorem doWork_result :
    (∃ n, (w.doWork write s).1 = .ok n ∧
      (laneCalls write w s .control ++ laneCalls write w s .data).map Prod.snd = List.replicate n true) ∨
    (∃ m n, (w.doWork write s).1 = .error (.io m) ∧
      (laneCalls write w s .control ++ laneCalls write w s .data).map Prod.snd =
        List.replicate n true ++ [false]) := by
  have hcs := map_snd_attempts write w.control s
  rcases hc : (writeAll write w.control s).2.1 with _ | m
  · have hds := map_snd_attempts write w.data (writeAll write w.control s).2.2.2
    rw [doWork_of_control_taken _ hc]
    simp only [laneCalls, hc, List.map_append, hcs, hds, Option.map_none, Option.toList_none,
      List.append_nil]
    rcases hd : (writeAll write w.data (writeAll write w.control s).2.2.2).2.1 with _ | m'
    · exact .inl ⟨_, rfl, by simp [List.replicate_append_replicate]⟩
    · refine .inr ⟨m', (writeAll write w.control s).1 +
        (writeAll write w.data (writeAll write w.control s).2.2.2).1, rfl, ?_⟩
      simp [← List.append_assoc, List.replicate_append_replicate]
  · rw [doWork_of_control_refused _ hc]
    simp only [laneCalls, hc, List.append_nil, hcs]
    exact .inr ⟨m, (writeAll write w.control s).1, rfl, by simp⟩

@[simp] theorem laneCapacity_doWork : (w.doWork write s).2.1.laneCapacity = w.laneCapacity := by
  rcases hc : (writeAll write w.control s).2.1 with _ | m
  · rw [doWork_of_control_taken _ hc]
  · rw [doWork_of_control_refused _ hc]

@[simp] theorem maxFrameLen_doWork : (w.doWork write s).2.1.maxFrameLen = w.maxFrameLen := by
  rcases hc : (writeAll write w.control s).2.1 with _ | m
  · rw [doWork_of_control_taken _ hc]
  · rw [doWork_of_control_refused _ hc]

end Cycle

/-! ## Enqueueing -/

/-- An enqueue refuses a frame over the limit, or else refuses it when its
lane is full, or else puts it at the end of its lane and leaves the other lane
and the limits alone. -/
theorem enqueue_cases (w : Writer) (l : Lane) (f : List UInt8) :
    (w.maxFrameLen < f.length ∧ w.enqueue l f = .error (.frameTooLarge f.length w.maxFrameLen)) ∨
    (f.length ≤ w.maxFrameLen ∧ w.laneCapacity ≤ (w.lane l).length ∧
      w.enqueue l f = .error (.queueFull l)) ∨
    (f.length ≤ w.maxFrameLen ∧ (w.lane l).length < w.laneCapacity ∧
      ∃ w', w.enqueue l f = .ok w' ∧ (∀ l', w'.lane l' = if l' = l then w.lane l ++ [f] else w.lane l') ∧
        w'.laneCapacity = w.laneCapacity ∧ w'.maxFrameLen = w.maxFrameLen) := by
  unfold enqueue
  by_cases hlong : w.maxFrameLen < f.length
  · exact .inl ⟨hlong, by simp [hlong]⟩
  · by_cases hfull : w.laneCapacity ≤ (w.lane l).length
    · exact .inr (.inl ⟨by omega, hfull, by simp [hlong, hfull]⟩)
    · refine .inr (.inr ⟨by omega, by omega, ?_⟩)
      cases l with
      | data =>
        exact ⟨{ w with data := w.data ++ [f] }, by simp [hlong, hfull],
          fun l' => by cases l' <;> simp [lane], rfl, rfl⟩
      | control =>
        exact ⟨{ w with control := w.control ++ [f] }, by simp [hlong, hfull],
          fun l' => by cases l' <;> simp [lane], rfl, rfl⟩

/-! ## Runs -/

/-- `Run write w₀ s₀ acc sent w s`: enqueues and duty cycles against the sink
`write` take the writer `w₀` and sink `s₀` to `w` and `s`. Along the way
`acc l` collects the frames lane `l` accepted, in order, and `sent l` the calls
made for its frames, each with whether the sink took it. A refused enqueue
changes nothing. -/
inductive Run (w₀ : Writer) (s₀ : σ) :
    (Lane → List (List UInt8)) → (Lane → List (List UInt8 × Bool)) → Writer → σ → Prop
  | nil : Run w₀ s₀ (fun _ => []) (fun _ => []) w₀ s₀
  | accept {acc : Lane → List (List UInt8)} {sent : Lane → List (List UInt8 × Bool)}
      {w w' : Writer} {s : σ} {l : Lane} {f : List UInt8} :
      Run w₀ s₀ acc sent w s → w.enqueue l f = .ok w' →
      Run w₀ s₀ (fun l' => if l' = l then acc l' ++ [f] else acc l') sent w' s
  | refuse {acc : Lane → List (List UInt8)} {sent : Lane → List (List UInt8 × Bool)}
      {w : Writer} {s : σ} {l : Lane} {f : List UInt8} {e : WriterError} :
      Run w₀ s₀ acc sent w s → w.enqueue l f = .error e → Run w₀ s₀ acc sent w s
  | cycle {acc : Lane → List (List UInt8)} {sent : Lane → List (List UInt8 × Bool)}
      {w : Writer} {s : σ} :
      Run w₀ s₀ acc sent w s →
      Run w₀ s₀ acc (fun l => sent l ++ laneCalls write w s l) (w.doWork write s).2.1
        (w.doWork write s).2.2

/-- The invariant of a writer made with capacity `cap` and limit `maxLen`: the
limits stay, no lane holds more than `max 1 cap` frames, and each lane's calls
followed by what it holds are the frames it accepted. -/
structure Conserves (cap maxLen : Nat) (acc : Lane → List (List UInt8))
    (sent : Lane → List (List UInt8 × Bool)) (w : Writer) : Prop where
  laneCapacity : w.laneCapacity = max 1 cap
  maxFrameLen : w.maxFrameLen = maxLen
  bounded : ∀ l, (w.lane l).length ≤ max 1 cap
  conserved : ∀ l, (sent l).map Prod.fst ++ w.lane l = acc l

section Conserves

variable {cap maxLen : Nat} {acc : Lane → List (List UInt8)} {sent : Lane → List (List UInt8 × Bool)}
  {w : Writer}

theorem Conserves.new (cap maxLen : Nat) :
    Conserves cap maxLen (fun _ => []) (fun _ => []) (Writer.new cap maxLen) where
  laneCapacity := rfl
  maxFrameLen := rfl
  bounded l := by cases l <;> simp [Writer.new, lane]
  conserved l := by cases l <;> rfl

theorem Conserves.accept (hc : Conserves cap maxLen acc sent w) {l : Lane} {f : List UInt8}
    {w' : Writer} (h : w.enqueue l f = .ok w') :
    Conserves cap maxLen (fun l' => if l' = l then acc l' ++ [f] else acc l') sent w' := by
  rcases enqueue_cases w l f with ⟨-, hbad⟩ | ⟨-, -, hbad⟩ | ⟨-, hroom, w'', hok, hlanes, hcap, hmax⟩
  · rw [h] at hbad
    cases hbad
  · rw [h] at hbad
    cases hbad
  rw [h] at hok
  cases hok
  refine ⟨hcap.trans hc.laneCapacity, hmax.trans hc.maxFrameLen, fun l' => ?_, fun l' => ?_⟩
  · rw [hlanes l']
    split
    · subst l'
      rw [List.length_append, List.length_singleton]
      have := hc.laneCapacity
      omega
    · exact hc.bounded l'
  · rw [hlanes l']
    split
    · subst l'
      rw [← List.append_assoc, hc.conserved]
    · exact hc.conserved l'

theorem Conserves.cycle (hc : Conserves cap maxLen acc sent w) (s : σ) :
    Conserves cap maxLen acc (fun l => sent l ++ laneCalls write w s l) (w.doWork write s).2.1 where
  laneCapacity := by rw [laneCapacity_doWork]; exact hc.laneCapacity
  maxFrameLen := by rw [maxFrameLen_doWork]; exact hc.maxFrameLen
  bounded l := by
    have hlen := congrArg List.length (map_fst_laneCalls_append write (w := w) (s := s) l)
    rw [List.length_append] at hlen
    have := hc.bounded l
    omega
  conserved l := by
    rw [List.map_append, List.append_assoc, map_fst_laneCalls_append, hc.conserved]

theorem Run.conserves {s₀ s : σ} (hrun : Run write (Writer.new cap maxLen) s₀ acc sent w s) :
    Conserves cap maxLen acc sent w := by
  induction hrun with
  | nil => exact Conserves.new cap maxLen
  | accept _ h ih => exact ih.accept h
  | refuse _ _ ih => exact ih
  | cycle _ ih => exact ih.cycle write _

/-- Along a run, an enqueue is refused as too large exactly when the frame
exceeds the limit, otherwise as a full lane exactly when the lane holds
`max 1 cap` frames, and otherwise it is accepted. -/
theorem Conserves.enqueue_iff (hc : Conserves cap maxLen acc sent w) (l : Lane) (f : List UInt8) :
    (w.enqueue l f = .error (.frameTooLarge f.length maxLen) ↔ maxLen < f.length) ∧
    (w.enqueue l f = .error (.queueFull l) ↔
      f.length ≤ maxLen ∧ (w.lane l).length = max 1 cap) ∧
    ((∃ w', w.enqueue l f = .ok w') ↔ f.length ≤ maxLen ∧ (w.lane l).length < max 1 cap) := by
  have hbound := hc.bounded l
  rw [← hc.maxFrameLen]
  rcases enqueue_cases w l f with ⟨hlong, h⟩ | ⟨hshort, hfull, h⟩ | ⟨hshort, hroom, w', h, -⟩
  · rw [h]
    refine ⟨iff_of_true rfl hlong, iff_of_false (by simp) (by omega), iff_of_false (by simp) (by omega)⟩
  · rw [h, hc.laneCapacity] at *
    refine ⟨iff_of_false (by simp) (by omega), iff_of_true rfl ⟨hshort, by omega⟩,
      iff_of_false (by simp) (by omega)⟩
  · rw [h]
    rw [hc.laneCapacity] at hroom
    refine ⟨iff_of_false (by simp) (by omega), iff_of_false (by simp) (by omega),
      iff_of_true ⟨w', rfl⟩ ⟨hshort, hroom⟩⟩

/-- The frames the sink took from a lane came in the order the lane accepted
them, each at most once. -/
theorem Conserves.taken_sublist (hc : Conserves cap maxLen acc sent w) (l : Lane) :
    List.Sublist (((sent l).filter (·.2)).map Prod.fst) (acc l) := by
  rw [← hc.conserved l]
  exact (List.filter_sublist.map Prod.fst).trans (List.sublist_append_left _ _)

end Conserves

end Writer

/-- The outbound lanes, for any sink and any writer made with capacity `cap` and
limit `maxLen`: along every run an enqueue is refused as too large exactly when
the frame exceeds the limit, else as a full lane exactly when the lane holds
`max 1 cap` frames, and is accepted otherwise, the frame joining the end of its
lane; a duty cycle hands the sink the control lane's frames from its head, then
the data lane's, stops after the first refused write, removes exactly the frames
handed over, and answers their number unless the last was refused; and along
every run each lane's calls followed by what it holds are the frames it
accepted, so the frames taken came in acceptance order, each at most once. -/
theorem writer_lanes_conserve_frames {σ : Type} (write : σ → List UInt8 → Option String × σ)
    (cap maxLen : Nat) (s₀ : σ) :
    (∀ acc sent w s, Writer.Run write (Writer.new cap maxLen) s₀ acc sent w s → ∀ l f,
      (w.enqueue l f = .error (.frameTooLarge f.length maxLen) ↔ maxLen < f.length) ∧
      (w.enqueue l f = .error (.queueFull l) ↔ f.length ≤ maxLen ∧ (w.lane l).length = max 1 cap) ∧
      ((∃ w', w.enqueue l f = .ok w') ↔ f.length ≤ maxLen ∧ (w.lane l).length < max 1 cap)) ∧
    (∀ (w : Writer) l f w', w.enqueue l f = .ok w' →
      ∀ l', w'.lane l' = if l' = l then w.lane l ++ [f] else w.lane l') ∧
    (∀ (w : Writer) (s : σ) (log : List (List UInt8 × Bool)),
      w.doWork (Writer.recording write) (s, log) =
        ((w.doWork write s).1, (w.doWork write s).2.1, ((w.doWork write s).2.2,
          log ++ Writer.laneCalls write w s .control ++ Writer.laneCalls write w s .data)) ∧
      (∀ l, (Writer.laneCalls write w s l).map Prod.fst ++ (w.doWork write s).2.1.lane l = w.lane l) ∧
      (Writer.laneCalls write w s .data ≠ [] → (w.doWork write s).2.1.control = []) ∧
      ((∃ n, (w.doWork write s).1 = .ok n ∧
          (Writer.laneCalls write w s .control ++ Writer.laneCalls write w s .data).map Prod.snd =
            List.replicate n true) ∨
        (∃ m n, (w.doWork write s).1 = .error (.io m) ∧
          (Writer.laneCalls write w s .control ++ Writer.laneCalls write w s .data).map Prod.snd =
            List.replicate n true ++ [false]))) ∧
    (∀ acc sent w s, Writer.Run write (Writer.new cap maxLen) s₀ acc sent w s → ∀ l,
      (sent l).map Prod.fst ++ w.lane l = acc l ∧
        List.Sublist (((sent l).filter (·.2)).map Prod.fst) (acc l)) := by
  refine ⟨fun _ _ _ _ hrun l f => hrun.conserves.enqueue_iff l f, ?_, ?_, ?_⟩
  · intro w l f w' hok
    rcases Writer.enqueue_cases w l f with ⟨-, hbad⟩ | ⟨-, -, hbad⟩ | ⟨-, -, w'', h, hlanes, -⟩
    · rw [hok] at hbad
      cases hbad
    · rw [hok] at hbad
      cases hbad
    · rw [hok] at h
      cases h
      exact hlanes
  · intro w s log
    exact ⟨Writer.doWork_recording write log, fun l => Writer.map_fst_laneCalls_append write l,
      Writer.control_doWork_of_laneCalls_data write, Writer.doWork_result write⟩
  · intro _ _ _ _ hrun l
    exact ⟨hrun.conserves.conserved l, hrun.conserves.taken_sublist l⟩

/-- A one-slot writer that accepted a control frame and then ran a duty cycle
into a recording sink has handed that frame over. -/
theorem writer_conserves_after_one_cycle :
    ∃ acc sent w s, Writer.Run RecordingSink.write (Writer.new 1 16) (RecordingSink.new []) acc sent w s ∧
      acc .control = [[97]] ∧ (sent .control).map Prod.fst ++ w.lane .control = acc .control :=
  have hrun : Writer.Run RecordingSink.write (Writer.new 1 16) (RecordingSink.new []) _ _ _ _ :=
    .cycle (.accept .nil (rfl : (Writer.new 1 16).enqueue .control [97] = .ok _))
  ⟨_, _, _, _, hrun, rfl,
    ((writer_lanes_conserve_frames RecordingSink.write 1 16 (RecordingSink.new [])).2.2.2 _ _ _ _
      hrun .control).1⟩

end DepthFeed
