import Mathlib.Order.Bounds.Basic
import DepthFeed.Proofs.Book.Snapshot

/-!
# The depth a book reports

Applying a record answers the least visible position it changed. For the
incremental book the answer is a minimum over what successive side updates
report, and each update touches only positions at or past its own
(`getElem?_update_of_below`); for the snapshot book it is the first raised
flag of either side's change list (`SnapshotBook.copySide_eq`).
-/

namespace DepthFeed

namespace Book

variable {β : Type} [Book β]

/-- What the depth `d` reported for a book `b` that became `b'` promises: it
is one of the visible positions, and above it (everywhere, when there is none)
the book writes the same entries as before. -/
structure DepthSound (b b' : β) (d : Option Nat) : Prop where
  visible : ∀ i ∈ d, i < visibleDepth
  unchanged : ∀ j < visibleDepth, (∀ i ∈ d, j < i) → ∀ x : MarketRecord,
    (writeTo b' x).bids[j]? = (writeTo b x).bids[j]? ∧
      (writeTo b' x).asks[j]? = (writeTo b x).asks[j]?

end Book

/-- `d` is the least element of `S`, and `none` exactly when `S` is empty. -/
def LeastOf (d : Option Nat) (S : Set Nat) : Prop :=
  (∀ i, d = some i ↔ IsLeast S i) ∧ (d = none ↔ S = ∅)

theorem LeastOf.minIndex? {a b : Option Nat} {S T : Set Nat} (ha : LeastOf a S)
    (hb : LeastOf b T) : LeastOf (minIndex? a b) (S ∪ T) := by
  obtain ⟨ha, ha0⟩ := ha
  obtain ⟨hb, hb0⟩ := hb
  cases a with
  | some x =>
    have hx := (ha x).1 rfl
    have hS : S ≠ ∅ := fun h => Set.notMem_empty x (h ▸ hx.1)
    cases b with
    | some y =>
      have hxy := hx.union ((hb y).1 rfl)
      refine ⟨fun i => ⟨fun h => ?_, fun h => ?_⟩, ?_⟩
      · cases h
        exact hxy
      · exact congrArg some (hxy.unique h)
      · simp only [DepthFeed.minIndex?, reduceCtorEq, false_iff]
        exact fun h => hS (Set.subset_empty_iff.1 (h ▸ Set.subset_union_left))
    | none =>
      rw [hb0.1 rfl, Set.union_empty]
      exact ⟨fun i => by rw [← ha i]; rfl, by simp [DepthFeed.minIndex?, hS]⟩
  | none =>
    rw [ha0.1 rfl, Set.empty_union]
    cases b <;> exact ⟨fun i => by rw [← hb i]; rfl, by rw [← hb0]; rfl⟩

theorem leastOf_findIdx? (l : List Bool) : LeastOf (l.findIdx? id) {j | l[j]? = some true} := by
  refine ⟨fun i => ?_, ?_⟩
  · rw [List.findIdx?_eq_some_iff_getElem]
    constructor
    · rintro ⟨hi, hti, hlt⟩
      simp only [id] at hti hlt
      refine ⟨by simp [List.getElem?_eq_getElem hi, hti], fun j hj => ?_⟩
      by_contra hji
      have hj' : j < l.length := by omega
      exact hlt j (by omega) (by simpa [List.getElem?_eq_getElem hj'] using hj)
    · rintro ⟨hi, hlow⟩
      obtain ⟨hlt, hti⟩ := List.getElem?_eq_some_iff.1 hi
      refine ⟨hlt, hti, fun j hji htj => ?_⟩
      have hj : j < l.length := by omega
      have := hlow (show l[j]? = some true by simpa [List.getElem?_eq_getElem hj] using htj)
      omega
  · rw [List.findIdx?_eq_none_iff, Set.eq_empty_iff_forall_notMem]
    constructor
    · intro h j hj
      obtain ⟨hlt, htj⟩ := List.getElem?_eq_some_iff.1 hj
      simpa [htj] using h _ (List.getElem_mem hlt)
    · intro h x hx
      obtain ⟨j, hj, rfl⟩ := List.getElem_of_mem hx
      simpa [List.getElem?_eq_getElem hj] using h j

theorem mem_minIndex? {a b : Option Nat} {i : Nat} (h : i ∈ minIndex? a b) : i ∈ a ∨ i ∈ b := by
  cases a with
  | none => exact .inr h
  | some x =>
    cases b with
    | none => exact .inl h
    | some y =>
      simp only [minIndex?, Option.mem_def, Option.some.injEq] at h
      subst h
      rcases Nat.le_total x y with hxy | hxy
      · exact .inl (by simp [Nat.min_eq_left hxy])
      · exact .inr (by simp [Nat.min_eq_right hxy])

theorem LeastOf.congr {d : Option Nat} {S T : Set Nat} (h : LeastOf d S) (hST : S = T) :
    LeastOf d T := hST ▸ h

theorem LeastOf.mem {d : Option Nat} {S : Set Nat} (h : LeastOf d S) {i : Nat} (hi : i ∈ d) :
    i ∈ S :=
  ((h.1 i).1 hi).1

theorem LeastOf.not_mem {d : Option Nat} {S : Set Nat} (h : LeastOf d S) {j : Nat}
    (hj : ∀ i ∈ d, j < i) : j ∉ S := by
  intro hjS
  cases hd : d with
  | none => simp [h.2.1 hd] at hjS
  | some i =>
    have hle : i ≤ j := ((h.1 i).1 hd).2 hjS
    have hlt : j < i := hj i hd
    omega

/-! ## Incremental books -/

namespace BookSide

theorem getElem?_writeEntries_eq {s s' : BookSide} {j : Nat} (h : s'.levels[j]? = s.levels[j]?) :
    s'.writeEntries[j]? = s.writeEntries[j]? := by
  simp [writeEntries, Vector.getElem?_ofFn, h]

end BookSide

namespace IncrementalBook

theorem lt_of_mem_visible {d : Option Nat} {i : Nat} (h : i ∈ visible d) : i < visibleDepth := by
  simp only [visible, Option.mem_def, Option.filter_eq_some_iff, decide_eq_true_eq] at h
  exact h.2

/-- Above a visible position filtered out of the answer lies every position the
answer was computed from. -/
theorem below_of_below_visible {d : Option Nat} {j : Nat} (hj : j < visibleDepth)
    (h : ∀ i ∈ visible d, j < i) : ∀ i ∈ d, j < i := by
  intro i hi
  by_cases hv : i < visibleDepth
  · exact h i (by simpa [visible, Option.mem_def, hv] using hi)
  · omega

theorem depthSound (b : IncrementalBook) (r : MarketRecord) :
    Book.DepthSound b (b.updateFrom r).2 (b.updateFrom r).1 := by
  by_cases ht : r.action = .trade
  · rw [updateFrom_trade ht]
    exact ⟨by simp, fun j _ _ x => ⟨rfl, rfl⟩⟩
  cases hd : r.isLevelDelta
  · -- the bulk path: the least visible position either side reported
    rw [updateFrom_bulk ht hd]
    refine ⟨fun i hi => (mem_minIndex? hi).elim lt_of_mem_visible lt_of_mem_visible,
      fun j hj hbelow x => ?_⟩
    rw [lt_minIndex?_iff] at hbelow
    exact ⟨BookSide.getElem?_writeEntries_eq (BookSide.getElem?_updateFrom_of_below
          (below_of_below_visible hj hbelow.1)),
        BookSide.getElem?_writeEntries_eq (BookSide.getElem?_updateFrom_of_below
          (below_of_below_visible hj hbelow.2))⟩
  · -- a single level changed on the named side
    by_cases hs : r.side = .bid
    · rw [updateFrom_bid ht hd hs]
      exact ⟨fun i hi => lt_of_mem_visible hi, fun j hj hbelow x =>
        ⟨BookSide.getElem?_writeEntries_eq (BookSide.getElem?_update_of_below
          (below_of_below_visible hj hbelow)), rfl⟩⟩
    · rw [updateFrom_ask ht hd hs]
      exact ⟨fun i hi => lt_of_mem_visible hi, fun j hj hbelow x =>
        ⟨rfl, BookSide.getElem?_writeEntries_eq (BookSide.getElem?_update_of_below
          (below_of_below_visible hj hbelow))⟩⟩

theorem sequence_updateFrom (b : IncrementalBook) (r : MarketRecord) :
    (b.updateFrom r).2.sequence = r.sequence := by
  by_cases ht : r.action = .trade
  · rw [updateFrom_trade ht]
  cases hd : r.isLevelDelta
  · rw [updateFrom_bulk ht hd]
  · by_cases hs : r.side = .bid
    · rw [updateFrom_bid ht hd hs]
    · rw [updateFrom_ask ht hd hs]

end IncrementalBook

/-! ## Snapshot books -/

namespace SnapshotBook

variable {b : SnapshotBook} {r : MarketRecord}

/-- Applying a record changed the level of either side at position `j`. -/
def ChangedAt (b b' : SnapshotBook) (j : Nat) : Prop :=
  b'.bids[j]? ≠ b.bids[j]? ∨ b'.asks[j]? ≠ b.asks[j]?

theorem getElem?_writeSide_eq {ls ls' : List PriceLevel} {j : Nat} (h : ls'[j]? = ls[j]?) :
    (writeSide ls')[j]? = (writeSide ls)[j]? := by
  simp [writeSide, Vector.getElem?_ofFn, h]

theorem changedAt_iff (h : r.action ≠ .trade) (j : Nat) :
    ChangedAt b (b.updateFrom r).2 j ↔ (changeFlags b.bids r.bids.toList)[j]? = some true ∨
      (changeFlags b.asks r.asks.toList)[j]? = some true := by
  rw [updateFrom_of_ne_trade h]
  exact or_congr (getElem?_copySide_ne_iff 0) (getElem?_copySide_ne_iff 0)

theorem changedAt_lt (hc : ChangedAt b (b.updateFrom r).2 j) :
    j < visibleDepth ∧ (j < b.bids.length ∨ j < b.asks.length) := by
  by_cases ht : r.action = .trade
  · simp [ChangedAt, updateFrom_trade ht] at hc
  have hflag : ∀ {ls : List PriceLevel} {es : Vector LevelEntry 10},
      (changeFlags ls es.toList)[j]? = some true → j < visibleDepth ∧ j < ls.length := by
    intro ls es hj
    have := (List.getElem?_eq_some_iff.1 hj).1
    simp only [changeFlags, List.length_zipWith, Vector.length_toList] at this
    exact ⟨by simp [visibleDepth]; omega, by omega⟩
  rcases (changedAt_iff ht j).1 hc with hj | hj
  · exact ⟨(hflag hj).1, .inl (hflag hj).2⟩
  · exact ⟨(hflag hj).1, .inr (hflag hj).2⟩

theorem leastOf_updateFrom (b : SnapshotBook) (r : MarketRecord) :
    LeastOf (b.updateFrom r).1 {j | ChangedAt b (b.updateFrom r).2 j} := by
  by_cases ht : r.action = .trade
  · rw [updateFrom_trade ht]
    exact ⟨fun i => by simp [ChangedAt, IsLeast], by simp [ChangedAt]⟩
  have hd : (b.updateFrom r).1 = minIndex? ((changeFlags b.bids r.bids.toList).findIdx? id)
      ((changeFlags b.asks r.asks.toList).findIdx? id) := by
    rw [updateFrom_of_ne_trade ht]
    dsimp only
    rw [copySide_eq, copySide_eq]
    simp
  rw [hd]
  refine ((leastOf_findIdx? _).minIndex? (leastOf_findIdx? _)).congr ?_
  ext j
  exact (changedAt_iff ht j).symm

theorem depthSound (b : SnapshotBook) (r : MarketRecord) :
    Book.DepthSound b (b.updateFrom r).2 (b.updateFrom r).1 := by
  have hleast := leastOf_updateFrom b r
  refine ⟨fun i hi => (changedAt_lt (hleast.mem hi)).1, fun j _ hbelow x => ?_⟩
  -- above the least change nothing changed
  have hsame := hleast.not_mem hbelow
  simp only [Set.mem_ofPred_eq, ChangedAt, not_or, not_not] at hsame
  exact ⟨getElem?_writeSide_eq hsame.1, getElem?_writeSide_eq hsame.2⟩

theorem sequence_updateFrom (b : SnapshotBook) (r : MarketRecord) :
    (b.updateFrom r).2.sequence = r.sequence := by
  by_cases ht : r.action = .trade
  · rw [updateFrom_trade ht]
  · rw [updateFrom_of_ne_trade ht]

end SnapshotBook

/-- The depth a book reports is sound. For an incremental book of any bound and
any record: the book takes the record's sequence number, the reported position
is visible, every entry above it is written as before, and a trade changes no
level and reports nothing. For a snapshot book reached through the book
operations the same holds, and the reported position is exactly the least one,
below the book's depth and the record's ten, at which either side changed. -/
theorem reported_depth_sound :
    (∀ (b : IncrementalBook) (r : MarketRecord),
      Book.sequenceNumber (b.updateFrom r).2 = r.sequence ∧
      Book.DepthSound b (b.updateFrom r).2 (b.updateFrom r).1 ∧
      (r.action = .trade → (b.updateFrom r).1 = none ∧
        (b.updateFrom r).2.bids = b.bids ∧ (b.updateFrom r).2.asks = b.asks)) ∧
    ∀ b : SnapshotBook, Book.Reachable (Set.range SnapshotBook.new) b → ∀ r : MarketRecord,
      Book.sequenceNumber (b.updateFrom r).2 = r.sequence ∧
      Book.DepthSound b (b.updateFrom r).2 (b.updateFrom r).1 ∧
      (r.action = .trade → (b.updateFrom r).1 = none ∧
        (b.updateFrom r).2.bids = b.bids ∧ (b.updateFrom r).2.asks = b.asks) ∧
      LeastOf (b.updateFrom r).1
        {j | j < min b.depth visibleDepth ∧ SnapshotBook.ChangedAt b (b.updateFrom r).2 j} := by
  refine ⟨fun b r => ⟨b.sequence_updateFrom r, b.depthSound r, fun ht => ?_⟩,
    fun b _ r => ⟨b.sequence_updateFrom r, b.depthSound r, fun ht => ?_, ?_⟩⟩
  · rw [IncrementalBook.updateFrom_trade ht]
    exact ⟨rfl, rfl, rfl⟩
  · rw [SnapshotBook.updateFrom_trade ht]
    exact ⟨rfl, rfl, rfl⟩
  · -- a change lies below the depth, both sides having the book's depth
    have hlen := b.sides_length
    refine (SnapshotBook.leastOf_updateFrom b r).congr (Set.ext fun j => ?_)
    simp only [Set.mem_ofPred_eq, SnapshotBook.depth]
    constructor
    · intro hc
      have := SnapshotBook.changedAt_lt hc
      exact ⟨by omega, hc⟩
    · exact fun h => h.2

/-- A book of depth two holding one bid takes a snapshot that keeps that bid
and adds a second: the update reports position one, the least position that
changed. -/
theorem reported_depth_sound_second_level :
    ∃ (b : SnapshotBook) (r : MarketRecord), Book.Reachable (Set.range SnapshotBook.new) b ∧
      b.bids[0]? ≠ some PriceLevel.empty ∧
      (b.updateFrom r).2.bids[0]? = b.bids[0]? ∧ (b.updateFrom r).2.bids[1]? ≠ b.bids[1]? ∧
      (b.updateFrom r).1 = some 1 ∧
      LeastOf (b.updateFrom r).1
        {j | j < min b.depth visibleDepth ∧ SnapshotBook.ChangedAt b (b.updateFrom r).2 j} := by
  let first : MarketRecord :=
    { MarketRecord.new with sequence := 1, bids := MarketRecord.new.bids.set 0 ⟨100, 5, 1⟩ }
  let second : MarketRecord :=
    { MarketRecord.new with sequence := 2, bids := first.bids.set 1 ⟨99, 2, 1⟩ }
  have hb : Book.Reachable (Set.range SnapshotBook.new) ((SnapshotBook.new 2).updateFrom first).2 :=
    .updateFrom first (.fresh ⟨2, rfl⟩)
  exact ⟨_, second, hb, by decide, by decide, by decide, by decide,
    (reported_depth_sound.2 _ hb second).2.2.2⟩

end DepthFeed
