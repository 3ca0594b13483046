import Mathlib.Data.Set.Operations
import DepthFeed.Proofs.Book.Update
import DepthFeed.Book.Incremental

/-!
# The representation invariant of sides and incremental books

`BookSide.Valid` (strictly in priority order, within the bound, no level of
size zero) is kept by every side operation, and `IncrementalBook.Valid` adds
that each side sorts as its kind and holds no level at the absent price: a
single-level change needs a present price and the bulk path skips null
entries.
-/

namespace DepthFeed

/-- The books reached from a fresh one through the book operations: applying
a record, resetting, and taking the contents of another reached book. -/
inductive Book.Reachable {β : Type} [Book β] (fresh : β → Prop) : β → Prop where
  | fresh {b : β} : fresh b → Book.Reachable fresh b
  | updateFrom {b : β} (r : MarketRecord) : Book.Reachable fresh b →
      Book.Reachable fresh (Book.updateFrom b r).2
  | reset {b : β} : Book.Reachable fresh b → Book.Reachable fresh (Book.reset b)
  | copyFrom {b o : β} : Book.Reachable fresh b → Book.Reachable fresh o →
      Book.Reachable fresh (Book.copyFrom b o)

namespace BookSide

/-- The sides reached from an empty side of kind `kind` and bound `m` by
updates, clearing, applying record entries, and copying a reached side of the
same kind and any bound. -/
inductive Reachable (kind : SideKind) : Nat → BookSide → Prop where
  | new (m : Nat) : Reachable kind m (BookSide.new kind m)
  | update {m : Nat} {s : BookSide} (price size count : Int64) : Reachable kind m s →
      Reachable kind m (s.update price size count).2
  | clear {m : Nat} {s : BookSide} : Reachable kind m s → Reachable kind m s.clear
  | updateFrom {m : Nat} {s : BookSide} (es : List LevelEntry) : Reachable kind m s →
      Reachable kind m (s.updateFrom es).2
  | copyFrom {m m' : Nat} {s o : BookSide} : Reachable kind m s → Reachable kind m' o →
      Reachable kind m (s.copyFrom o)

theorem Reachable.valid {kind : SideKind} {m : Nat} {s : BookSide} (h : Reachable kind m s) :
    s.kind = kind ∧ s.maxLevels = m ∧ s.Valid := by
  induction h with
  | new m =>
    exact ⟨rfl, rfl, .of_levels_eq_nil rfl⟩
  | update price size count _ ih =>
    exact ⟨by simp [ih.1], by simp [ih.2.1], ih.2.2.update price size count⟩
  | clear _ ih => exact ⟨ih.1, ih.2.1, Valid.clear _⟩
  | updateFrom es _ ih => exact ⟨by simp [ih.1], by simp [ih.2.1], ih.2.2.updateFrom es⟩
  | copyFrom _ _ ih ih' =>
    exact ⟨ih.1, ih.2.1, ih'.2.2.copyFrom (ih'.1.trans ih.1.symm)⟩

end BookSide

namespace IncrementalBook

variable {b o : IncrementalBook} {r : MarketRecord}

/-! ## The three ways a record is applied -/

theorem updateFrom_trade (h : r.action = .trade) :
    b.updateFrom r = (none, { b with sequence := r.sequence }) := by
  simp [updateFrom, h]

theorem updateFrom_bid (h : r.action ≠ .trade) (hd : r.isLevelDelta = true) (hs : r.side = .bid) :
    b.updateFrom r = (visible (b.bids.update r.price r.size 1).1.index?,
      { b with sequence := r.sequence, bids := (b.bids.update r.price r.size 1).2 }) := by
  simp [updateFrom, h, hd, hs, updateBid]

theorem updateFrom_ask (h : r.action ≠ .trade) (hd : r.isLevelDelta = true) (hs : r.side ≠ .bid) :
    b.updateFrom r = (visible (b.asks.update r.price r.size 1).1.index?,
      { b with sequence := r.sequence, asks := (b.asks.update r.price r.size 1).2 }) := by
  simp [updateFrom, h, hd, hs, updateAsk]

theorem updateFrom_bulk (h : r.action ≠ .trade) (hd : r.isLevelDelta = false) :
    b.updateFrom r = (minIndex? (visible (b.bids.updateFrom r.bids.toList).1)
        (visible (b.asks.updateFrom r.asks.toList).1),
      { b with sequence := r.sequence, bids := (b.bids.updateFrom r.bids.toList).2,
               asks := (b.asks.updateFrom r.asks.toList).2 }) := by
  simp [updateFrom, h, hd]

theorem price_ne_of_isLevelDelta (hd : r.isLevelDelta = true) : r.price ≠ absentI64 := by
  simp only [MarketRecord.isLevelDelta, Bool.and_eq_true, bne_iff_ne, ne_eq] at hd
  exact hd.2

/-! ## The invariant -/

/-- The invariant of an incremental book: the bid side sorts as bids and the
ask side as asks, both are valid, and neither holds the absent price. -/
structure Valid (b : IncrementalBook) : Prop where
  bids_kind : b.bids.kind = .bid
  asks_kind : b.asks.kind = .ask
  bids : b.bids.Valid
  asks : b.asks.Valid
  bids_present : b.bids.Present
  asks_present : b.asks.Present

theorem Valid.new (m : Nat) : (new m).Valid where
  bids_kind := rfl
  asks_kind := rfl
  bids := .of_levels_eq_nil rfl
  asks := .of_levels_eq_nil rfl
  bids_present := .of_levels_eq_nil rfl
  asks_present := .of_levels_eq_nil rfl

theorem Valid.reset (hv : b.Valid) : b.reset.Valid where
  bids_kind := hv.bids_kind
  asks_kind := hv.asks_kind
  bids := BookSide.Valid.clear _
  asks := BookSide.Valid.clear _
  bids_present := .of_levels_eq_nil rfl
  asks_present := .of_levels_eq_nil rfl

theorem Valid.copyFrom (hv : b.Valid) (ho : o.Valid) : (b.copyFrom o).Valid where
  bids_kind := hv.bids_kind
  asks_kind := hv.asks_kind
  bids := ho.bids.copyFrom (ho.bids_kind.trans hv.bids_kind.symm)
  asks := ho.asks.copyFrom (ho.asks_kind.trans hv.asks_kind.symm)
  bids_present := ho.bids_present.copyFrom
  asks_present := ho.asks_present.copyFrom

theorem Valid.updateFrom (hv : b.Valid) (r : MarketRecord) : (b.updateFrom r).2.Valid := by
  by_cases ht : r.action = .trade
  · rw [updateFrom_trade ht]
    exact ⟨hv.bids_kind, hv.asks_kind, hv.bids, hv.asks, hv.bids_present, hv.asks_present⟩
  cases hd : r.isLevelDelta
  · -- every present entry of both sides is applied
    rw [updateFrom_bulk ht hd]
    exact ⟨by simp [hv.bids_kind], by simp [hv.asks_kind], hv.bids.updateFrom _,
      hv.asks.updateFrom _, hv.bids_present.updateFrom _, hv.asks_present.updateFrom _⟩
  · -- one level at a present price changes on the named side
    have hp := price_ne_of_isLevelDelta hd
    by_cases hs : r.side = .bid
    · rw [updateFrom_bid ht hd hs]
      exact ⟨by simp [hv.bids_kind], hv.asks_kind, hv.bids.update _ _ _, hv.asks,
        hv.bids_present.update hp, hv.asks_present⟩
    · rw [updateFrom_ask ht hd hs]
      exact ⟨hv.bids_kind, by simp [hv.asks_kind], hv.bids, hv.asks.update _ _ _,
        hv.bids_present, hv.asks_present.update hp⟩

theorem Valid.of_reachable (h : Book.Reachable (Set.range IncrementalBook.new) b) : b.Valid := by
  induction h with
  | fresh hb =>
    obtain ⟨m, rfl⟩ := hb
    exact Valid.new m
  | updateFrom r _ ih => exact ih.updateFrom r
  | reset _ ih => exact ih.reset
  | copyFrom _ _ ih ih' => exact ih.copyFrom ih'

end IncrementalBook

/-- Sides stay strictly sorted best first (hence at distinct prices), within
their bound and free of zero sizes, whatever updates, clearing, record entries
and copies reach them; and books reached through the book operations hold no
level at the absent price. -/
theorem reachable_side_invariant :
    (∀ (kind : SideKind) (m : Nat) (s : BookSide), BookSide.Reachable kind m s →
      s.levels.Pairwise (fun l l' => kind.Before l.price l'.price) ∧
      (s.levels.map (·.price)).Nodup ∧ s.depth ≤ m ∧ ∀ l ∈ s.levels, l.size ≠ 0) ∧
    ∀ b : IncrementalBook, Book.Reachable (Set.range IncrementalBook.new) b →
      ∀ l ∈ b.bids.levels ++ b.asks.levels, l.price ≠ absentI64 := by
  refine ⟨fun kind m s h => ?_, fun b h l hl => ?_⟩
  · obtain ⟨hkind, hm, hv⟩ := h.valid
    have hsorted : s.levels.Pairwise (fun l l' => kind.Before l.price l'.price) :=
      hkind ▸ hv.sorted
    refine ⟨hsorted, ?_, hm ▸ hv.bounded, hv.sized⟩
    -- strictly ordered prices are distinct
    exact List.pairwise_map.2 (hsorted.imp SideKind.Before.ne)
  · have hv := IncrementalBook.Valid.of_reachable h
    rcases List.mem_append.1 hl with hl | hl
    · exact hv.bids_present l hl
    · exact hv.asks_present l hl

/-- At a bound of one a better bid evicts the held one; and a fresh book that
applied one record. -/
theorem reachable_side_invariant_eviction :
    (BookSide.Reachable .bid 1 (((BookSide.new .bid 1).update 100 5 1).2.update 101 3 1).2 ∧
      (((BookSide.new .bid 1).update 100 5 1).2.update 101 3 1).2.levels.Pairwise
        (fun l l' => SideKind.bid.Before l.price l'.price) ∧
      ((((BookSide.new .bid 1).update 100 5 1).2.update 101 3 1).2.levels.map (·.price)).Nodup ∧
      (((BookSide.new .bid 1).update 100 5 1).2.update 101 3 1).2.depth ≤ 1 ∧
      ∀ l ∈ (((BookSide.new .bid 1).update 100 5 1).2.update 101 3 1).2.levels, l.size ≠ 0) ∧
    (Book.Reachable (Set.range IncrementalBook.new)
        (Book.updateFrom (IncrementalBook.new 1) MarketRecord.new).2 ∧
      ∀ l ∈ (Book.updateFrom (IncrementalBook.new 1) MarketRecord.new).2.bids.levels ++
        (Book.updateFrom (IncrementalBook.new 1) MarketRecord.new).2.asks.levels,
        l.price ≠ absentI64) := by
  have hs : BookSide.Reachable .bid 1
      (((BookSide.new .bid 1).update 100 5 1).2.update 101 3 1).2 :=
    .update _ _ _ (.update _ _ _ (.new 1))
  have hb : Book.Reachable (Set.range IncrementalBook.new)
      (Book.updateFrom (IncrementalBook.new 1) MarketRecord.new).2 :=
    .updateFrom _ (.fresh ⟨1, rfl⟩)
  exact ⟨⟨hs, reachable_side_invariant.1 _ _ _ hs⟩, hb, reachable_side_invariant.2 _ hb⟩

end DepthFeed
