import Mathlib.Data.Set.Operations
import DepthFeed.Proofs.Book.SortedMap
import DepthFeed.Proofs.Book.Invariant
import DepthFeed.Proofs.Book.Snapshot

/-!
# Applying a record twice

A connect may replay the record its snapshot already holds. On a side the
argument runs through `BookSide.Settled`, an update the side already shows: a
settled update changes nothing, an update settles itself, and an update at a
worse price keeps an earlier one settled. So after entries listed best first
every entry is settled. The order is needed: an ask side of capacity one
holding 5 ignores 10, then removes 5, and a second pass finds room for 10.
-/

namespace DepthFeed

/-- The present entries of a record side come strictly best first. -/
def SideKind.Ordered (k : SideKind) (es : List LevelEntry) : Prop :=
  (es.filter fun e => !e.isNull).Pairwise fun e e' => k.Before e.price e'.price

namespace SideKind

variable {k : SideKind} {e : LevelEntry} {es : List LevelEntry}

theorem Ordered.tail (h : k.Ordered (e :: es)) : k.Ordered es := by
  unfold Ordered at h ⊢
  rw [List.filter_cons] at h
  split at h
  · exact (List.pairwise_cons.1 h).2
  · exact h

theorem Ordered.head (h : k.Ordered (e :: es)) (hnull : e.isNull = false) :
    ∀ e' ∈ es, e'.isNull = false → k.Before e.price e'.price := by
  unfold Ordered at h
  rw [List.filter_cons, if_pos (by simp [hnull])] at h
  exact fun e' he' hnull' => (List.pairwise_cons.1 h).1 e' (List.mem_filter.2 ⟨he', by simp [hnull']⟩)

end SideKind

namespace BookSide

variable {s : BookSide} {price size count : Int64}

/-- An update the side already shows: removing a price it does not hold,
writing a level it holds as given, or inserting a price ranked past the bound. -/
def Settled (s : BookSide) (price size count : Int64) : Prop :=
  (size = 0 ∧ ¬s.Holds price) ∨
    (size ≠ 0 ∧ ((⟨price, size, count⟩ : PriceLevel) ∈ s.levels ∨ s.maxLevels ≤ s.rank price))

/-! ## Ranks at the bound -/

theorem rank_le_length (s : BookSide) (price : Int64) : s.rank price ≤ s.levels.length :=
  List.countP_le_length

theorem Sorted.eq_of_price_eq (hs : s.Sorted) {l l' : PriceLevel} (hl : l ∈ s.levels)
    (hl' : l' ∈ s.levels) (hp : l.price = l'.price) : l = l' := by
  obtain ⟨i, hi, rfl⟩ := List.mem_iff_getElem.1 hl
  obtain ⟨j, hj, rfl⟩ := List.mem_iff_getElem.1 hl'
  by_cases hij : i = j
  · subst hij
    rfl
  · exact absurd hp (hs.price_ne hi hj hij)

theorem Valid.before_of_maxLevels_le_rank (hv : s.Valid) (hk : s.maxLevels ≤ s.rank price) :
    ∀ l ∈ s.levels, s.kind.Before l.price price := by
  have hb : s.levels.length ≤ s.maxLevels := hv.bounded
  have hlen : s.levels.countP (fun l => decide (s.kind.Before l.price price)) = s.levels.length :=
    Nat.le_antisymm (rank_le_length s price) (by unfold rank at hk; omega)
  intro l hl
  simpa using List.countP_eq_length.1 hlen l hl

theorem not_holds_of_before (h : ∀ l ∈ s.levels, s.kind.Before l.price price) : ¬s.Holds price :=
  fun ⟨l, hl, hp⟩ => SideKind.Before.irrefl price (hp ▸ h l hl)

theorem settled_of_before (hfull : s.maxLevels ≤ s.levels.length)
    (h : ∀ l ∈ s.levels, s.kind.Before l.price price) (size count : Int64) :
    s.Settled price size count := by
  by_cases hz : size = 0
  · exact .inl ⟨hz, not_holds_of_before h⟩
  · have hrank : s.rank price = s.levels.length :=
      List.countP_eq_length.2 fun l hl => decide_eq_true (h l hl)
    exact .inr ⟨hz, .inr (hrank ▸ hfull)⟩

/-! ## One update -/

theorem update_eq_self_of_settled (hv : s.Valid) (h : s.Settled price size count) :
    (s.update price size count).2 = s := by
  rcases h with ⟨hz, hh⟩ | ⟨hz, hmem | hk⟩
  · rw [update_of_not_holds_of_eq_zero hv.sorted hh hz]
  · -- the only level at the price is the one written
    rw [update_of_holds hv.sorted ⟨_, hmem, rfl⟩ hz]
    have hmap : s.levels.map (fun l => if l.price = price then ⟨price, size, count⟩ else l) =
        s.levels := by
      refine (List.map_congr_left fun l hl => ?_).trans (List.map_id _)
      split
      · rename_i hp
        exact hv.sorted.eq_of_price_eq hmem hl hp.symm
      · rfl
    rw [hmap]
  · have hh := not_holds_of_before (hv.before_of_maxLevels_le_rank hk)
    rw [update_of_maxLevels_le_rank hv.sorted hh hz hk]

theorem settled_update (hv : s.Valid) (price size count : Int64) :
    (s.update price size count).2.Settled price size count := by
  by_cases hz : size = 0
  · refine .inl ⟨hz, ?_⟩
    by_cases hh : s.Holds price
    · rw [update_of_holds_of_eq_zero hv.sorted hh hz]
      rintro ⟨l, hl, hp⟩
      simp [hp] at hl
    · rwa [update_of_not_holds_of_eq_zero hv.sorted hh hz]
  · refine .inr ⟨hz, ?_⟩
    by_cases hh : s.Holds price
    · obtain ⟨l, hl, hp⟩ := hh
      rw [update_of_holds hv.sorted ⟨l, hl, hp⟩ hz]
      exact .inl (List.mem_map.2 ⟨l, hl, if_pos hp⟩)
    · by_cases hk : s.maxLevels ≤ s.rank price
      · rw [update_of_maxLevels_le_rank hv.sorted hh hz hk]
        exact .inr hk
      · have hlt : s.rank price < s.maxLevels := by omega
        rw [update_of_rank_lt hv hh hz hlt]
        exact .inl (List.mem_of_getElem? (getElem?_take_insertIdx_rank hv hh hlt _))

/-- An update keeps every level before its price: it removes or overwrites
only its own price, and an insertion drops the last level only when its
price ranks within the bound, so after the kept level. -/
theorem mem_update_of_before (hv : s.Valid) {l : PriceLevel} (hl : l ∈ s.levels)
    (hq : s.kind.Before l.price price) : l ∈ (s.update price size count).2.levels := by
  have hne : l.price ≠ price := hq.ne
  by_cases hh : s.Holds price
  · by_cases hz : size = 0
    · rw [update_of_holds_of_eq_zero hv.sorted hh hz]
      exact List.mem_filter.2 ⟨hl, by simpa using hne⟩
    · rw [update_of_holds hv.sorted hh hz]
      exact List.mem_map.2 ⟨l, hl, if_neg hne⟩
  by_cases hz : size = 0
  · rwa [update_of_not_holds_of_eq_zero hv.sorted hh hz]
  by_cases hk : s.maxLevels ≤ s.rank price
  · rwa [update_of_maxLevels_le_rank hv.sorted hh hz hk]
  have hlt : s.rank price < s.maxLevels := by omega
  have hsplit := splits_rank hv.sorted hh
  -- the level lies before the split, which the insertion leaves in place
  have htake : l ∈ s.levels.take (s.rank price) := by
    rw [← List.take_append_drop (s.rank price) s.levels, List.mem_append] at hl
    exact hl.resolve_right fun hd => hq.asymm (hsplit.after l hd)
  have hin : l ∈ ((s.levels.insertIdx (s.rank price) ⟨price, size, count⟩).take s.maxLevels).take
      (s.rank price) := by
    rw [List.take_take, Nat.min_eq_left hlt.le, List.take_insertIdx_eq_take_of_le _ _ _ _ le_rfl]
    exact htake
  rw [update_of_rank_lt hv hh hz hlt]
  exact List.mem_of_mem_take hin

theorem Settled.update_of_before (hv : s.Valid) (h : s.Settled price size count) {q : Int64}
    (hq : s.kind.Before price q) (size' count' : Int64) :
    (s.update q size' count').2.Settled price size count := by
  rcases h with ⟨hz, hh⟩ | ⟨hz, hmem | hk⟩
  · -- the price stays absent: the update brings in a level at `q` at most
    refine .inl ⟨hz, fun ⟨l, hl, hp⟩ => ?_⟩
    rcases mem_update hl with hl | ⟨rfl, -⟩
    · exact hh ⟨l, hl, hp⟩
    · exact hq.ne hp.symm
  · exact .inr ⟨hz, .inl (mem_update_of_before hv hmem hq)⟩
  · -- a full side of levels before the price has them all before `q` too
    have hall := hv.before_of_maxLevels_le_rank hk
    have hfull : s.maxLevels ≤ s.levels.length := hk.trans (rank_le_length s price)
    rw [update_eq_self_of_settled hv
      (settled_of_before hfull (fun l hl => (hall l hl).trans hq) size' count')]
    exact .inr ⟨hz, .inr hk⟩

theorem update_update (hv : s.Valid) (price size count : Int64) :
    ((s.update price size count).2.update price size count).2 = (s.update price size count).2 :=
  update_eq_self_of_settled (hv.update price size count) (settled_update hv price size count)

/-! ## A record's entries -/

theorem Settled.updateFrom (hv : s.Valid) (h : s.Settled price size count) {es : List LevelEntry}
    (hes : ∀ e ∈ es, e.isNull = false → s.kind.Before price e.price) :
    (s.updateFrom es).2.Settled price size count := by
  refine (updateFrom_induction
    (P := fun acc => acc.2.Valid ∧ acc.2.kind = s.kind ∧ acc.2.Settled price size count)
    s es ⟨hv, rfl, h⟩ fun acc e he hnull ⟨hv', hk, hs'⟩ => ?_).2.2
  exact ⟨hv'.update _ _ _, kind_update.trans hk,
    hs'.update_of_before hv' (hk ▸ hes e he hnull) _ _⟩

theorem updateFrom_eq_self (hv : s.Valid) {es : List LevelEntry}
    (hes : ∀ e ∈ es, e.isNull = false → s.Settled e.price e.size e.count) :
    (s.updateFrom es).2 = s := by
  induction es with
  | nil => rfl
  | cons e es ih =>
    have hskip : (if e.isNull then s else (s.update e.price e.size e.count).2) = s := by
      split
      · rfl
      · rename_i hnull
        exact update_eq_self_of_settled hv (hes e List.mem_cons_self (by simpa using hnull))
    rw [updateFrom_cons, hskip]
    exact ih fun e' he' => hes e' (List.mem_cons_of_mem _ he')

theorem settled_updateFrom (hv : s.Valid) {es : List LevelEntry} (hes : s.kind.Ordered es) :
    ∀ e ∈ es, e.isNull = false → (s.updateFrom es).2.Settled e.price e.size e.count := by
  induction es generalizing s with
  | nil => simp
  | cons e es ih =>
    intro e' he' hnull'
    rw [updateFrom_cons]
    cases hnull : e.isNull
    · -- the first entry is applied, and every later one comes after it
      rw [if_neg Bool.false_ne_true]
      have htail : (s.update e.price e.size e.count).2.kind.Ordered es := by
        rw [kind_update]
        exact hes.tail
      rcases List.mem_cons.1 he' with rfl | he'
      · refine (settled_update hv _ _ _).updateFrom (hv.update _ _ _) fun e'' he'' hnull'' => ?_
        rw [kind_update]
        exact hes.head hnull e'' he'' hnull''
      · exact ih (hv.update _ _ _) htail e' he' hnull'
    · rw [if_pos rfl]
      rcases List.mem_cons.1 he' with rfl | he'
      · exact absurd hnull (by simp [hnull'])
      · exact ih hv hes.tail e' he' hnull'

theorem updateFrom_updateFrom (hv : s.Valid) {es : List LevelEntry} (hes : s.kind.Ordered es) :
    ((s.updateFrom es).2.updateFrom es).2 = (s.updateFrom es).2 :=
  updateFrom_eq_self (hv.updateFrom es) (settled_updateFrom hv hes)

-- Out of order, a removal after an ignored insertion makes room for it on the second pass.
example : let s : BookSide := ⟨.ask, 1, [⟨5, 1, 1⟩]⟩
    let es : List LevelEntry := [⟨10, 1, 1⟩, ⟨5, 0, 0⟩]
    ((s.updateFrom es).2.updateFrom es).2 ≠ (s.updateFrom es).2 := by
  decide

end BookSide

namespace SnapshotBook

theorem copySide_copySide (ls : List PriceLevel) (es : List LevelEntry) (pos pos' : Nat) :
    (copySide (copySide ls es pos).2 es pos').2 = (copySide ls es pos).2 := by
  refine List.ext_getElem? fun j => ?_
  by_cases he : j < es.length
  · by_cases hl : j < ls.length
    · rw [getElem?_copySide_of_lt pos' (by simpa using hl) he, getElem?_copySide_of_lt pos hl he]
    · rw [List.getElem?_eq_none (by simp; omega), List.getElem?_eq_none (by simp; omega)]
  · rw [getElem?_copySide_of_le pos' (by omega)]

theorem updateFrom_updateFrom (b : SnapshotBook) (r : MarketRecord) :
    ((b.updateFrom r).2.updateFrom r).2 = (b.updateFrom r).2 := by
  by_cases ht : r.action = .trade
  · simp [updateFrom_trade ht]
  · simp [updateFrom_of_ne_trade ht, copySide_copySide]

end SnapshotBook

namespace IncrementalBook

variable {b : IncrementalBook} {r : MarketRecord}

/-- A valid book takes a trade, a single-level change, or a record whose
sides list their present entries best first, a second time without change. -/
theorem updateFrom_updateFrom (hv : b.Valid)
    (hr : r.action = .trade ∨ r.isLevelDelta = true ∨
      (SideKind.bid.Ordered r.bids.toList ∧ SideKind.ask.Ordered r.asks.toList)) :
    ((b.updateFrom r).2.updateFrom r).2 = (b.updateFrom r).2 := by
  by_cases ht : r.action = .trade
  · simp [updateFrom_trade ht]
  cases hd : r.isLevelDelta
  · -- each side takes its entries again
    have hord := (hr.resolve_left ht).resolve_left (by simp [hd])
    have hbids : b.bids.kind.Ordered r.bids.toList := hv.bids_kind ▸ hord.1
    have hasks : b.asks.kind.Ordered r.asks.toList := hv.asks_kind ▸ hord.2
    simp [updateFrom_bulk ht hd, BookSide.updateFrom_updateFrom hv.bids hbids,
      BookSide.updateFrom_updateFrom hv.asks hasks]
  · -- the named side takes its level again
    by_cases hs : r.side = .bid
    · simp [updateFrom_bid ht hd hs, BookSide.update_update hv.bids]
    · simp [updateFrom_ask ht hd hs, BookSide.update_update hv.asks]

end IncrementalBook

/-- Applying a record a second time leaves a book as the first time left it:
any snapshot book with any record; an incremental book reached through the
book operations with a trade, a single-level change, or a record whose sides
list their present entries strictly best first. -/
theorem update_from_idempotent :
    (∀ (b : SnapshotBook) (r : MarketRecord),
      (Book.updateFrom (Book.updateFrom b r).2 r).2 = (Book.updateFrom b r).2) ∧
    ∀ b : IncrementalBook, Book.Reachable (Set.range IncrementalBook.new) b →
      ∀ r : MarketRecord, (r.action = .trade ∨ r.isLevelDelta = true ∨
        (SideKind.bid.Ordered r.bids.toList ∧ SideKind.ask.Ordered r.asks.toList)) →
      (Book.updateFrom (Book.updateFrom b r).2 r).2 = (Book.updateFrom b r).2 :=
  ⟨fun b r => SnapshotBook.updateFrom_updateFrom b r,
    fun _ hb _ hr => IncrementalBook.updateFrom_updateFrom (IncrementalBook.Valid.of_reachable hb) hr⟩

/-- A fresh book of one level per side takes an ask record twice: the best ask
the first time, the second ask ranked past the bound both times. -/
theorem update_from_idempotent_replay :
    let r : MarketRecord := { MarketRecord.new with
      asks := #v[⟨5, 1, 1⟩, ⟨10, 1, 1⟩, .absent, .absent, .absent, .absent, .absent, .absent,
        .absent, .absent] }
    Book.Reachable (Set.range IncrementalBook.new) (IncrementalBook.new 1) ∧
    (r.action = .trade ∨ r.isLevelDelta = true ∨
      (SideKind.bid.Ordered r.bids.toList ∧ SideKind.ask.Ordered r.asks.toList)) ∧
    (Book.updateFrom (Book.updateFrom (IncrementalBook.new 1) r).2 r).2 =
      (Book.updateFrom (IncrementalBook.new 1) r).2 := by
  intro r
  have hb : Book.Reachable (Set.range IncrementalBook.new) (IncrementalBook.new 1) :=
    .fresh ⟨1, rfl⟩
  have hr : r.action = .trade ∨ r.isLevelDelta = true ∨
      (SideKind.bid.Ordered r.bids.toList ∧ SideKind.ask.Ordered r.asks.toList) :=
    .inr (.inr ⟨by unfold SideKind.Ordered; decide, by unfold SideKind.Ordered; decide⟩)
  exact ⟨hb, hr, update_from_idempotent.2 _ hb r hr⟩

end DepthFeed
