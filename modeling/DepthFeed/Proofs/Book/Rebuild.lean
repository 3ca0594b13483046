import DepthFeed.Proofs.Book.Snapshot

/-!
# Books and the records they write

A written side lists its levels best first, so a fresh book rebuilding it
appends each entry after those already held until its bound
(`levels_updateFrom_of_after`); the null padding is skipped, and the
invariant rules out a level at the absent price. A snapshot book writes its
positions as they are, absent past its depth.
-/

namespace DepthFeed

theorem take_append_take_self {α : Type} (l m : List α) (n : Nat) :
    (l.take n ++ m).take n = (l ++ m).take n := by
  rw [List.take_append, List.take_append, List.take_take, List.length_take]
  congr 2
  · exact Nat.min_self n
  · omega

namespace SnapshotBook

theorem toList_writeSide (ls : List PriceLevel) :
    (writeSide ls).toList =
      (ls.take visibleDepth).map PriceLevel.toEntry ++
        List.replicate (visibleDepth - ls.length) LevelEntry.absent := by
  apply List.ext_getElem?
  intro j
  simp only [writeSide, Vector.toList_ofFn, List.getElem?_ofFn]
  by_cases hj : j < visibleDepth
  · rw [dif_pos (show j < 10 from hj)]
    by_cases hl : j < ls.length
    · rw [List.getElem?_append_left (by simp; omega), List.getElem?_map, List.getElem?_take,
        if_pos hj, List.getElem?_eq_getElem hl]
      simp
    · rw [List.getElem?_append_right (by simp; omega), List.getElem?_replicate,
        if_pos (by simp; omega), List.getElem?_eq_none (by omega)]
  · rw [dif_neg (show ¬j < 10 from hj), List.getElem?_eq_none (by simp [visibleDepth] at hj ⊢; omega)]

/-- Copying ten entries onto a side of depth `d` and writing it gives the
first `d` entries, then absent entries up to ten. -/
theorem toList_writeSide_copySide (ls : List PriceLevel) (es : Vector LevelEntry 10) :
    (writeSide (copySide ls es.toList 0).2).toList =
      es.toList.take ls.length ++ List.replicate (visibleDepth - ls.length) LevelEntry.absent := by
  rw [toList_writeSide, length_copySide]
  congr 1
  apply List.ext_getElem?
  intro j
  rw [List.getElem?_map, List.getElem?_take, List.getElem?_take]
  by_cases hj : j < visibleDepth
  · by_cases hl : j < ls.length
    · rw [if_pos hj, if_pos hl, getElem?_copySide_of_lt 0 hl (by simpa [visibleDepth] using hj)]
      simp [List.getElem?_eq_getElem (show j < es.toList.length by simpa [visibleDepth] using hj)]
    · rw [if_pos hj, if_neg hl, List.getElem?_eq_none (by simp; omega)]
      rfl
  · rw [if_neg hj]
    split
    · rw [List.getElem?_eq_none (by simp [visibleDepth] at hj ⊢; omega)]
      rfl
    · rfl

end SnapshotBook

namespace BookSide

variable {t : BookSide} {price size count : Int64}

theorem writeEntries_eq_writeSide (s : BookSide) :
    s.writeEntries = SnapshotBook.writeSide s.levels := rfl

theorem writeEntries_eq_of_take {s s' : BookSide} (h : s'.levels = s.levels.take visibleDepth) :
    s'.writeEntries = s.writeEntries := by
  rw [writeEntries_eq_writeSide, writeEntries_eq_writeSide, ← Vector.toList_inj,
    SnapshotBook.toList_writeSide, SnapshotBook.toList_writeSide, h, List.take_take,
    Nat.min_self, List.length_take]
  congr 2
  omega

theorem search_eq_error_length (hs : t.Sorted)
    (hafter : ∀ l ∈ t.levels, t.kind.Before l.price price) :
    t.search price = .error t.levels.length := by
  cases h : t.search price with
  | ok i =>
    obtain ⟨hi, hp⟩ := search_ok h
    exact absurd (hp ▸ hafter _ (List.getElem_mem hi)) (SideKind.Before.irrefl _)
  | error i =>
    have hsplit := search_error hs h
    -- a level past the split would come both before and after the price
    have hge : t.levels.length ≤ i := by
      by_contra hlt
      obtain ⟨l, hl⟩ := List.exists_mem_of_ne_nil _ (by rw [Ne, List.drop_eq_nil_iff]; omega)
      exact (hafter l (List.mem_of_mem_drop hl)).asymm (hsplit.after l hl)
    have hle := hsplit.le_length
    rw [show i = t.levels.length by omega]

theorem levels_update_of_after (hs : t.Sorted)
    (hafter : ∀ l ∈ t.levels, t.kind.Before l.price price) (hsz : size ≠ 0)
    (hbound : t.levels.length ≤ t.maxLevels) :
    (t.update price size count).2.levels = (t.levels ++ [(⟨price, size, count⟩ : PriceLevel)]).take t.maxLevels := by
  have hsearch := search_eq_error_length hs hafter
  rcases update_cases t price size count with
    ⟨i, hi, -, -⟩ | ⟨i, hi, -, -⟩ | ⟨i, -, hz, -⟩ | ⟨i, hi, -, hcap, h⟩ | ⟨i, hi, -, hcap, h⟩
  · simp [hsearch] at hi
  · simp [hsearch] at hi
  · exact absurd hz hsz
  · -- the side is full: the level is dropped
    rw [hsearch, Except.error.injEq] at hi
    subst hi
    rw [h, List.take_append_of_le_length hcap, List.take_of_length_le (by omega)]
  · -- there is room: the level goes last
    rw [hsearch, Except.error.injEq] at hi
    subst hi
    rw [h]
    simp only [show t.levels.length ≠ t.maxLevels by omega, if_false, List.insertIdx_length_self]
    rw [List.take_of_length_le (by simp; omega)]

/-- Entries that each come after every level already held are appended in
turn, as far as the bound allows. -/
theorem levels_updateFrom_of_after {L : List PriceLevel}
    (hsorted : (t.levels ++ L).Pairwise fun l l' => t.kind.Before l.price l'.price)
    (hbound : t.levels.length ≤ t.maxLevels)
    (hL : ∀ l ∈ L, l.size ≠ 0 ∧ l.price ≠ absentI64) :
    (t.updateFrom (L.map PriceLevel.toEntry)).2.levels = (t.levels ++ L).take t.maxLevels := by
  induction L generalizing t with
  | nil => simp [updateFrom_eq_foldl, List.take_of_length_le hbound]
  | cons x L ih =>
    obtain ⟨hsz, hp⟩ := hL x (by simp)
    have hnull : (PriceLevel.toEntry x).isNull = false := by
      simpa [LevelEntry.isNull, PriceLevel.toEntry] using hp
    obtain ⟨hA, -, hAL⟩ := List.pairwise_append.1 hsorted
    have hafter : ∀ l ∈ t.levels, t.kind.Before l.price x.price := fun l hl => hAL l hl x (by simp)
    have hstep : (t.update x.price x.size x.count).2.levels = (t.levels ++ [x]).take t.maxLevels :=
      levels_update_of_after hA hafter hsz hbound
    rw [List.map_cons, updateFrom_cons, hnull, if_neg Bool.false_ne_true]
    dsimp only [PriceLevel.toEntry]
    -- the rest comes after what the first entry left, which is a prefix
    have hsub : (t.update x.price x.size x.count).2.levels ++ L |>.Sublist (t.levels ++ x :: L) := by
      rw [hstep, List.append_cons t.levels x L]
      exact (List.take_sublist _ _).append_right L
    rw [ih (by simpa using hsorted.sublist hsub) (by rw [hstep, maxLevels_update, List.length_take]; exact Nat.min_le_left _ _)
      (fun l hl => hL l (by simp [hl])), hstep, maxLevels_update, take_append_take_self,
      List.append_assoc, List.singleton_append]

/-- Writing a valid side and applying the entries to an empty side of the
same kind rebuilds the side's first levels, as many as ten and the bound allow. -/
theorem levels_updateFrom_writeEntries {s : BookSide} (hv : s.Valid) (hp : s.Present) (m : Nat) :
    ((BookSide.new s.kind m).updateFrom s.writeEntries.toList).2.levels =
      s.levels.take (min visibleDepth m) := by
  rw [writeEntries_eq_writeSide, SnapshotBook.toList_writeSide,
    updateFrom_append_null _ _ _ (fun e he => by simp [(List.mem_replicate.1 he).2,
      LevelEntry.isNull, LevelEntry.absent])]
  rw [levels_updateFrom_of_after (by simpa [BookSide.new] using hv.sorted.take)
    (by simp [BookSide.new])
    (fun l hl => ⟨hv.sized l (List.mem_of_mem_take hl), hp l (List.mem_of_mem_take hl)⟩)]
  simp [BookSide.new, List.take_take, Nat.min_comm]

end BookSide

namespace IncrementalBook

variable {b : IncrementalBook} {r : MarketRecord}

@[simp] theorem writeTo_action : (b.writeTo r).action = r.action := rfl

@[simp] theorem writeTo_isLevelDelta : (b.writeTo r).isLevelDelta = r.isLevelDelta := rfl

/-- A book rebuilt from the record a valid book wrote: the same sequence number,
each side's first levels up to ten and the bound. -/
theorem rebuild (hv : b.Valid) (ha : r.action = .modify) (hd : r.isLevelDelta = false) (m : Nat) :
    ((new m).updateFrom (b.writeTo r)).2.sequence = b.sequence ∧
    ((new m).updateFrom (b.writeTo r)).2.bids.levels = b.bids.levels.take (min visibleDepth m) ∧
    ((new m).updateFrom (b.writeTo r)).2.asks.levels = b.asks.levels.take (min visibleDepth m) := by
  rw [updateFrom_bulk (by simp [ha]) (by simpa using hd)]
  have hbids := BookSide.levels_updateFrom_writeEntries hv.bids hv.bids_present m
  have hasks := BookSide.levels_updateFrom_writeEntries hv.asks hv.asks_present m
  rw [hv.bids_kind] at hbids
  rw [hv.asks_kind] at hasks
  exact ⟨rfl, hbids, hasks⟩

end IncrementalBook

/-- A book and the record it writes agree both ways. An incremental book that
keeps its invariant writes a modify record, not a single-level change, from
which a fresh book of any bound takes the same sequence number and the first
`min 10 m'` levels of each side, and with a bound of ten or more writes that
record back exactly. A snapshot book reached through the book operations,
after any record other than a trade, writes the record's sequence number,
its entries below the book's depth, and absent entries from the depth to ten. -/
theorem books_records_agree :
    (∀ b : IncrementalBook, b.Valid → ∀ r : MarketRecord, r.action = .modify →
      r.isLevelDelta = false → ∀ m' : Nat,
        ((IncrementalBook.new m').updateFrom (b.writeTo r)).2.sequence = b.sequence ∧
        ((IncrementalBook.new m').updateFrom (b.writeTo r)).2.bids.levels =
          b.bids.levels.take (min visibleDepth m') ∧
        ((IncrementalBook.new m').updateFrom (b.writeTo r)).2.asks.levels =
          b.asks.levels.take (min visibleDepth m') ∧
        (visibleDepth ≤ m' → ∀ x : MarketRecord,
          (((IncrementalBook.new m').updateFrom (b.writeTo r)).2.writeTo x).sequence =
            (b.writeTo r).sequence ∧
          (((IncrementalBook.new m').updateFrom (b.writeTo r)).2.writeTo x).bids =
            (b.writeTo r).bids ∧
          (((IncrementalBook.new m').updateFrom (b.writeTo r)).2.writeTo x).asks =
            (b.writeTo r).asks)) ∧
    ∀ b : SnapshotBook, Book.Reachable (Set.range SnapshotBook.new) b →
      ∀ r : MarketRecord, r.action ≠ .trade → ∀ x : MarketRecord,
        (((b.updateFrom r).2.writeTo x).sequence = r.sequence ∧
        ((b.updateFrom r).2.writeTo x).bids.toList =
          r.bids.toList.take b.depth ++ List.replicate (visibleDepth - b.depth) LevelEntry.absent ∧
        ((b.updateFrom r).2.writeTo x).asks.toList =
          r.asks.toList.take b.depth ++ List.replicate (visibleDepth - b.depth) LevelEntry.absent) := by
  refine ⟨fun b hv r ha hd m' => ?_, fun b _ r ht x => ?_⟩
  · obtain ⟨hseq, hbids, hasks⟩ := IncrementalBook.rebuild hv ha hd m'
    refine ⟨hseq, hbids, hasks, fun hm x => ⟨hseq, ?_, ?_⟩⟩
    -- with ten levels or more every written entry is rebuilt
    · exact BookSide.writeEntries_eq_of_take (by rw [hbids, min_eq_left hm])
    · exact BookSide.writeEntries_eq_of_take (by rw [hasks, min_eq_left hm])
  · have hlen := b.sides_length
    rw [SnapshotBook.updateFrom_of_ne_trade ht]
    refine ⟨rfl, ?_, ?_⟩
    · exact SnapshotBook.toList_writeSide_copySide b.bids r.bids
    · have hasks := SnapshotBook.toList_writeSide_copySide b.asks r.asks
      rw [hlen] at hasks
      exact hasks

/-- An incremental book holding a bid and an ask writes a record that a book
of bound ten takes back level for level; and a snapshot book holding a bid
and an ask writes the next snapshot's entries below its depth and absent
ones above. -/
theorem books_records_agree_two_sided :
    ∃ (b : IncrementalBook) (s : SnapshotBook) (r : MarketRecord),
      b.Valid ∧ b.bids.levels ≠ [] ∧ b.asks.levels ≠ [] ∧ r.action = .modify ∧
      r.isLevelDelta = false ∧
      ((IncrementalBook.new 10).updateFrom (b.writeTo r)).2.bids.levels =
        b.bids.levels.take (min visibleDepth 10) ∧
      ((IncrementalBook.new 10).updateFrom (b.writeTo r)).2.asks.levels =
        b.asks.levels.take (min visibleDepth 10) ∧
      (((IncrementalBook.new 10).updateFrom (b.writeTo r)).2.writeTo r).asks = (b.writeTo r).asks ∧
      Book.Reachable (Set.range SnapshotBook.new) s ∧ s.bids[0]? ≠ some .empty ∧
      s.asks[0]? ≠ some .empty ∧ r.action ≠ .trade ∧
      ((s.updateFrom r).2.writeTo r).asks.toList =
        r.asks.toList.take s.depth ++ List.replicate (visibleDepth - s.depth) LevelEntry.absent := by
  -- one bid and one ask, each a level delta, then a full record of both sides
  let bid : MarketRecord := { MarketRecord.new with sideRaw := 0, price := 100, size := 5, sequence := 1 }
  let ask : MarketRecord := { MarketRecord.new with sideRaw := 1, price := 101, size := 3, sequence := 2 }
  let r : MarketRecord :=
    { MarketRecord.new with
      sequence := 3
      bids := MarketRecord.new.bids.set 0 ⟨99, 4, 2⟩
      asks := MarketRecord.new.asks.set 0 ⟨102, 1, 1⟩ }
  have hv : (((IncrementalBook.new 4).updateFrom bid).2.updateFrom ask).2.Valid :=
    ((IncrementalBook.Valid.new 4).updateFrom bid).updateFrom ask
  have ha : r.action = .modify := rfl
  have hd : r.isLevelDelta = false := by decide
  have hs : Book.Reachable (Set.range SnapshotBook.new) ((SnapshotBook.new 2).updateFrom r).2 :=
    .updateFrom r (.fresh ⟨2, rfl⟩)
  have ht : r.action ≠ .trade := by simp [ha]
  obtain ⟨-, hbids, hasks, hwrite⟩ := books_records_agree.1 _ hv r ha hd 10
  exact ⟨_, _, r, hv, by decide, by decide, ha, hd, hbids, hasks, (hwrite le_rfl r).2.2, hs,
    by decide, by decide, ht, (books_records_agree.2 _ hs r ht r).2.2⟩

end DepthFeed
