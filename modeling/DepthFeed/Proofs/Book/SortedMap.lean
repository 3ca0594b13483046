import Mathlib.Data.List.InsertIdx
import DepthFeed.Proofs.Book.Update

/-!
# A side as a bounded sorted map

A valid side stands for a map from prices to levels, best first, holding at
most `maxLevels` keys. A price's rank is how many held levels come before it;
on a sorted side the search answers with the rank (`search_eq_rank`), and an
update erases, overwrites, or inserts at the rank, the worst level dropping
out exactly when the side was full.
-/

namespace DepthFeed

/-- Inserting at position `i` and keeping `n + 1` elements is keeping `n`
elements and inserting, when the insertion lands within them. -/
theorem take_succ_insertIdx {α : Type} (l : List α) (x : α) {i n : Nat} (h : i ≤ n) :
    (l.insertIdx i x).take (n + 1) = (l.take n).insertIdx i x := by
  induction l generalizing i n with
  | nil =>
    cases i with
    | zero => simp
    | succ i => simp [List.insertIdx_succ_nil]
  | cons a l ih =>
    cases i with
    | zero => simp [List.take_succ_cons]
    | succ i =>
      obtain ⟨n, rfl⟩ : ∃ n', n = n' + 1 := ⟨n - 1, by omega⟩
      rw [List.insertIdx_succ_cons, List.take_succ_cons, List.take_succ_cons,
        List.insertIdx_succ_cons, ih (by omega)]

namespace BookSide

variable {s : BookSide} {price size count : Int64}

/-- The number of held levels that come strictly before a price: the position
the price holds, or would take. -/
def rank (s : BookSide) (price : Int64) : Nat :=
  s.levels.countP fun l => decide (s.kind.Before l.price price)

def Holds (s : BookSide) (price : Int64) : Prop := ∃ l ∈ s.levels, l.price = price

instance (s : BookSide) (price : Int64) : Decidable (s.Holds price) :=
  inferInstanceAs (Decidable (∃ l ∈ s.levels, l.price = price))

/-! ## Where the search lands -/

/-- A position with every level before it ahead of the price, and none from
it on, is the price's rank. -/
theorem rank_eq_of_split {i : Nat} (hi : i ≤ s.levels.length)
    (hbefore : ∀ l ∈ s.levels.take i, s.kind.Before l.price price)
    (hrest : ∀ l ∈ s.levels.drop i, ¬s.kind.Before l.price price) : s.rank price = i := by
  have htake : (s.levels.take i).countP (fun l => decide (s.kind.Before l.price price)) = i := by
    rw [List.countP_eq_length.2 fun l hl => decide_eq_true (hbefore l hl), List.length_take]
    exact Nat.min_eq_left hi
  have hdrop : (s.levels.drop i).countP (fun l => decide (s.kind.Before l.price price)) = 0 :=
    List.countP_eq_zero.2 fun l hl => by simpa using hrest l hl
  rw [rank, ← List.take_append_drop i s.levels, List.countP_append, htake, hdrop, Nat.add_zero]

theorem Splits.rank_eq {i : Nat} (h : Splits s price i) : s.rank price = i :=
  rank_eq_of_split h.le_length h.before fun l hl => (h.after l hl).asymm

theorem Splits.not_holds {i : Nat} (h : Splits s price i) : ¬s.Holds price :=
  fun ⟨_, hl, hp⟩ => h.not_mem hl hp

theorem Sorted.price_ne (hs : s.Sorted) {i j : Nat} (hi : i < s.levels.length)
    (hj : j < s.levels.length) (hij : i ≠ j) : s.levels[i].price ≠ s.levels[j].price := by
  rcases Nat.lt_or_gt_of_ne hij with hlt | hlt
  · exact (hs.before hi hj hlt).ne
  · exact ((hs.before hj hi hlt).ne).symm

theorem Sorted.rank_eq (hs : s.Sorted) {i : Nat} (hi : i < s.levels.length)
    (hp : s.levels[i].price = price) : s.rank price = i := by
  refine rank_eq_of_split hi.le (fun l hl => ?_) (fun l hl => ?_)
  · obtain ⟨j, hj, rfl⟩ := List.mem_take_iff_getElem.1 hl
    exact hp ▸ hs.before _ hi (by omega)
  · obtain ⟨j, hj, rfl⟩ := List.mem_drop_iff_getElem.1 hl
    have hij : i + j < s.levels.length := by omega
    rcases Nat.eq_zero_or_pos j with rfl | hpos
    · simpa [hp] using SideKind.Before.irrefl price
    · -- a level past the price's own comes after it
      have hb : s.kind.Before s.levels[i].price s.levels[i + j].price := hs.before hi hij (by omega)
      rw [hp] at hb
      exact hb.asymm

/-- On a sorted side the search finds a held price at its rank, and places a
price not held at its rank. -/
theorem search_eq_rank (hs : s.Sorted) :
    s.search price = if s.Holds price then .ok (s.rank price) else .error (s.rank price) := by
  cases h : s.search price with
  | ok i =>
    obtain ⟨hi, hp⟩ := search_ok h
    rw [if_pos ⟨_, List.getElem_mem hi, hp⟩, hs.rank_eq hi hp]
  | error i =>
    have hsplit := search_error hs h
    rw [if_neg hsplit.not_holds, hsplit.rank_eq]

theorem Holds.getElem_rank (hs : s.Sorted) (hh : s.Holds price) :
    ∃ hi : s.rank price < s.levels.length, s.levels[s.rank price].price = price := by
  have h : s.search price = if s.Holds price then .ok (s.rank price) else .error (s.rank price) :=
    search_eq_rank hs
  rw [if_pos hh] at h
  exact search_ok h

theorem splits_rank (hs : s.Sorted) (hh : ¬s.Holds price) : Splits s price (s.rank price) := by
  have h : s.search price = if s.Holds price then .ok (s.rank price) else .error (s.rank price) :=
    search_eq_rank hs
  rw [if_neg hh] at h
  exact search_error hs h

/-! ## The three changes as map operations -/

theorem eraseIdx_eq_filter (hs : s.Sorted) {i : Nat} (hi : i < s.levels.length)
    (hp : s.levels[i].price = price) :
    s.levels.eraseIdx i = s.levels.filter (·.price ≠ price) := by
  have hne : ∀ j (hj : j < s.levels.length), j ≠ i → s.levels[j].price ≠ price :=
    fun j hj hji => hp ▸ hs.price_ne hj hi hji
  have hsplit : s.levels = s.levels.take i ++ s.levels[i] :: s.levels.drop (i + 1) := by
    simp
  have htake : (s.levels.take i).filter (·.price ≠ price) = s.levels.take i := by
    refine List.filter_eq_self.2 fun l hl => ?_
    obtain ⟨j, hj, rfl⟩ := List.mem_take_iff_getElem.1 hl
    simpa using hne j _ (by omega)
  have hdrop : (s.levels.drop (i + 1)).filter (·.price ≠ price) = s.levels.drop (i + 1) := by
    refine List.filter_eq_self.2 fun l hl => ?_
    obtain ⟨j, hj, rfl⟩ := List.mem_drop_iff_getElem.1 hl
    simpa using hne (i + 1 + j) _ (by omega)
  rw [List.eraseIdx_eq_take_drop_succ, hsplit, List.filter_append, List.filter_cons, htake,
    hdrop, if_neg (by simp [hp])]
  simp

theorem set_eq_map (hs : s.Sorted) {i : Nat} (hi : i < s.levels.length)
    (hp : s.levels[i].price = price) (l' : PriceLevel) :
    s.levels.set i l' = s.levels.map fun l => if l.price = price then l' else l := by
  refine List.ext_getElem (by simp) fun j hj _ => ?_
  rw [List.getElem_set, List.getElem_map]
  split
  · subst i
    rw [if_pos hp]
  · rw [if_neg (hp ▸ hs.price_ne (by simpa using hj) hi (Ne.symm ‹_›))]

/-- Making room on a full side and inserting is inserting and keeping the
first `maxLevels` levels. -/
theorem insertIdx_evict (hb : s.levels.length ≤ s.maxLevels) {i : Nat} (hi : i < s.maxLevels)
    (l : PriceLevel) :
    (if s.levels.length = s.maxLevels then s.levels.dropLast else s.levels).insertIdx i l =
      (s.levels.insertIdx i l).take s.maxLevels := by
  split
  · rename_i hfull
    obtain ⟨m, hm⟩ : ∃ m, s.maxLevels = m + 1 := ⟨s.maxLevels - 1, by omega⟩
    rw [List.dropLast_eq_take, hm, take_succ_insertIdx _ _ (by omega), hfull, hm,
      Nat.add_sub_cancel]
  · rw [List.take_of_length_le]
    rw [List.length_insertIdx]
    split <;> omega

/-! ## The update -/

theorem update_of_holds_of_eq_zero (hs : s.Sorted) (hh : s.Holds price) (hz : size = 0) :
    s.update price size count =
      (.applied (s.rank price), { s with levels := s.levels.filter (·.price ≠ price) }) := by
  obtain ⟨hi, hp⟩ := hh.getElem_rank hs
  rw [update, search_eq_rank hs, if_pos hh]
  simp only [if_pos hz, eraseIdx_eq_filter hs hi hp]

theorem update_of_not_holds_of_eq_zero (hs : s.Sorted) (hh : ¬s.Holds price) (hz : size = 0) :
    s.update price size count = (.notPresent, s) := by
  rw [update, search_eq_rank hs, if_neg hh]
  simp only [if_pos hz]

theorem update_of_holds (hs : s.Sorted) (hh : s.Holds price) (hz : size ≠ 0) :
    s.update price size count = (.applied (s.rank price),
      { s with levels := s.levels.map fun l => if l.price = price then ⟨price, size, count⟩ else l }) := by
  obtain ⟨hi, hp⟩ := hh.getElem_rank hs
  rw [update, search_eq_rank hs, if_pos hh]
  simp only [if_neg hz, set_eq_map hs hi hp]

theorem update_of_maxLevels_le_rank (hs : s.Sorted) (hh : ¬s.Holds price) (hz : size ≠ 0)
    (hk : s.maxLevels ≤ s.rank price) :
    s.update price size count = (.beyondCapacity (s.rank price), s) := by
  rw [update, search_eq_rank hs, if_neg hh]
  simp only [if_neg hz, if_pos hk]

theorem update_of_rank_lt (hv : s.Valid) (hh : ¬s.Holds price) (hz : size ≠ 0)
    (hk : s.rank price < s.maxLevels) :
    s.update price size count = (.applied (s.rank price),
      { s with levels := (s.levels.insertIdx (s.rank price) ⟨price, size, count⟩).take s.maxLevels }) := by
  rw [update, search_eq_rank hv.sorted, if_neg hh]
  simp only [if_neg hz, if_neg (Nat.not_le.2 hk), insertIdx_evict hv.bounded hk]

theorem length_take_insertIdx_rank (hv : s.Valid) (hh : ¬s.Holds price) (l : PriceLevel) :
    ((s.levels.insertIdx (s.rank price) l).take s.maxLevels).length =
      if s.depth = s.maxLevels then s.maxLevels else s.depth + 1 := by
  have hk := (splits_rank hv.sorted hh).le_length
  have hb : s.depth ≤ s.maxLevels := hv.bounded
  have hd : s.levels.length = s.depth := rfl
  rw [List.length_take, List.length_insertIdx, if_pos hk, hd]
  by_cases hfull : s.depth = s.maxLevels
  · rw [if_pos hfull]
    omega
  · rw [if_neg hfull]
    omega

theorem getElem?_take_insertIdx_rank (hv : s.Valid) (hh : ¬s.Holds price)
    (hk : s.rank price < s.maxLevels) (l : PriceLevel) :
    ((s.levels.insertIdx (s.rank price) l).take s.maxLevels)[s.rank price]? = some l := by
  rw [List.getElem?_take, if_pos hk, List.getElem?_insertIdx_self,
    if_pos (splits_rank hv.sorted hh).le_length]

/-- Updating a valid side is the bounded sorted map operation its size asks
for, reported at the price's rank: size zero erases a held price and leaves a
side without it alone; any other size overwrites a held price in place, and
inserts a new one at its rank, past the bound not at all, otherwise keeping
the first `maxLevels` levels (one level more, unless the side was full). -/
theorem update_refines_sorted_map (s : BookSide) (hv : s.Valid) (price size count : Int64) :
    (size = 0 → s.Holds price →
      s.update price size count =
        (.applied (s.rank price), { s with levels := s.levels.filter (·.price ≠ price) })) ∧
    (size = 0 → ¬s.Holds price → s.update price size count = (.notPresent, s)) ∧
    (size ≠ 0 → s.Holds price →
      s.update price size count = (.applied (s.rank price),
        { s with levels := s.levels.map (fun l =>
            if l.price = price then ⟨price, size, count⟩ else l) })) ∧
    (size ≠ 0 → ¬s.Holds price → s.maxLevels ≤ s.rank price →
      s.update price size count = (.beyondCapacity (s.rank price), s)) ∧
    (size ≠ 0 → ¬s.Holds price → s.rank price < s.maxLevels →
      s.update price size count = (.applied (s.rank price),
        { s with levels := ((s.levels.insertIdx (s.rank price) ⟨price, size, count⟩).take
            s.maxLevels) }) ∧
      (s.update price size count).2.depth =
        (if s.depth = s.maxLevels then s.maxLevels else s.depth + 1) ∧
      (s.update price size count).2.level? (s.rank price) = some ⟨price, size, count⟩) := by
  refine ⟨fun hz hh => update_of_holds_of_eq_zero hv.sorted hh hz,
    fun hz hh => update_of_not_holds_of_eq_zero hv.sorted hh hz,
    fun hz hh => update_of_holds hv.sorted hh hz,
    fun hz hh hk => update_of_maxLevels_le_rank hv.sorted hh hz hk, fun hz hh hk => ?_⟩
  have h : s.update price size count = (.applied (s.rank price), { s with levels :=
      ((s.levels.insertIdx (s.rank price) ⟨price, size, count⟩).take s.maxLevels) }) :=
    update_of_rank_lt hv hh hz hk
  refine ⟨h, ?_, ?_⟩
  · rw [h]
    exact length_take_insertIdx_rank hv hh _
  · rw [h]
    exact getElem?_take_insertIdx_rank hv hh hk _

/-- A full bid side of three levels takes a better bid at the front and drops
its worst level. -/
theorem update_refines_sorted_map_evicting :
    let s : BookSide := ⟨.bid, 3, [⟨100, 1, 1⟩, ⟨99, 1, 1⟩, ⟨98, 1, 1⟩]⟩
    s.Valid ∧
    ((1 : Int64) = 0 → s.Holds 101 →
      s.update 101 1 1 = (.applied (s.rank 101), { s with levels := s.levels.filter (·.price ≠ 101) })) ∧
    ((1 : Int64) = 0 → ¬s.Holds 101 → s.update 101 1 1 = (.notPresent, s)) ∧
    ((1 : Int64) ≠ 0 → s.Holds 101 →
      s.update 101 1 1 = (.applied (s.rank 101),
        { s with levels := s.levels.map (fun l => if l.price = 101 then ⟨101, 1, 1⟩ else l) })) ∧
    ((1 : Int64) ≠ 0 → ¬s.Holds 101 → s.maxLevels ≤ s.rank 101 →
      s.update 101 1 1 = (.beyondCapacity (s.rank 101), s)) ∧
    ((1 : Int64) ≠ 0 → ¬s.Holds 101 → s.rank 101 < s.maxLevels →
      s.update 101 1 1 = (.applied (s.rank 101),
        { s with levels := (s.levels.insertIdx (s.rank 101) ⟨101, 1, 1⟩).take s.maxLevels }) ∧
      (s.update 101 1 1).2.depth = (if s.depth = s.maxLevels then s.maxLevels else s.depth + 1) ∧
      (s.update 101 1 1).2.level? (s.rank 101) = some ⟨101, 1, 1⟩) := by
  intro s
  have hv : s.Valid := ⟨by unfold Sorted; decide, by decide, by decide⟩
  exact ⟨hv, update_refines_sorted_map s hv 101 1 1⟩

end BookSide

end DepthFeed
