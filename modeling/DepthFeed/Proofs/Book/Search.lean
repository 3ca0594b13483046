import Mathlib.Order.Basic
import DepthFeed.Book.Side

/-!
# Searching a book side

On a side strictly in its kind's order (`BookSide.Sorted`) the binary search
answers what a sorted map would: `.ok i` names the level at the price, and
`.error i` splits the levels around it (`BookSide.Splits`). The halving loop
keeps every level left of its live range before the price and every level
right of it after (`BookSide.SearchInv`).
-/

namespace DepthFeed

/-- Whether price `a` comes strictly before price `b` on a side of this kind:
the higher bid first, the lower ask first. -/
def SideKind.Before : SideKind → Int64 → Int64 → Prop
  | .bid, a, b => b < a
  | .ask, a, b => a < b

namespace SideKind

variable {k : SideKind} {a b c : Int64}

@[simp] theorem before_bid : SideKind.bid.Before a b ↔ b < a := Iff.rfl

@[simp] theorem before_ask : SideKind.ask.Before a b ↔ a < b := Iff.rfl

instance (k : SideKind) (a b : Int64) : Decidable (k.Before a b) :=
  match k with
  | .bid => inferInstanceAs (Decidable (b < a))
  | .ask => inferInstanceAs (Decidable (a < b))

theorem Before.trans (h : k.Before a b) (h' : k.Before b c) : k.Before a c := by
  cases k
  · exact Int64.lt_trans h' h
  · exact Int64.lt_trans h h'

theorem Before.irrefl (a : Int64) : ¬k.Before a a := by
  cases k <;> exact Int64.lt_irrefl

theorem Before.asymm (h : k.Before a b) : ¬k.Before b a := by
  cases k
  · exact Int64.lt_asymm h
  · exact Int64.lt_asymm h

theorem Before.ne (h : k.Before a b) : a ≠ b := by
  rintro rfl
  exact Before.irrefl a h

end SideKind

namespace BookSide

variable {s : BookSide} {price : Int64}

/-! ## The side's comparison -/

theorem priority_eq_lt_iff {a b : Int64} : s.priority a b = .lt ↔ s.kind.Before a b := by
  unfold priority
  cases s.kind <;> simp [Int.compare_eq_lt, Int64.lt_iff_toInt_lt]

theorem priority_eq_eq_iff {a b : Int64} : s.priority a b = .eq ↔ a = b := by
  unfold priority
  cases s.kind
  · simp only [Int.compare_eq_eq, Int64.toInt_inj]
    exact eq_comm
  · simp only [Int.compare_eq_eq, Int64.toInt_inj]

theorem priority_eq_gt_iff {a b : Int64} : s.priority a b = .gt ↔ s.kind.Before b a := by
  unfold priority
  cases s.kind <;> simp [Int.compare_eq_gt, Int64.lt_iff_toInt_lt]

/-- The levels are strictly in priority order, best first. -/
def Sorted (s : BookSide) : Prop := s.levels.Pairwise fun l l' => s.kind.Before l.price l'.price

theorem Sorted.before {s : BookSide} (hs : s.Sorted) {i j : Nat} (hi : i < s.levels.length)
    (hj : j < s.levels.length) (hij : i < j) : s.kind.Before s.levels[i].price s.levels[j].price :=
  List.pairwise_iff_getElem.1 hs i j hi hj hij

/-! ## The halving loop -/

/-- What the halving loop keeps of its live range `[base, base + size)`: it is
not empty and lies within the levels, every level left of it comes before
the price, every level right of it after the price. -/
structure SearchInv (s : BookSide) (price : Int64) (base size : Nat) : Prop where
  pos : 0 < size
  le_length : base + size ≤ s.levels.length
  before : ∀ j (hj : j < s.levels.length), j < base → s.kind.Before s.levels[j].price price
  after : ∀ j (hj : j < s.levels.length), base + size ≤ j → s.kind.Before price s.levels[j].price

theorem searchInv_start (h : 0 < s.levels.length) : SearchInv s price 0 s.levels.length :=
  ⟨h, by omega, fun _ _ hj => absurd hj (Nat.not_lt_zero _), fun _ hj hle => by omega⟩

/-- One halving keeps the invariant: a probe after the price keeps the left
half (the probe included, since the range may be odd), any other probe
moves the base to it. -/
theorem SearchInv.step {base size : Nat} (hs : s.Sorted) (hinv : SearchInv s price base size)
    (hsize : ¬size ≤ 1) :
    let mid := base + size / 2
    let probe := match s.levels[mid]? with
      | some l => s.priority l.price price
      | none => .gt
    SearchInv s price (if probe = .gt then base else mid) (size - size / 2) := by
  intro mid probe
  have hmid : mid < s.levels.length := by have := hinv.le_length; omega
  have hprobe : probe = s.priority s.levels[mid].price price := by
    simp only [probe, List.getElem?_eq_getElem hmid]
  by_cases hgt : probe = .gt
  · -- the probe comes after the price, and so does every level past it
    rw [if_pos hgt]
    rw [hprobe, priority_eq_gt_iff] at hgt
    refine ⟨by omega, by have := hinv.le_length; omega, hinv.before, fun j hj hle => ?_⟩
    rcases Nat.eq_or_lt_of_le (show mid ≤ j by omega) with rfl | hlt
    · exact hgt
    · exact hgt.trans (hs.before hmid hj hlt)
  · -- the probe is at or before the price, and so is every level left of it
    rw [if_neg hgt]
    have hle : s.kind.Before s.levels[mid].price price ∨ s.levels[mid].price = price := by
      rw [hprobe] at hgt
      cases hp : s.priority s.levels[mid].price price
      · exact .inl (priority_eq_lt_iff.1 hp)
      · exact .inr (priority_eq_eq_iff.1 hp)
      · exact absurd hp hgt
    refine ⟨by omega, by have := hinv.le_length; omega, fun j hj hlt => ?_,
      fun j hj hle => hinv.after j hj (by omega)⟩
    rcases hle with hb | heq
    · exact (hs.before hj hmid hlt).trans hb
    · exact heq ▸ hs.before hj hmid hlt

theorem searchLoop_inv (hs : s.Sorted) {fuel base size : Nat}
    (hinv : SearchInv s price base size) (hfuel : size ≤ fuel + 1) :
    SearchInv s price (s.searchLoop price fuel base size) 1 := by
  induction fuel generalizing base size with
  | zero =>
    obtain rfl : size = 1 := by have := hinv.pos; omega
    exact hinv
  | succ fuel ih =>
    rw [searchLoop]
    split
    · obtain rfl : size = 1 := by have := hinv.pos; omega
      exact hinv
    · exact ih (hinv.step hs ‹_›) (by omega)

/-! ## What the search answers -/

/-- Position `i` splits the levels at `price`: every level before it comes
before the price, every level from it on comes after the price. -/
structure Splits (s : BookSide) (price : Int64) (i : Nat) : Prop where
  le_length : i ≤ s.levels.length
  before : ∀ l ∈ s.levels.take i, s.kind.Before l.price price
  after : ∀ l ∈ s.levels.drop i, s.kind.Before price l.price

theorem Splits.of_getElem {i : Nat} (hi : i ≤ s.levels.length)
    (hbefore : ∀ j (hj : j < s.levels.length), j < i → s.kind.Before s.levels[j].price price)
    (hafter : ∀ j (hj : j < s.levels.length), i ≤ j → s.kind.Before price s.levels[j].price) :
    Splits s price i := by
  refine ⟨hi, fun l hl => ?_, fun l hl => ?_⟩
  · obtain ⟨j, hj, rfl⟩ := List.mem_take_iff_getElem.1 hl
    exact hbefore j _ (by omega)
  · obtain ⟨j, hj, rfl⟩ := List.mem_drop_iff_getElem.1 hl
    exact hafter (i + j) (by omega) (by omega)

theorem Splits.not_mem {i : Nat} (h : Splits s price i) {l : PriceLevel} (hl : l ∈ s.levels) :
    l.price ≠ price := by
  rintro rfl
  rw [← List.take_append_drop i s.levels, List.mem_append] at hl
  rcases hl with hl | hl
  · exact SideKind.Before.irrefl _ (h.before l hl)
  · exact SideKind.Before.irrefl _ (h.after l hl)

theorem search_ok {i : Nat} (h : s.search price = .ok i) :
    ∃ hi : i < s.levels.length, s.levels[i].price = price := by
  dsimp only [search] at h
  split at h
  · cases h
  · split at h
    · cases h
    · rename_i l hl
      split at h
      · cases h
        obtain ⟨hi, rfl⟩ := List.getElem?_eq_some_iff.1 hl
        exact ⟨hi, priority_eq_eq_iff.1 ‹_›⟩
      all_goals cases h

theorem search_error (hs : s.Sorted) {i : Nat} (h : s.search price = .error i) :
    Splits s price i := by
  dsimp only [search] at h
  split at h
  · cases h
    exact ⟨Nat.zero_le _, by simp, fun l hl => by simp_all⟩
  · -- the loop leaves one level, and the last comparison places the price beside it
    have hinv : SearchInv s price (s.searchLoop price s.levels.length 0 s.levels.length) 1 :=
      searchLoop_inv hs (searchInv_start (by omega)) (Nat.le_succ s.levels.length)
    have hlt : s.searchLoop price s.levels.length 0 s.levels.length < s.levels.length := by
      have := hinv.le_length; omega
    rw [List.getElem?_eq_getElem hlt] at h
    simp only at h
    split at h
    · cases h
    · cases h
      rename_i hp
      refine Splits.of_getElem (by omega) (fun j hj hji => ?_) (fun j hj hle => hinv.after j hj hle)
      rcases Nat.lt_or_eq_of_le (Nat.le_of_lt_succ hji) with hj' | rfl
      · exact hinv.before j hj hj'
      · exact priority_eq_lt_iff.1 hp
    · cases h
      rename_i hp
      refine Splits.of_getElem (by omega) (fun j hj hji => hinv.before j hj hji) (fun j hj hle => ?_)
      rcases Nat.lt_or_eq_of_le hle with hj' | rfl
      · exact hinv.after j hj hj'
      · exact priority_eq_gt_iff.1 hp

end BookSide

end DepthFeed
