import Mathlib.Data.List.InsertIdx
import Mathlib.Data.List.Infix
import DepthFeed.Proofs.Book.Search

/-!
# Updating a book side

`BookSide.update` does one of five things, by the search's answer and the
size (`update_cases`): remove or overwrite a held level, leave the side alone,
or insert where the search placed the level, dropping the worst level of a
full side. Every other statement about `update` is read off that list, and
those about `updateFrom` come through `updateFrom_induction`.
-/

namespace DepthFeed

/-- An entry inserted at position `i` of a list lands between the first `i`
elements and the rest, so it keeps a pairwise relation that it has with each. -/
theorem pairwise_insertIdx {α : Type} {R : α → α → Prop} {l : List α} {i : Nat} {x : α}
    (hl : l.Pairwise R) (hbefore : ∀ y ∈ l.take i, R y x) (hafter : ∀ y ∈ l.drop i, R x y) :
    (l.insertIdx i x).Pairwise R := by
  induction l generalizing i with
  | nil =>
    cases i with
    | zero => simp
    | succ i => simp [List.insertIdx_succ_nil]
  | cons a l ih =>
    cases i with
    | zero =>
      rw [List.insertIdx_zero]
      exact List.Pairwise.cons (by simpa using hafter) hl
    | succ i =>
      rw [List.insertIdx_succ_cons]
      obtain ⟨ha, hl⟩ := List.pairwise_cons.1 hl
      refine List.Pairwise.cons (fun y hy => ?_) (ih hl (fun y hy => hbefore y ?_) hafter)
      · rcases List.eq_or_mem_of_mem_insertIdx hy with rfl | hy
        · exact hbefore a (by simp)
        · exact ha y hy
      · simpa using Or.inr hy

theorem lt_minIndex?_iff {a b : Option Nat} {j : Nat} :
    (∀ i ∈ minIndex? a b, j < i) ↔ (∀ i ∈ a, j < i) ∧ (∀ i ∈ b, j < i) := by
  cases a with
  | none => simp [minIndex?]
  | some a =>
    cases b with
    | none => simp [minIndex?]
    | some b =>
      simp only [minIndex?, Option.mem_some_iff, forall_eq']
      exact Nat.lt_min

namespace BookSide

variable {s : BookSide} {price size count : Int64}

theorem update_cases (s : BookSide) (price size count : Int64) :
    (∃ i, s.search price = .ok i ∧ size = 0 ∧
      s.update price size count = (.applied i, { s with levels := s.levels.eraseIdx i })) ∨
    (∃ i, s.search price = .ok i ∧ size ≠ 0 ∧
      s.update price size count =
        (.applied i, { s with levels := s.levels.set i ⟨price, size, count⟩ })) ∨
    (∃ i, s.search price = .error i ∧ size = 0 ∧ s.update price size count = (.notPresent, s)) ∨
    (∃ i, s.search price = .error i ∧ size ≠ 0 ∧ s.maxLevels ≤ i ∧
      s.update price size count = (.beyondCapacity i, s)) ∨
    (∃ i, s.search price = .error i ∧ size ≠ 0 ∧ i < s.maxLevels ∧
      s.update price size count = (.applied i, ⟨s.kind, s.maxLevels,
        (if s.levels.length = s.maxLevels then s.levels.dropLast else s.levels).insertIdx i
          ⟨price, size, count⟩⟩)) := by
  unfold update
  split
  · rename_i i hi
    by_cases hsz : size = 0
    · exact .inl ⟨i, hi, hsz, by simp [hsz]⟩
    · exact .inr (.inl ⟨i, hi, hsz, by simp [hsz]⟩)
  · rename_i i hi
    by_cases hsz : size = 0
    · exact .inr (.inr (.inl ⟨i, hi, hsz, by simp [hsz]⟩))
    · by_cases hcap : s.maxLevels ≤ i
      · exact .inr (.inr (.inr (.inl ⟨i, hi, hsz, hcap, by simp [hsz, hcap]⟩)))
      · exact .inr (.inr (.inr (.inr ⟨i, hi, hsz, by omega, by simp [hsz, hcap]⟩)))

/-- An insertion goes into a prefix of the levels: a full side first drops its
last level. -/
theorem prefix_evict (s : BookSide) :
    List.IsPrefix (if s.levels.length = s.maxLevels then s.levels.dropLast else s.levels)
      s.levels := by
  split
  · exact List.dropLast_prefix _
  · exact List.prefix_refl _

@[simp] theorem index?_applied (i : Nat) : (SideUpdate.applied i).index? = some i := rfl

@[simp] theorem index?_notPresent : SideUpdate.notPresent.index? = none := rfl

@[simp] theorem index?_beyondCapacity (i : Nat) : (SideUpdate.beyondCapacity i).index? = none :=
  rfl

@[simp] theorem kind_update : (s.update price size count).2.kind = s.kind := by
  rcases update_cases s price size count with
    ⟨i, -, -, h⟩ | ⟨i, -, -, h⟩ | ⟨i, -, -, h⟩ | ⟨i, -, -, -, h⟩ | ⟨i, -, -, -, h⟩ <;>
    rw [h]

@[simp] theorem maxLevels_update : (s.update price size count).2.maxLevels = s.maxLevels := by
  rcases update_cases s price size count with
    ⟨i, -, -, h⟩ | ⟨i, -, -, h⟩ | ⟨i, -, -, h⟩ | ⟨i, -, -, -, h⟩ | ⟨i, -, -, -, h⟩ <;>
    rw [h]

/-! ## What an update touches -/

/-- Positions before the one an update reports keep their levels, on any
side; an update that reports no position changes nothing. -/
theorem getElem?_update_of_below {j : Nat}
    (hj : ∀ i ∈ (s.update price size count).1.index?, j < i) :
    (s.update price size count).2.levels[j]? = s.levels[j]? := by
  rcases update_cases s price size count with
    ⟨i, -, -, h⟩ | ⟨i, -, -, h⟩ | ⟨i, -, -, h⟩ | ⟨i, -, -, -, h⟩ | ⟨i, -, -, hcap, h⟩ <;>
    rw [h] at hj ⊢ <;> simp only [index?_applied, Option.mem_def, Option.some.injEq,
      forall_eq'] at hj
  -- leaving the side alone was closed by the rewrite; three changes remain
  · exact List.getElem?_eraseIdx_of_lt hj
  · exact List.getElem?_set_ne (by omega)
  · rw [List.getElem?_insertIdx_of_lt hj]
    split
    · -- a full side drops its last level, which lies at or past the insertion point
      rw [List.getElem?_dropLast, if_pos (by omega)]
    · rfl

/-- After an update the side holds old levels and at most the new one, which
has a size other than zero. -/
theorem mem_update {l : PriceLevel} (hl : l ∈ (s.update price size count).2.levels) :
    l ∈ s.levels ∨ l = ⟨price, size, count⟩ ∧ size ≠ 0 := by
  rcases update_cases s price size count with
    ⟨i, -, -, h⟩ | ⟨i, -, hsz, h⟩ | ⟨i, -, -, h⟩ | ⟨i, -, -, -, h⟩ | ⟨i, -, hsz, -, h⟩ <;>
    rw [h] at hl
  · exact .inl (List.mem_of_mem_eraseIdx hl)
  · rcases List.mem_or_eq_of_mem_set hl with hl | rfl
    · exact .inl hl
    · exact .inr ⟨rfl, hsz⟩
  · exact .inl hl
  · exact .inl hl
  · rcases List.eq_or_mem_of_mem_insertIdx hl with rfl | hl
    · exact .inr ⟨rfl, hsz⟩
    · exact .inl ((prefix_evict s).subset hl)

/-! ## The representation invariant -/

/-- The representation invariant of a side: levels strictly in priority order,
no more than the bound, none of size zero. -/
structure Valid (s : BookSide) : Prop where
  sorted : s.Sorted
  bounded : s.depth ≤ s.maxLevels
  sized : ∀ l ∈ s.levels, l.size ≠ 0

theorem Valid.of_levels_eq_nil (h : s.levels = []) : s.Valid where
  sorted := by simp [Sorted, h]
  bounded := by simp [depth, h]
  sized := by simp [h]

theorem map_price_set {i : Nat} (hi : i < s.levels.length) (hp : s.levels[i].price = price)
    (size count : Int64) :
    (s.levels.set i ⟨price, size, count⟩).map (·.price) = s.levels.map (·.price) := by
  apply List.ext_getElem (by simp)
  intro j _ _
  simp only [List.getElem_map, List.getElem_set]
  split <;> simp_all

theorem Valid.update (hv : s.Valid) (price size count : Int64) :
    (s.update price size count).2.Valid := by
  have hsized : ∀ l ∈ (s.update price size count).2.levels, l.size ≠ 0 := fun l hl =>
    (mem_update hl).elim (hv.sized l) fun h => h.1 ▸ h.2
  have hbound := hv.bounded
  rcases update_cases s price size count with
    ⟨i, -, -, h⟩ | ⟨i, hi, -, h⟩ | ⟨i, -, -, h⟩ | ⟨i, -, -, -, h⟩ | ⟨i, hi, -, hcap, h⟩ <;>
    rw [h] at hsized ⊢
  · -- removal keeps the order and shortens the side
    refine ⟨hv.sorted.eraseIdx i, ?_, hsized⟩
    simp only [depth, List.length_eraseIdx] at hbound ⊢
    split <;> omega
  · -- an overwrite keeps every price where it was
    obtain ⟨hlt, hp⟩ := search_ok hi
    refine ⟨?_, by simpa [depth] using hbound, hsized⟩
    have hmap := map_price_set hlt hp size count
    have hsorted : (s.levels.map (·.price)).Pairwise s.kind.Before :=
      List.pairwise_map.2 hv.sorted
    rw [← hmap] at hsorted
    exact List.pairwise_map.1 hsorted
  · exact hv
  · exact hv
  · -- an insertion lands where the search split the levels
    have hsplit := search_error hv.sorted hi
    have hpre := prefix_evict s
    refine ⟨pairwise_insertIdx (hv.sorted.sublist hpre.sublist)
      (fun l hl => hsplit.before l ((List.IsPrefix.take hpre i).subset hl))
      (fun l hl => hsplit.after l ((List.IsPrefix.drop hpre i).subset hl)), ?_, hsized⟩
    simp only [depth, List.length_insertIdx] at hbound ⊢
    split <;> simp only [List.length_dropLast] at * <;> split <;> omega

theorem Valid.clear (s : BookSide) : s.clear.Valid := .of_levels_eq_nil rfl

/-- Copying a valid side of the same kind keeps the invariant, whatever the
other side's bound: the copy is a prefix cut to this side's bound. -/
theorem Valid.copyFrom {o : BookSide} (hv : o.Valid) (hk : o.kind = s.kind) :
    (s.copyFrom o).Valid := by
  refine ⟨?_, ?_, fun l hl => hv.sized l (List.mem_of_mem_take hl)⟩
  · have hsorted := hv.sorted.take (i := s.maxLevels)
    rw [hk] at hsorted
    exact hsorted
  · show (o.levels.take s.maxLevels).length ≤ s.maxLevels
    rw [List.length_take]
    omega

/-! ## Applying a record's entries -/


/-- One step of `updateFrom`: a null entry is skipped, any other is applied
and the least position reported so far is kept. -/
def updateStep (acc : Option Nat × BookSide) (e : LevelEntry) : Option Nat × BookSide :=
  if e.isNull then acc else
  let (u, s') := acc.2.update e.price e.size e.count
  (minIndex? acc.1 u.index?, s')

theorem updateFrom_eq_foldl (s : BookSide) (es : List LevelEntry) :
    s.updateFrom es = es.foldl updateStep (none, s) := rfl

theorem updateFrom_induction {P : Option Nat × BookSide → Prop} (s : BookSide)
    (es : List LevelEntry) (h0 : P (none, s))
    (step : ∀ acc e, e ∈ es → e.isNull = false → P acc →
      P (minIndex? acc.1 (acc.2.update e.price e.size e.count).1.index?,
        (acc.2.update e.price e.size e.count).2)) :
    P (s.updateFrom es) := by
  rw [updateFrom_eq_foldl]
  refine List.foldlRecOn es updateStep h0 fun acc hacc e he => ?_
  unfold updateStep
  split
  · exact hacc
  · rename_i hnull
    exact step acc e he (by simpa using hnull) hacc

theorem foldl_updateStep_snd (d : Option Nat) (s : BookSide) (es : List LevelEntry) :
    (es.foldl updateStep (d, s)).2 = (s.updateFrom es).2 := by
  induction es generalizing d s with
  | nil => rfl
  | cons e es ih =>
    rw [updateFrom_eq_foldl, List.foldl_cons, List.foldl_cons, updateStep, updateStep]
    split
    · exact (ih d s).trans (ih none s).symm
    · exact (ih _ _).trans (ih _ _).symm

theorem updateFrom_cons (s : BookSide) (e : LevelEntry) (es : List LevelEntry) :
    (s.updateFrom (e :: es)).2 =
      ((if e.isNull then s else (s.update e.price e.size e.count).2).updateFrom es).2 := by
  rw [updateFrom_eq_foldl, List.foldl_cons, updateStep]
  split
  · exact foldl_updateStep_snd none s es
  · exact foldl_updateStep_snd _ _ es

theorem updateFrom_append_null (s : BookSide) (es ns : List LevelEntry)
    (hns : ∀ e ∈ ns, e.isNull = true) : (s.updateFrom (es ++ ns)).2 = (s.updateFrom es).2 := by
  rw [updateFrom_eq_foldl, List.foldl_append, ← updateFrom_eq_foldl]
  suffices h : ∀ acc, ns.foldl updateStep acc = acc by rw [h]
  induction ns with
  | nil => exact fun _ => rfl
  | cons e ns ih =>
    intro acc
    rw [List.foldl_cons, updateStep, if_pos (hns e (by simp)),
      ih fun e he => hns e (List.mem_cons_of_mem _ he)]

theorem Valid.updateFrom (hv : s.Valid) (es : List LevelEntry) : (s.updateFrom es).2.Valid :=
  updateFrom_induction (P := fun acc => acc.2.Valid) s es hv
    fun _ e _ _ h => h.update e.price e.size e.count

/-- After `updateFrom` the side holds old levels and levels of present entries
with a size other than zero. -/
theorem mem_updateFrom {es : List LevelEntry} {l : PriceLevel}
    (hl : l ∈ (s.updateFrom es).2.levels) :
    l ∈ s.levels ∨ ∃ e ∈ es, e.isNull = false ∧ l = PriceLevel.ofEntry e ∧ e.size ≠ 0 := by
  refine updateFrom_induction (P := fun acc => ∀ l ∈ acc.2.levels,
    l ∈ s.levels ∨ ∃ e ∈ es, e.isNull = false ∧ l = PriceLevel.ofEntry e ∧ e.size ≠ 0)
    s es (fun l hl => .inl hl) (fun acc e he hnull h l hl => ?_) l hl
  rcases mem_update hl with hl | ⟨rfl, hsz⟩
  · exact h l hl
  · exact .inr ⟨e, he, hnull, rfl, hsz⟩

theorem getElem?_updateFrom_of_below {es : List LevelEntry} {j : Nat}
    (hj : ∀ i ∈ (s.updateFrom es).1, j < i) :
    (s.updateFrom es).2.levels[j]? = s.levels[j]? := by
  refine updateFrom_induction (P := fun acc => (∀ i ∈ acc.1, j < i) →
    acc.2.levels[j]? = s.levels[j]?) s es (fun _ => rfl) (fun acc e _ _ h hj => ?_) hj
  rw [lt_minIndex?_iff] at hj
  rw [getElem?_update_of_below hj.2, h hj.1]

@[simp] theorem kind_updateFrom (s : BookSide) (es : List LevelEntry) :
    (s.updateFrom es).2.kind = s.kind :=
  updateFrom_induction (P := fun acc => acc.2.kind = s.kind) s es rfl
    fun _ _ _ _ h => kind_update.trans h

@[simp] theorem maxLevels_updateFrom (s : BookSide) (es : List LevelEntry) :
    (s.updateFrom es).2.maxLevels = s.maxLevels :=
  updateFrom_induction (P := fun acc => acc.2.maxLevels = s.maxLevels) s es rfl
    fun _ _ _ _ h => maxLevels_update.trans h

/-! ## Levels at the absent price -/

/-- No level of the side is at the price that marks an absent level. -/
def Present (s : BookSide) : Prop := ∀ l ∈ s.levels, l.price ≠ absentI64

theorem Present.of_levels_eq_nil (h : s.levels = []) : s.Present :=
  fun _ hl => absurd (h ▸ hl) List.not_mem_nil

theorem Present.update (hs : s.Present) (hp : price ≠ absentI64) :
    (s.update price size count).2.Present := fun l hl =>
  (mem_update hl).elim (hs l) fun h => h.1 ▸ hp

theorem Present.updateFrom (hs : s.Present) (es : List LevelEntry) :
    (s.updateFrom es).2.Present := fun l hl => by
  rcases mem_updateFrom hl with hl | ⟨e, -, hnull, rfl, -⟩
  · exact hs l hl
  · simpa [LevelEntry.isNull, PriceLevel.ofEntry] using hnull

theorem Present.copyFrom {o : BookSide} (ho : o.Present) : (s.copyFrom o).Present :=
  fun l hl => ho l (List.mem_of_mem_take hl)

end BookSide

end DepthFeed
