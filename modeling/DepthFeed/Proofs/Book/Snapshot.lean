import Mathlib.Data.Set.Operations
import DepthFeed.Proofs.Book.Invariant
import DepthFeed.Book.Snapshot

/-!
# Copying a record into a snapshot book

`SnapshotBook.copySide` walks a side and a record's entries together,
overwriting each level with its entry; a side longer than the record keeps its
tail, and the first position whose level differs from its entry is reported.
`copySide_eq` says this in closed form, through the list of positions where
the level changes: the levels become the entries (as far as both reach)
followed by the side's untouched tail, and the reported position is the first
true flag of that list.
-/

namespace DepthFeed

namespace PriceLevel

theorem changes_eq_true_iff {l : PriceLevel} {price size count : Int64} :
    l.changes price size count = true ↔ (⟨price, size, count⟩ : PriceLevel) ≠ l := by
  obtain ⟨p, s, c⟩ := l
  simp only [changes, Bool.or_eq_true, bne_iff_ne, ne_eq, PriceLevel.mk.injEq]
  tauto

@[simp] theorem toEntry_ofEntry (e : LevelEntry) : (ofEntry e).toEntry = e := rfl

end PriceLevel

namespace SnapshotBook

variable {b : SnapshotBook} {r : MarketRecord}

/-- Where a walk over a side and a record's entries finds a changed level. -/
def changeFlags (ls : List PriceLevel) (es : List LevelEntry) : List Bool :=
  List.zipWith (fun l e => l.changes e.price e.size e.count) ls es

theorem copySide_eq (ls : List PriceLevel) (es : List LevelEntry) (pos : Nat) :
    copySide ls es pos =
      (((changeFlags ls es).findIdx? id).map (pos + ·),
        List.zipWith (fun _ e => PriceLevel.ofEntry e) ls es ++ ls.drop es.length) := by
  induction ls generalizing es pos with
  | nil => cases es <;> simp [copySide, changeFlags]
  | cons l ls ih =>
    cases es with
    | nil => simp [copySide, changeFlags]
    | cons e es =>
      simp only [copySide, ih, changeFlags, List.zipWith_cons_cons, List.findIdx?_cons, id,
        List.length_cons, List.drop_succ_cons, List.cons_append]
      split <;> simp [Option.map_map, Function.comp_def, Nat.add_assoc, Nat.add_comm 1]

theorem getElem?_copySide_of_lt {ls : List PriceLevel} {es : List LevelEntry} {j : Nat}
    (pos : Nat) (hl : j < ls.length) (he : j < es.length) :
    (copySide ls es pos).2[j]? = some (PriceLevel.ofEntry es[j]) := by
  rw [copySide_eq, List.getElem?_append_left (by simp; omega), List.getElem?_zipWith,
    List.getElem?_eq_getElem hl, List.getElem?_eq_getElem he]

theorem getElem?_copySide_of_le {ls : List PriceLevel} {es : List LevelEntry} {j : Nat}
    (pos : Nat) (he : es.length ≤ j) : (copySide ls es pos).2[j]? = ls[j]? := by
  rw [copySide_eq]
  by_cases hl : j < ls.length
  · rw [List.getElem?_append_right (by simp; omega), List.getElem?_drop]
    congr 1
    simp only [List.length_zipWith]
    omega
  · rw [List.getElem?_eq_none (by simp; omega), List.getElem?_eq_none (by omega)]

theorem getElem?_copySide_ne_iff {ls : List PriceLevel} {es : List LevelEntry} {j : Nat}
    (pos : Nat) : (copySide ls es pos).2[j]? ≠ ls[j]? ↔ (changeFlags ls es)[j]? = some true := by
  by_cases hl : j < ls.length
  · by_cases he : j < es.length
    · rw [getElem?_copySide_of_lt pos hl he, List.getElem?_eq_getElem hl, changeFlags,
        List.getElem?_zipWith, List.getElem?_eq_getElem hl, List.getElem?_eq_getElem he]
      simp [PriceLevel.changes_eq_true_iff, PriceLevel.ofEntry]
    · rw [getElem?_copySide_of_le pos (by omega)]
      simp [changeFlags, List.getElem?_zipWith, List.getElem?_eq_none (show es.length ≤ j by omega)]
  · -- past the side there is neither a level nor a flag
    have hn : (copySide ls es pos).2[j]? = none := List.getElem?_eq_none (by simp; omega)
    rw [hn, List.getElem?_eq_none (show ls.length ≤ j by omega)]
    simp [changeFlags, List.getElem?_zipWith, List.getElem?_eq_none (show ls.length ≤ j by omega)]

/-! ## The book operations -/

theorem updateFrom_trade (h : r.action = .trade) :
    b.updateFrom r = (none, { b with sequence := r.sequence }) := by
  simp [updateFrom, h]

theorem updateFrom_of_ne_trade (h : r.action ≠ .trade) :
    b.updateFrom r =
      (minIndex? (copySide b.bids r.bids.toList 0).1 (copySide b.asks r.asks.toList 0).1,
        ⟨r.sequence, (copySide b.bids r.bids.toList 0).2, (copySide b.asks r.asks.toList 0).2,
          by simpa using b.sides_length⟩) := by
  simp [updateFrom, h]

end SnapshotBook

end DepthFeed
