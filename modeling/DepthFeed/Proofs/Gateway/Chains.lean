import Mathlib.Logic.Relation
import DepthFeed.Gateway.Interrupt

/-!
# Interrupt chains

A token's lineage is the token and its ancestors; a token descends from `k`
when one of its lineage shares `k`'s flag. `Interrupts.Grown f raised` says
that `f` was built by `new`, `child`, `clone` and `raise`, `raised` listing the
tokens raised. The fuel of `isRaised` suffices since a parent is older than
its child, and a parent's lineage never meets a child's flag since flags are
handed out in order.
-/

namespace DepthFeed

namespace Interrupts

def Parent (f : Interrupts) (i p : Nat) : Prop := ∃ t, f.tokens[i]? = some t ∧ t.parent = some p

def FlagUp (f : Interrupts) (a : Nat) : Prop :=
  ∃ t, f.tokens[a]? = some t ∧ f.flags.getD t.flag false = true

def Shares (f : Interrupts) (a k : Nat) : Prop :=
  ∃ ta tk, f.tokens[a]? = some ta ∧ f.tokens[k]? = some tk ∧ ta.flag = tk.flag

/-- Token `j` is `k`, a clone of `k`, or a descendant of one of them. -/
def Descends (f : Interrupts) (j k : Nat) : Prop :=
  ∃ a, Relation.ReflTransGen f.Parent j a ∧ f.Shares a k

/-- The shape every family the operations build keeps: flags exist, a parent
is older than its child, and a parent's flag was handed out before its
child's. -/
structure WellFormed (f : Interrupts) : Prop where
  flag_lt : ∀ {i : Nat} {t : Token}, f.tokens[i]? = some t → t.flag < f.flags.length
  parent_lt : ∀ {i p : Nat}, f.Parent i p → p < i
  parent_flag_lt : ∀ {i p : Nat} {t tp : Token}, f.tokens[i]? = some t → t.parent = some p →
    f.tokens[p]? = some tp → tp.flag < t.flag

/-- Families built from no tokens by operations on tokens that exist, with
the tokens raised so far. -/
inductive Grown : Interrupts → List Nat → Prop
  | empty : Grown empty []
  | new {f raised} : Grown f raised → Grown f.new.2 raised
  | child {f raised i} : Grown f raised → i < f.tokens.length → Grown (f.child i).2 raised
  | clone {f raised i} : Grown f raised → i < f.tokens.length → Grown (f.clone i).2 raised
  | raise {f raised i} : Grown f raised → i < f.tokens.length → Grown (f.raise i) (raised ++ [i])

variable {f : Interrupts}

/-! ## Lineages -/

theorem lineage_iff {i a : Nat} :
    Relation.ReflTransGen f.Parent i a ↔
      i = a ∨ ∃ t p, f.tokens[i]? = some t ∧ t.parent = some p ∧ Relation.ReflTransGen f.Parent p a := by
  rw [Relation.ReflTransGen.cases_head_iff]
  simp only [Parent]
  constructor
  · rintro (h | ⟨p, ⟨t, ht, hp⟩, hpa⟩)
    · exact .inl h
    · exact .inr ⟨t, p, ht, hp, hpa⟩
  · rintro (h | ⟨t, p, ht, hp, hpa⟩)
    · exact .inl h
    · exact .inr ⟨p, ⟨t, ht, hp⟩, hpa⟩

theorem WellFormed.exists_parent (hw : f.WellFormed) {i p : Nat} (hip : f.Parent i p) :
    ∃ tp, f.tokens[p]? = some tp := by
  have hpi := hw.parent_lt hip
  obtain ⟨t, hi, _⟩ := hip
  have hlt : p < f.tokens.length := Nat.lt_trans hpi (List.getElem?_eq_some_iff.1 hi).1
  exact ⟨_, List.getElem?_eq_getElem hlt⟩

theorem WellFormed.flag_le_of_lineage (hw : f.WellFormed) {i a : Nat}
    (h : Relation.ReflTransGen f.Parent i a) :
    ∀ {ti ta}, f.tokens[i]? = some ti → f.tokens[a]? = some ta → ta.flag ≤ ti.flag := by
  induction h using Relation.ReflTransGen.head_induction_on with
  | refl =>
    intro ti ta hi ha
    rw [hi] at ha
    cases ha
    exact Nat.le_refl _
  | @head i p hip _ ih =>
    intro ti ta hi ha
    obtain ⟨t, ht, hp⟩ := hip
    rw [hi] at ht
    cases ht
    obtain ⟨tp, htp⟩ := hw.exists_parent ⟨ti, hi, hp⟩
    exact Nat.le_trans (ih htp ha) (Nat.le_of_lt (hw.parent_flag_lt hi hp htp))

/-! ## Reading the chain -/

def ChainUp (f : Interrupts) (i : Nat) : Prop := ∃ a, Relation.ReflTransGen f.Parent i a ∧ f.FlagUp a

theorem not_chainUp_of_getElem?_eq_none {i : Nat} (ht : f.tokens[i]? = none) : ¬ f.ChainUp i := by
  rintro ⟨a, hia, t, hta, -⟩
  rcases lineage_iff.1 hia with rfl | ⟨t', p, ht', -⟩
  · simp [ht] at hta
  · simp [ht] at ht'

theorem chainUp_iff_of_getElem? {i : Nat} {t : Token} (ht : f.tokens[i]? = some t) :
    f.ChainUp i ↔ f.flags.getD t.flag false = true ∨ ∃ p, t.parent = some p ∧ f.ChainUp p := by
  have hup : f.FlagUp i ↔ f.flags.getD t.flag false = true := by simp [FlagUp, ht]
  constructor
  · rintro ⟨a, hia, ha⟩
    rcases lineage_iff.1 hia with rfl | ⟨t', p, ht', hp, hpa⟩
    · exact .inl (hup.1 ha)
    · rw [ht, Option.some.injEq] at ht'
      subst ht'
      exact .inr ⟨p, hp, a, hpa, ha⟩
  · rintro (hi | ⟨p, hp, a, hpa, ha⟩)
    · exact ⟨i, .refl, hup.2 hi⟩
    · exact ⟨a, .head ⟨t, ht, hp⟩ hpa, ha⟩

/-- With fuel beyond the token's index the chain is read to its root: the
parent is older than the child, so each step up has fuel left. -/
theorem WellFormed.raisedWithin_iff (hw : f.WellFormed) :
    ∀ {fuel i : Nat}, i < fuel → (f.raisedWithin fuel i = true ↔ f.ChainUp i)
  | 0, _, h => absurd h (Nat.not_lt_zero _)
  | fuel + 1, i, h => by
    cases ht : f.tokens[i]? with
    | none =>
      simpa [raisedWithin, ht] using not_chainUp_of_getElem?_eq_none ht
    | some t =>
      rw [chainUp_iff_of_getElem? ht]
      cases hp : t.parent with
      | none => simp [raisedWithin, ht, hp]
      | some p =>
        have hpi : p < i := hw.parent_lt ⟨t, ht, hp⟩
        simp [raisedWithin, ht, hp, hw.raisedWithin_iff (show p < fuel by omega)]

theorem WellFormed.isRaised_iff (hw : f.WellFormed) (i : Nat) : f.isRaised i = true ↔ f.ChainUp i := by
  by_cases hi : i < f.tokens.length
  · exact hw.raisedWithin_iff (by omega)
  · have ht : f.tokens[i]? = none := List.getElem?_eq_none (by omega)
    simpa [isRaised, raisedWithin, ht] using not_chainUp_of_getElem?_eq_none ht

/-! ## Raising -/

@[simp] theorem parent_raise (k : Nat) : (f.raise k).Parent = f.Parent := by
  funext i p
  simp [Parent]

theorem getD_set_true {flags : List Bool} {x y : Nat} (hy : y < flags.length) :
    (flags.set y true).getD x false = true ↔ x = y ∨ flags.getD x false = true := by
  simp only [List.getD_eq_getElem?_getD, List.getElem?_set]
  by_cases hx : y = x
  · subst hx
    simp [hy]
  · simp [hx, Ne.symm hx]

theorem flagUp_raise (hw : f.WellFormed) {k : Nat} {tk : Token} (hk : f.tokens[k]? = some tk) (a : Nat) :
    (f.raise k).FlagUp a ↔ f.FlagUp a ∨ f.Shares a k := by
  simp only [FlagUp, Shares, raise_of_getElem? hk, hk, Option.some.injEq, getD_set_true (hw.flag_lt hk)]
  constructor
  · rintro ⟨t, ht, he | hflag⟩
    · exact .inr ⟨t, tk, ht, rfl, he⟩
    · exact .inl ⟨t, ht, hflag⟩
  · rintro (⟨t, ht, hflag⟩ | ⟨t, _, ht, rfl, he⟩)
    · exact ⟨t, ht, .inr hflag⟩
    · exact ⟨t, ht, .inl he⟩

theorem WellFormed.raise (hw : f.WellFormed) (k : Nat) : (f.raise k).WellFormed where
  flag_lt h := by
    unfold Interrupts.raise
    split <;> simpa using hw.flag_lt (by simpa using h)
  parent_lt h := hw.parent_lt (by simpa using h)
  parent_flag_lt hi hp htp := hw.parent_flag_lt (by simpa using hi) hp (by simpa using htp)

theorem WellFormed.isRaised_raise (hw : f.WellFormed) {k : Nat} (hk : k < f.tokens.length) (j : Nat) :
    (f.raise k).isRaised j = true ↔ f.isRaised j = true ∨ f.Descends j k := by
  obtain ⟨tk, htk⟩ : ∃ tk, f.tokens[k]? = some tk := ⟨_, List.getElem?_eq_getElem hk⟩
  rw [(hw.raise k).isRaised_iff, hw.isRaised_iff]
  simp only [ChainUp, parent_raise, flagUp_raise hw htk, Descends]
  constructor
  · rintro ⟨a, hja, ha | ha⟩
    · exact .inl ⟨a, hja, ha⟩
    · exact .inr ⟨a, hja, ha⟩
  · rintro (⟨a, hja, ha⟩ | ⟨a, hja, ha⟩)
    · exact ⟨a, hja, .inl ha⟩
    · exact ⟨a, hja, .inr ha⟩

theorem WellFormed.isRaised_raise_of_not_descends (hw : f.WellFormed) {k j : Nat}
    (hk : k < f.tokens.length) (hj : ¬ f.Descends j k) : (f.raise k).isRaised j = f.isRaised j := by
  rw [Bool.eq_iff_iff, hw.isRaised_raise hk, or_iff_left hj]

theorem WellFormed.not_descends_parent (hw : f.WellFormed) {k p : Nat} (hkp : f.Parent k p) :
    ¬ f.Descends p k := by
  obtain ⟨tk, hk, hp⟩ := hkp
  rintro ⟨a, hpa, ta, tk', ha, hk', he⟩
  rw [hk] at hk'
  cases hk'
  obtain ⟨tp, htp⟩ := hw.exists_parent ⟨tk, hk, hp⟩
  have h₁ := hw.flag_le_of_lineage hpa htp ha
  have h₂ := hw.parent_flag_lt hk hp htp
  omega

/-- A sibling that is no clone does not descend from `k`: its own flag is
another, and the rest of its lineage is the parent's. -/
theorem WellFormed.not_descends_sibling (hw : f.WellFormed) {k s p : Nat} (hkp : f.Parent k p)
    (hsp : f.Parent s p) (hclone : ¬ f.Shares s k) : ¬ f.Descends s k := by
  obtain ⟨ts, hs, hps⟩ := hsp
  rintro ⟨a, hsa, hshare⟩
  rcases lineage_iff.1 hsa with rfl | ⟨t, p', ht, hp', hpa⟩
  · exact hclone hshare
  · rw [hs] at ht
    cases ht
    rw [hps] at hp'
    cases hp'
    exact hw.not_descends_parent hkp ⟨a, hpa, hshare⟩

/-! ## What the operations keep -/

/-- What every grown family satisfies: its shape, and flags that are up
exactly for the tokens raised. -/
structure Sound (f : Interrupts) (raised : List Nat) : Prop where
  wellFormed : f.WellFormed
  raised_lt : ∀ k ∈ raised, k < f.tokens.length
  flags_up : ∀ x, f.flags.getD x false = true ↔ ∃ k ∈ raised, ∃ t, f.tokens[k]? = some t ∧ t.flag = x

theorem sound_empty : Sound empty [] where
  wellFormed := ⟨by simp [empty], by simp [Parent, empty], by simp [empty]⟩
  raised_lt := by simp
  flags_up := by simp [empty]

/-- Adding a token whose flag exists and is older than none of its parent's,
with no flag put up: what `new`, `child` and `clone` do. -/
theorem Sound.push {raised : List Nat} (hs : Sound f raised) {g : Interrupts} {t : Token}
    (htokens : g.tokens = f.tokens ++ [t]) (hflags : ∀ x, g.flags.getD x false = f.flags.getD x false)
    (hlen : f.flags.length ≤ g.flags.length) (hflag : t.flag < g.flags.length)
    (hparent : ∀ p, t.parent = some p →
      p < f.tokens.length ∧ ∀ tp, f.tokens[p]? = some tp → tp.flag < t.flag) :
    Sound g raised := by
  -- an old index reads the same token, the new one reads `t`
  have hget : ∀ {i u}, g.tokens[i]? = some u →
      f.tokens[i]? = some u ∨ (i = f.tokens.length ∧ u = t) := by
    intro i u h
    rw [htokens, List.getElem?_append] at h
    split at h
    · exact .inl h
    · rename_i hi
      have : i - f.tokens.length = 0 := by
        have := (List.getElem?_eq_some_iff.1 h).1
        simp at this
        omega
      rw [this] at h
      exact .inr ⟨by omega, by simpa [eq_comm] using h⟩
  have hold : ∀ {i}, i < f.tokens.length → g.tokens[i]? = f.tokens[i]? := by
    intro i hi
    rw [htokens, List.getElem?_append_left hi]
  refine ⟨⟨?_, ?_, ?_⟩, ?_, ?_⟩
  · intro i u hu
    rcases hget hu with hu | ⟨-, rfl⟩
    · exact Nat.lt_of_lt_of_le (hs.wellFormed.flag_lt hu) hlen
    · exact hflag
  · rintro i p ⟨u, hu, hp⟩
    rcases hget hu with hu | ⟨rfl, rfl⟩
    · exact hs.wellFormed.parent_lt ⟨u, hu, hp⟩
    · exact (hparent p hp).1
  · intro i p u up hu hp hup
    rcases hget hu with hu | ⟨rfl, rfl⟩
    · have hpi := hs.wellFormed.parent_lt ⟨u, hu, hp⟩
      have hi := (List.getElem?_eq_some_iff.1 hu).1
      rw [hold (by omega)] at hup
      exact hs.wellFormed.parent_flag_lt hu hp hup
    · obtain ⟨hplt, hpflag⟩ := hparent p hp
      rw [hold hplt] at hup
      exact hpflag up hup
  · intro k hk
    rw [htokens, List.length_append]
    exact Nat.lt_of_lt_of_le (hs.raised_lt k hk) (Nat.le_add_right _ _)
  · intro x
    rw [hflags, hs.flags_up]
    constructor
    · rintro ⟨k, hk, u, hu, hx⟩
      exact ⟨k, hk, u, by rw [hold (hs.raised_lt k hk)]; exact hu, hx⟩
    · rintro ⟨k, hk, u, hu, hx⟩
      exact ⟨k, hk, u, by rw [← hold (hs.raised_lt k hk)]; exact hu, hx⟩

theorem getD_append_false (flags : List Bool) (x : Nat) :
    (flags ++ [false]).getD x false = flags.getD x false := by
  simp only [List.getD_eq_getElem?_getD]
  rcases Nat.lt_or_ge x flags.length with hx | hx
  · rw [List.getElem?_append_left hx]
  · rw [List.getElem?_append_right hx, List.getElem?_eq_none hx]
    cases x - flags.length <;> rfl

theorem Sound.fresh {raised : List Nat} (hs : Sound f raised) {parent : Option Nat}
    (hp : ∀ p, parent = some p → p < f.tokens.length) : Sound (f.fresh parent).2 raised :=
  hs.push rfl (getD_append_false f.flags) (by simp [Interrupts.fresh]) (by simp [Interrupts.fresh])
    (fun p h => ⟨hp p h, fun _ htp => hs.wellFormed.flag_lt htp⟩)

theorem Sound.clone {raised : List Nat} (hs : Sound f raised) {i : Nat} (hi : i < f.tokens.length) :
    Sound (f.clone i).2 raised := by
  obtain ⟨t, ht⟩ : ∃ t, f.tokens[i]? = some t := ⟨_, List.getElem?_eq_getElem hi⟩
  rw [clone_of_getElem? ht]
  refine hs.push rfl (fun _ => rfl) (Nat.le_refl _) (hs.wellFormed.flag_lt ht) ?_
  intro p hp
  -- the clone keeps the original's parent, older than the original
  have hpi := hs.wellFormed.parent_lt ⟨t, ht, hp⟩
  exact ⟨by omega, fun _ htp => hs.wellFormed.parent_flag_lt ht hp htp⟩

theorem Sound.raise {raised : List Nat} (hs : Sound f raised) {i : Nat} (hi : i < f.tokens.length) :
    Sound (f.raise i) (raised ++ [i]) := by
  obtain ⟨t, ht⟩ : ∃ t, f.tokens[i]? = some t := ⟨_, List.getElem?_eq_getElem hi⟩
  refine ⟨hs.wellFormed.raise i, ?_, ?_⟩
  · intro k hk
    rw [tokens_raise]
    rcases List.mem_append.1 hk with hk | hk
    · exact hs.raised_lt k hk
    · rw [List.mem_singleton.1 hk]
      exact hi
  · intro x
    rw [raise_of_getElem? ht, getD_set_true (hs.wellFormed.flag_lt ht), hs.flags_up]
    simp only [List.mem_append, List.mem_singleton]
    constructor
    · rintro (rfl | ⟨k, hk, u, hu, hx⟩)
      · exact ⟨i, .inr rfl, t, ht, rfl⟩
      · exact ⟨k, .inl hk, u, hu, hx⟩
    · rintro ⟨k, hk | rfl, u, hu, hx⟩
      · exact .inr ⟨k, hk, u, hu, hx⟩
      · rw [ht] at hu
        cases hu
        exact .inl hx.symm

theorem Grown.sound {raised : List Nat} (h : Grown f raised) : Sound f raised := by
  induction h with
  | empty => exact sound_empty
  | new _ ih => exact ih.fresh (by simp)
  | child _ hi ih => exact ih.fresh (by simpa using hi)
  | clone _ hi ih => exact ih.clone hi
  | raise _ hi ih => exact ih.raise hi

/-- In a grown family a token's flag is up exactly when a token sharing it
was raised. -/
theorem Sound.flagUp_iff {raised : List Nat} (hs : Sound f raised) (a : Nat) :
    f.FlagUp a ↔ ∃ k ∈ raised, f.Shares k a := by
  simp only [FlagUp, Shares, hs.flags_up]
  constructor
  · rintro ⟨ta, ha, k, hk, tk, htk, he⟩
    exact ⟨k, hk, tk, ta, htk, ha, he⟩
  · rintro ⟨k, hk, tk, ta, htk, ha, he⟩
    exact ⟨ta, ha, k, hk, tk, htk, he⟩

/-! ## Sleeping -/

theorem sleepChecks_eq_true_iff (seen : Nat → Interrupts) (i : Nat) :
    ∀ k n, sleepChecks seen i k n = true ↔ ∀ m ≤ n, (seen (k + m)).isRaised i = false
  | k, 0 => by simp [sleepChecks]
  | k, n + 1 => by
    rw [sleepChecks, Bool.and_eq_true, sleepChecks_eq_true_iff seen i (k + 1) n]
    constructor
    · rintro ⟨h₀, hrest⟩ m hm
      rcases m with _ | m
      · simpa using h₀
      · simpa [Nat.add_assoc, Nat.add_comm 1 m] using hrest m (by omega)
    · intro h
      refine ⟨by simpa using h 0 (Nat.zero_le _), fun m hm => ?_⟩
      simpa [Nat.add_assoc, Nat.add_comm 1 m] using h (m + 1) (by omega)

/-- A sleep that can be scheduled runs its full length exactly when none of
its checks, one per slice and one at the deadline, sees the token raised. -/
theorem sleep_eq_some_true_iff (seen : Nat → Interrupts) (i : Nat) {d : Duration}
    (hd : d.toNanos < Controller.deadlineLimit) :
    sleep seen i d = some true ↔ ∀ m ≤ sliceCount d, (seen m).isRaised i = false := by
  rw [sleep, if_neg (Nat.not_le.2 hd), Option.some.injEq, sleepChecks_eq_true_iff]
  simp

theorem sleep_zero (seen : Nat → Interrupts) (i : Nat) :
    sleep seen i Duration.zero = some (!(seen 0).isRaised i) := by
  have hfit : Duration.zero.toNanos < Controller.deadlineLimit := by decide
  rw [sleep, if_neg (Nat.not_le.2 hfit)]
  rfl

end Interrupts

/-- Interrupt chains: in a family built by `new`, `child`, `clone` and `raise`,
a token counts as raised exactly when one of its lineage shares a flag with a
token that was raised; raising `k` raises exactly the tokens that descend from
`k` and leaves `k`'s parent and its siblings as they were; and a sleep of zero
answers that the token is not raised. -/
theorem interrupt_chains {f : Interrupts} {raised : List Nat} (hg : f.Grown raised) :
    (∀ t, f.isRaised t = true ↔
      ∃ a, Relation.ReflTransGen f.Parent t a ∧ ∃ k ∈ raised, f.Shares k a) ∧
    (∀ k j, k < f.tokens.length →
      ((f.raise k).isRaised j = true ↔ f.isRaised j = true ∨ f.Descends j k)) ∧
    (∀ k p, f.Parent k p → (f.raise k).isRaised p = f.isRaised p) ∧
    (∀ k s p, f.Parent k p → f.Parent s p → ¬ f.Shares s k →
      (f.raise k).isRaised s = f.isRaised s) ∧
    (∀ (seen : Nat → Interrupts) t, seen 0 = f → Interrupts.sleep seen t Duration.zero = some (!f.isRaised t)) := by
  have hs := hg.sound
  have hw := hs.wellFormed
  -- a token with a parent exists
  have hlt : ∀ {k p}, f.Parent k p → k < f.tokens.length := fun ⟨_, hk, _⟩ =>
    (List.getElem?_eq_some_iff.1 hk).1
  refine ⟨fun t => ?_, fun k j hk => hw.isRaised_raise hk j, fun k p hkp => ?_,
    fun k s p hkp hsp hclone => ?_, fun seen t h₀ => ?_⟩
  · rw [hw.isRaised_iff]
    simp only [Interrupts.ChainUp, hs.flagUp_iff]
  · exact hw.isRaised_raise_of_not_descends (hlt hkp) (hw.not_descends_parent hkp)
  · exact hw.isRaised_raise_of_not_descends (hlt hkp) (hw.not_descends_sibling hkp hsp hclone)
  · rw [Interrupts.sleep_zero, h₀]

/-- A family of five tokens: a root `0`, its child `1`, a clone `2` of `1`,
a child `3` of the clone, and a second child `4` of the root. -/
theorem interrupt_chains_raising_a_clone :
    let f := ((((Interrupts.empty.new.2.child 0).2.clone 1).2.child 2).2.child 0).2
    f.Grown [] ∧ (f.raise 2).isRaised 0 = f.isRaised 0 ∧ (f.raise 2).isRaised 4 = f.isRaised 4 := by
  intro f
  have hg : f.Grown [] :=
    .child (.child (.clone (.child (.new .empty) (by decide)) (by decide)) (by decide)) (by decide)
  have h20 : f.Parent 2 0 := ⟨⟨1, some 0⟩, rfl, rfl⟩
  have h40 : f.Parent 4 0 := ⟨⟨3, some 0⟩, rfl, rfl⟩
  have hclone : ¬ f.Shares 4 2 := by
    rintro ⟨t₄, t₂, h₄, h₂, he⟩
    rw [show f.tokens[4]? = some ⟨3, some 0⟩ from rfl, Option.some.injEq] at h₄
    rw [show f.tokens[2]? = some ⟨1, some 0⟩ from rfl, Option.some.injEq] at h₂
    subst h₄ h₂
    exact absurd he (by decide)
  exact ⟨hg, (interrupt_chains hg).2.2.1 2 0 h20, (interrupt_chains hg).2.2.2.1 2 4 0 h20 h40 hclone⟩

end DepthFeed
