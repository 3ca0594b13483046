import Mathlib
import DepthFeed.Json.Read
import DepthFeed.Config.Document

/-!
# Reading JSON text step by step

`Json.Reads m text rest a` says that from any cursor whose unread text is
`text`, the scan `m` succeeds with `a` and leaves `rest`. Scans compose
(`Reads.bind`), and each scanner a configuration document needs gets its
lemma; the one with content is `Reads.readUnsigned`: the decimal digits of `n`
read back as `n` whenever `n` fits the width.
-/

namespace DepthFeed

namespace Json

/-- `Reads m text rest a`: from any cursor whose unread text is `text`, the scan
`m` succeeds with `a` and leaves `rest` unread. -/
def Reads {α : Type} (m : Scan α) (text rest : List Char) (a : α) : Prop :=
  ∀ c : Cursor, c.rest = text → ∃ c', m.run c = .ok (a, c') ∧ c'.rest = rest

def IsBlank (ch : Char) : Prop := ch = ' ' ∨ ch = '\n' ∨ ch = '\t' ∨ ch = '\r'

theorem Cursor.rest_eat {c : Cursor} {ch : Char} {t : List Char} (h : c.rest = ch :: t) :
    c.eat.rest = t := by
  simp only [Cursor.eat, h]
  split <;> rfl

theorem Cursor.skipBlanks_of_not_blank {c : Cursor} {ch : Char} {t : List Char} (h : c.rest = ch :: t)
    (hb : ¬ IsBlank ch) : c.skipBlanks = c := by
  unfold Cursor.skipBlanks
  rw [h]
  simp only [IsBlank] at hb
  simp [Cursor.skipBlanks.go, h, hb]

theorem Cursor.skipBlanks_of_nil {c : Cursor} (h : c.rest = []) : c.skipBlanks = c := by
  unfold Cursor.skipBlanks
  rw [h]
  rfl

namespace Reads

variable {α β : Type} {t t₁ t₂ t₃ : List Char}

theorem bind {m : Scan α} {f : α → Scan β} {a : α} {b : β} (hm : Reads m t₁ t₂ a)
    (hf : Reads (f a) t₂ t₃ b) : Reads (m >>= f) t₁ t₃ b := by
  intro c hc
  obtain ⟨c₁, h₁, hc₁⟩ := hm c hc
  obtain ⟨c₂, h₂, hc₂⟩ := hf c₁ hc₁
  refine ⟨c₂, ?_, hc₂⟩
  rw [StateT.run_bind, h₁]
  exact h₂

theorem pure (a : α) : Reads (Pure.pure a) t t a :=
  fun c hc => ⟨c, rfl, hc⟩

theorem eat {ch : Char} : Reads Json.eat (ch :: t) t () :=
  fun c hc => ⟨c.eat, rfl, Cursor.rest_eat hc⟩

theorem next {ch : Char} : Reads Json.next (ch :: t) t (some ch) := by
  intro c hc
  refine ⟨c.eat, ?_, Cursor.rest_eat hc⟩
  obtain ⟨rest, pos, line, lineStart, total⟩ := c
  cases hc
  rfl

theorem peekOrNull {ch : Char} : Reads Json.peekOrNull (ch :: t) (ch :: t) ch := by
  intro c hc
  refine ⟨c, ?_, hc⟩
  show Except.ok (c.rest.head?.getD '\x00', c) = _
  rw [hc]
  rfl

theorem peek {ch : Char} : Reads Json.peek (ch :: t) (ch :: t) (some ch) := by
  intro c hc
  refine ⟨c, ?_, hc⟩
  show Except.ok (c.rest.head?, c) = _
  rw [hc]
  rfl

theorem peekAfterBlanks {ch : Char} (hb : ¬ IsBlank ch) :
    Reads Json.peekAfterBlanks (ch :: t) (ch :: t) (some ch) := by
  intro c hc
  refine ⟨c, ?_, hc⟩
  show Except.ok (c.skipBlanks.rest.head?, c.skipBlanks) = _
  rw [Cursor.skipBlanks_of_not_blank hc hb, hc]
  rfl

theorem peekAfterBlanks_nil : Reads Json.peekAfterBlanks [] [] none := by
  intro c hc
  refine ⟨c, ?_, hc⟩
  show Except.ok (c.skipBlanks.rest.head?, c.skipBlanks) = _
  rw [Cursor.skipBlanks_of_nil hc, hc]
  rfl

theorem readColon : Reads Json.readColon (':' :: t) t () := by
  unfold Json.readColon
  exact bind (peekAfterBlanks (by simp [IsBlank])) eat

end Reads


/-! ## Strings -/

/-- A character that stands for itself inside a string: no quote, no backslash,
no control character. -/
def Plain (ch : Char) : Prop := ch ≠ '"' ∧ ch ≠ '\\' ∧ 0x20 ≤ ch.toNat

instance : DecidablePred Plain := fun ch =>
  inferInstanceAs (Decidable (ch ≠ '"' ∧ ch ≠ '\\' ∧ 0x20 ≤ ch.toNat))

namespace Reads

variable {t : List Char}

theorem readStringFrom {ks : List Char} (hks : ∀ k ∈ ks, Plain k) (fuel : Nat)
    (hfuel : ks.length < fuel) (acc : List Char) :
    Reads (Json.readStringFrom fuel acc) (ks ++ '"' :: t) t (String.ofList (acc.reverse ++ ks)) := by
  induction ks generalizing fuel acc with
  | nil =>
    obtain ⟨fuel, rfl⟩ := Nat.exists_eq_add_one_of_ne_zero (Nat.ne_zero_of_lt hfuel)
    unfold Json.readStringFrom
    refine bind peek ?_
    rw [List.append_nil]
    exact bind eat (pure _)
  | cons k ks ih =>
    obtain ⟨hquote, hslash, hcontrol⟩ := hks k List.mem_cons_self
    have hrest : ∀ k ∈ ks, Plain k := fun k' hk' => hks k' (List.mem_cons_of_mem k hk')
    obtain ⟨fuel, rfl⟩ := Nat.exists_eq_add_one_of_ne_zero (Nat.ne_zero_of_lt hfuel)
    unfold Json.readStringFrom
    refine bind peek ?_
    have hnext := ih hrest fuel (by simp at hfuel; omega) (k :: acc)
    rw [List.reverse_cons, List.append_assoc, List.singleton_append] at hnext
    split
    · contradiction
    · rename_i h
      cases h
      exact (hquote rfl).elim
    · rename_i h
      cases h
      exact (hslash rfl).elim
    · rename_i ch _ _ heq
      cases heq
      refine bind eat ?_
      rw [if_neg (by omega)]
      exact hnext

theorem readString {ks : List Char} (hks : ∀ k ∈ ks, Plain k) :
    Reads Json.readString (ks ++ '"' :: t) t (String.ofList ks) := by
  intro c hc
  have hfuel : ks.length < c.rest.length + 1 := by
    rw [hc, List.length_append]
    omega
  exact readStringFrom hks (c.rest.length + 1) hfuel [] c hc

end Reads

/-! ## Decimal numerals -/

section Numerals

def digitsValue (cs : List Char) : Nat := cs.foldl (fun a ch => a * 10 + (ch.toNat - 48)) 0

theorem isDigit_eq (ch : Char) : isDigit ch = ch.isDigit := by
  simp [isDigit, Char.isDigit, Char.le_def]

theorem isDigit_of_mem_toDigits {n : Nat} {ch : Char} (h : ch ∈ Nat.toDigits 10 n) :
    isDigit ch = true := by
  rw [isDigit_eq]
  exact Nat.isDigit_of_mem_toDigits (by decide) (by decide) h

theorem digitsValue_toDigits (n : Nat) : digitsValue (Nat.toDigits 10 n) = n := by
  induction n using Nat.strongRecOn with
  | ind n ih =>
    rw [Nat.toDigits_eq_if (by decide)]
    split
    · rename_i hlt
      simp [digitsValue, Nat.toNat_digitChar_sub_48_of_lt_ten hlt]
    · rename_i hge
      -- the last digit is `n % 10`, after the digits of `n / 10`
      have hlast : (n % 10).digitChar.toNat - 48 = n % 10 :=
        Nat.toNat_digitChar_sub_48_of_lt_ten (Nat.mod_lt n (by decide))
      have hhead := ih (n / 10) (Nat.div_lt_self (by omega) (by decide))
      unfold digitsValue at hhead ⊢
      rw [List.foldl_append, hhead, List.foldl_cons, List.foldl_nil, hlast]
      omega

theorem head_toDigits_ne_zero {n : Nat} (hn : n ≠ 0) {d : Char} {ds : List Char}
    (h : Nat.toDigits 10 n = d :: ds) : d ≠ '0' := by
  induction n using Nat.strongRecOn generalizing ds with
  | ind n ih =>
    rw [Nat.toDigits_eq_if (by decide)] at h
    split at h
    · cases h
      simpa using hn
    · rename_i hge
      -- the leading digit is that of `n / 10`
      obtain ⟨d', ds', hd'⟩ := List.exists_cons_of_ne_nil (Nat.toDigits_ne_nil (n := n / 10) (b := 10))
      rw [hd', List.cons_append] at h
      cases h
      exact ih (n / 10) (Nat.div_lt_self (by omega) (by decide)) (by omega) hd'

theorem one_le_of_isDigit {d : Char} (hd : isDigit d = true) (h0 : d ≠ '0') : '1' ≤ d ∧ d ≤ '9' := by
  have h48 : d.toNat ≠ 48 := fun h => h0 (Char.toNat_inj.mp h)
  simp only [isDigit, Bool.and_eq_true, decide_eq_true_eq, Char.le_def, UInt32.le_iff_toNat_le] at hd ⊢
  simp at hd ⊢
  omega

theorem le_foldl_digits (vs : List Nat) (sig : Nat) : sig ≤ vs.foldl (fun a d => a * 10 + d) sig := by
  induction vs generalizing sig with
  | nil => exact Nat.le_refl _
  | cons v vs ih =>
    rw [List.foldl_cons]
    exact Nat.le_trans (by omega) (ih (sig * 10 + v))

theorem absorb_of_le (vs : List Nat) (sig : Nat) (h : vs.foldl (fun a d => a * 10 + d) sig ≤ u64Max) :
    absorb sig vs = (vs.foldl (fun a d => a * 10 + d) sig, vs.length, false) := by
  induction vs generalizing sig with
  | nil => rfl
  | cons v vs ih =>
    rw [List.foldl_cons] at h
    have hstep : sig * 10 + v ≤ u64Max := Nat.le_trans (le_foldl_digits vs _) h
    simp only [absorb, if_neg (Nat.not_lt.mpr hstep), ih _ h, List.foldl_cons, List.length_cons]

theorem Cursor.rest_foldl_eat (ds : List Char) {c : Cursor} {r : List Char} (h : c.rest = ds ++ r) :
    (ds.foldl (fun d _ => d.eat) c).rest = r := by
  induction ds generalizing c with
  | nil => simpa using h
  | cons d ds ih =>
    rw [List.foldl_cons]
    exact ih (Cursor.rest_eat h)

namespace Reads

variable {t : List Char}

/-- A scan that reads the cursor it starts from reads as its body does, if the
body reads the same from every starting cursor. -/
theorem get_bind {α : Type} {f : Cursor → Scan α} {text rest : List Char} {a : α}
    (hf : ∀ c₀, Reads (f c₀) text rest a) : Reads (get >>= f) text rest a := by
  intro c hc
  exact hf c c hc

theorem takeDigits {ds : List Char} (hds : ∀ d ∈ ds, isDigit d = true) {ch : Char}
    (hch : isDigit ch = false) :
    Reads Json.takeDigits (ds ++ ch :: t) (ch :: t) (ds.map fun d => d.toNat - 48) := by
  intro c hc
  have htake : c.rest.takeWhile isDigit = ds := by
    rw [hc, List.takeWhile_append_of_pos hds, List.takeWhile_cons_of_neg (by simp [hch]),
      List.append_nil]
  refine ⟨ds.foldl (fun d _ => d.eat) c, ?_, Cursor.rest_foldl_eat ds hc⟩
  show Except.ok ((c.rest.takeWhile isDigit).map fun d => d.toNat - 48,
    (c.rest.takeWhile isDigit).foldl (fun d _ => d.eat) c) = _
  rw [htake]

theorem readNumberTail {ch : Char} (hch : ch ≠ '.' ∧ ch ≠ 'e' ∧ ch ≠ 'E') (sig : Nat) :
    Reads (Json.readNumberTail true sig) (ch :: t) (ch :: t) (.unsigned sig) := by
  unfold Json.readNumberTail
  refine bind peekOrNull ?_
  obtain ⟨hdot, he, hE⟩ := hch
  split
  · exact (hdot rfl).elim
  · exact (he rfl).elim
  · exact (hE rfl).elim
  · exact pure _

/-- The decimal digits of `n`, followed by a character that cannot continue a
number, read as `n` when `n` fits in a word. -/
theorem readInteger {n : Nat} (hn : n ≤ u64Max) {ch : Char} (hdigit : isDigit ch = false)
    (htail : ch ≠ '.' ∧ ch ≠ 'e' ∧ ch ≠ 'E') :
    Reads (Json.readInteger true) (Nat.toDigits 10 n ++ ch :: t) (ch :: t) (.unsigned n) := by
  unfold Json.readInteger
  refine get_bind fun c₀ => ?_
  obtain ⟨d, ds, hdigits⟩ := List.exists_cons_of_ne_nil (Nat.toDigits_ne_nil (n := n) (b := 10))
  rw [hdigits, List.cons_append]
  refine bind next ?_
  by_cases hzero : n = 0
  · -- zero is the single digit `0`
    subst hzero
    rw [Nat.toDigits_zero] at hdigits
    cases hdigits
    refine bind peekOrNull ?_
    rw [hdigit]
    exact readNumberTail htail 0
  · have hd := head_toDigits_ne_zero hzero hdigits
    have hdd : isDigit d = true := isDigit_of_mem_toDigits (by rw [hdigits]; exact List.mem_cons_self)
    have hdsd : ∀ d' ∈ ds, isDigit d' = true :=
      fun d' hd' => isDigit_of_mem_toDigits (by rw [hdigits]; exact List.mem_cons_of_mem d hd')
    have hval : (ds.map fun d => d.toNat - 48).foldl (fun a d => a * 10 + d) (d.toNat - 48) = n := by
      rw [List.foldl_map, ← digitsValue_toDigits n, hdigits]
      simp [digitsValue]
    split
    · rename_i h
      cases h
    · rename_i h
      cases h
      exact (hd rfl).elim
    · rename_i ch' _ h
      cases h
      have hrange : '1' ≤ d ∧ d ≤ '9' := one_le_of_isDigit hdd hd
      rw [if_pos hrange]
      refine bind (takeDigits hdsd hdigit) ?_
      rw [absorb_of_le _ _ (by rw [hval]; exact hn), hval]
      exact readNumberTail htail n

theorem readUnsigned {bits n : Nat} (hbits : bits ≤ 64) (hn : n < 2 ^ bits) {ch : Char}
    (hdigit : isDigit ch = false) (htail : ch ≠ '.' ∧ ch ≠ 'e' ∧ ch ≠ 'E') :
    Reads (Json.readUnsigned bits) (Nat.toDigits 10 n ++ ch :: t) (ch :: t) n := by
  have hword : n ≤ u64Max := by
    have : 2 ^ bits ≤ 2 ^ 64 := Nat.pow_le_pow_right (by decide) hbits
    unfold u64Max
    omega
  obtain ⟨d, ds, hdigits⟩ := List.exists_cons_of_ne_nil (Nat.toDigits_ne_nil (n := n) (b := 10))
  have hdd : isDigit d = true := isDigit_of_mem_toDigits (by rw [hdigits]; exact List.mem_cons_self)
  have hblank : ¬ IsBlank d := by
    simp only [isDigit, Bool.and_eq_true, decide_eq_true_eq] at hdd
    intro hb
    rcases hb with rfl | rfl | rfl | rfl <;> simp at hdd
  have hminus : d ≠ '-' := by
    rintro rfl
    simp [isDigit] at hdd
  unfold Json.readUnsigned
  have hread := readInteger (t := t) hword hdigit htail
  rw [hdigits, List.cons_append] at hread ⊢
  refine bind (peekAfterBlanks hblank) ?_
  simp only [if_neg hminus, hdd, if_true]
  -- the width check is written with `Nat.pow`, the bound with `^`
  have hfits : n < Nat.pow 2 bits := hn
  exact bind hread (by simp only [if_pos hfits]; exact pure n)

end Reads

end Numerals

end Json

end DepthFeed
