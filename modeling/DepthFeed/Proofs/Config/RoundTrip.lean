import DepthFeed.Proofs.Json.Reading
import DepthFeed.Proofs.Gateway.Retry

/-!
# Writing a configuration and reading it back

For any writer and reader that read every written number back into its field,
the round trip gives the configuration with its intervals cut to whole
milliseconds, unless validation refuses one cut to zero. The library's own
pair is such a pair: its reading is followed scanner by scanner through
`Json.Reads`, by induction over the fields still to read (`readSoFar`).
-/

namespace DepthFeed

open Json GatewayConfig

/-! ## The written text -/

namespace GatewayConfig

/-- The text of one field: its key in quotes, a colon and the value's digits. -/
def fieldText (key : String) (v : Nat) : List Char :=
  '"' :: key.toList ++ '"' :: ':' :: Nat.toDigits 10 v

/-- The body of an object holding these fields, a comma before each but the
first one of the object. -/
def fieldsText : Bool → List (String × Nat) → List Char
  | _, [] => []
  | first, (k, v) :: ps => (if first then [] else [',']) ++ fieldText k v ++ fieldsText false ps

theorem toList_fieldEntry (k : String) (v : Nat) :
    ("\"" ++ k ++ "\":" ++ toString v).toList = fieldText k v := by
  have hquote : ("\"" : String).toList = ['"'] := by decide
  have hcolon : ("\":" : String).toList = ['"', ':'] := by decide
  simp [fieldText, hquote, hcolon]

theorem intercalate_fieldText {g : String × Nat → List Char} (hg : ∀ q, g q = fieldText q.1 q.2)
    (p : String × Nat) (ps : List (String × Nat)) :
    [','].intercalate ((p :: ps).map g) = fieldText p.1 p.2 ++ fieldsText false ps := by
  induction ps generalizing p with
  | nil => simp [fieldsText, hg]
  | cons q ps ih =>
    have hrest := ih q
    rw [List.map_cons] at hrest
    rw [List.map_cons, List.map_cons, List.intercalate_cons_cons, hrest, hg]
    simp [fieldsText]

theorem intercalate_fieldsText {g : String × Nat → List Char} (hg : ∀ q, g q = fieldText q.1 q.2)
    (ps : List (String × Nat)) : [','].intercalate (ps.map g) = fieldsText true ps := by
  cases ps with
  | nil => rfl
  | cons p ps =>
    rw [intercalate_fieldText hg]
    simp [fieldsText]

theorem toList_writeFields (ps : List (String × Nat)) :
    (writeFields ps).toList = '{' :: fieldsText true ps ++ ['}'] := by
  have hcomma : (",").toList = [','] := by decide
  have hbrace : ("\x7b" : String).toList = ['{'] := by decide
  have hclose : ("\x7d" : String).toList = ['}'] := by decide
  rw [writeFields, String.toList_append, String.toList_append, String.toList_intercalate,
    List.map_map, hcomma, hbrace, hclose, intercalate_fieldsText]
  · rfl
  · -- each field is written as its text
    intro q
    obtain ⟨k, v⟩ := q
    rw [Function.comp_apply]
    exact toList_fieldEntry k v

theorem fieldsText_false_append (ps : List (String × Nat)) (t : List Char) :
    ∃ ch r, fieldsText false ps ++ '}' :: t = ch :: r ∧ (ch = ',' ∨ ch = '}') := by
  cases ps with
  | nil => exact ⟨'}', t, rfl, .inr rfl⟩
  | cons p ps =>
    exact ⟨',', fieldText p.1 p.2 ++ (fieldsText false ps ++ '}' :: t), by simp [fieldsText], .inl rfl⟩

/-! ## The keys and the values -/

/-- The width of field `i`: the attempts are 32 bits, the intervals 64. -/
def fieldBits (i : Nat) : Nat := if i = attemptsIndex then 32 else 64

theorem idxOf?_documentKeys :
    ∀ j : Fin documentKeys.length, documentKeys.idxOf? documentKeys[j] = some j := by
  decide

theorem plain_documentKeys : ∀ key ∈ documentKeys, ∀ ch ∈ key.toList, Plain ch := by
  -- checked as one boolean, whose evaluation stays shallow
  have hall : documentKeys.all (fun key => key.toList.all fun ch => decide (Plain ch)) = true := by
    decide
  simpa [List.all_eq_true] using hall

theorem length_documentValues (c : GatewayConfig) :
    c.documentValues.length = documentKeys.length := rfl

theorem documentValues_lt (c : GatewayConfig) :
    ∀ i (h : i < c.documentValues.length), c.documentValues[i] < 2 ^ fieldBits i := by
  intro i h
  have hms : ∀ d : Duration, min d.toMillis (2 ^ 64 - 1) < 2 ^ 64 := fun d => by omega
  have hattempts : c.maxReconnectAttempts.toNat < 2 ^ 32 := c.maxReconnectAttempts.toNat_lt
  match i, h with
  | 0, _ => exact hms _
  | 1, _ => exact hms _
  | 2, _ => exact hms _
  | 3, _ => exact hattempts
  | 4, _ => exact hms _
  | 5, _ => exact hms _
  | 6, _ => exact hms _

/-! ## What has been read so far -/

/-- The values of the first `j` fields set, the others not. -/
def readSoFar (vs : List Nat) (j : Nat) : List (Option Nat) :=
  (vs.take j).map some ++ List.replicate (vs.length - j) none

theorem readSoFar_zero (vs : List Nat) : readSoFar vs 0 = List.replicate vs.length none := by
  simp [readSoFar]

theorem readSoFar_of_le {vs : List Nat} {j : Nat} (hj : vs.length ≤ j) :
    readSoFar vs j = vs.map some := by
  simp [readSoFar, List.take_of_length_le hj, Nat.sub_eq_zero_of_le hj]

theorem getD_readSoFar {vs : List Nat} {j : Nat} (hj : j < vs.length) :
    (readSoFar vs j).getD j none = none := by
  have htake : ((vs.take j).map some).length = j := by simp; omega
  rw [readSoFar, List.getD_eq_getElem?_getD, List.getElem?_append_right (by omega), htake,
    Nat.sub_self, List.getElem?_replicate]
  split <;> rfl

theorem set_readSoFar {vs : List Nat} {j : Nat} (hj : j < vs.length) :
    (readSoFar vs j).set j (some vs[j]) = readSoFar vs (j + 1) := by
  have htake : ((vs.take j).map some).length = j := by simp; omega
  obtain ⟨n, hn⟩ : ∃ n, vs.length - j = n + 1 := ⟨vs.length - j - 1, by omega⟩
  have hn' : vs.length - (j + 1) = n := by omega
  rw [readSoFar, readSoFar, List.set_append_right _ _ (by omega), htake, Nat.sub_self, hn, hn',
    List.replicate_succ, List.set_cons_zero, List.take_add_one, List.getElem?_eq_getElem hj]
  simp only [Option.toList_some, List.map_append, List.map_cons, List.map_nil, List.append_assoc,
    List.cons_append, List.nil_append]

end GatewayConfig

/-! ## Reading the document -/

namespace Json

theorem Cursor.rest_ofString (s : String) : (Cursor.ofString s).rest = s.toList := rfl

namespace Reads

variable {t : List Char}

theorem nextKey_first {ks : List Char} (hks : ∀ k ∈ ks, Plain k) :
    Reads (nextKey true) ('"' :: ks ++ '"' :: t) t (some (String.ofList ks)) := by
  unfold nextKey
  refine bind (peekAfterBlanks (by simp [IsBlank])) ?_
  refine bind (pure _) ?_
  refine bind eat ?_
  exact bind (readString hks) (pure _)

theorem nextKey_comma {ks : List Char} (hks : ∀ k ∈ ks, Plain k) :
    Reads (nextKey false) (',' :: '"' :: ks ++ '"' :: t) t (some (String.ofList ks)) := by
  unfold nextKey
  refine bind (peekAfterBlanks (by simp [IsBlank])) ?_
  refine bind eat (bind (peekAfterBlanks (by simp [IsBlank])) (bind (pure _) ?_))
  refine bind eat ?_
  exact bind (readString hks) (pure _)

theorem nextKey_end (first : Bool) : Reads (nextKey first) ('}' :: t) ('}' :: t) none := by
  unfold nextKey
  refine bind (peekAfterBlanks (by simp [IsBlank])) ?_
  exact bind (pure _) (pure _)

theorem readFieldValue {i v : Nat} (hv : v < 2 ^ fieldBits i) {ch : Char}
    (hch : ch = ',' ∨ ch = '}') :
    Reads (GatewayConfig.readFieldValue i) (Nat.toDigits 10 v ++ ch :: t) (ch :: t) v := by
  have hdigit : isDigit ch = false := by rcases hch with rfl | rfl <;> decide
  have htail : ch ≠ '.' ∧ ch ≠ 'e' ∧ ch ≠ 'E' := by rcases hch with rfl | rfl <;> decide
  unfold GatewayConfig.readFieldValue
  unfold fieldBits at hv
  split
  · rename_i h
    rw [if_pos h] at hv
    exact readUnsigned (by decide) hv hdigit htail
  · rename_i h
    rw [if_neg h] at hv
    exact readUnsigned (by decide) hv hdigit htail

theorem readEntries_end (fuel : Nat) (acc : List (Option Nat)) :
    Reads (readEntries (fuel + 1) false acc) ('}' :: t) ('}' :: t) acc := by
  unfold readEntries
  exact bind (nextKey_end false) (pure _)

theorem readEntries_field {fuel : Nat} {first : Bool} {acc res : List (Option Nat)} {i v : Nat}
    {key : String} {rest : List Char} (hkey : documentKeys.idxOf? key = some i)
    (hplain : ∀ ch ∈ key.toList, Plain ch) (hfree : acc.getD i none = none)
    (hv : Reads (GatewayConfig.readFieldValue i) (Nat.toDigits 10 v ++ t) t v)
    (hrest : Reads (readEntries fuel false (acc.set i (some v))) t rest res) :
    Reads (readEntries (fuel + 1) first acc)
      ((if first then [] else [',']) ++ fieldText key v ++ t) rest res := by
  have hkeyRead : Reads (nextKey first)
      ((if first then [] else [',']) ++ '"' :: key.toList ++ '"' :: (':' :: Nat.toDigits 10 v ++ t))
      (':' :: Nat.toDigits 10 v ++ t) (some key) := by
    cases first
    · simpa using nextKey_comma hplain
    · simpa using nextKey_first hplain
  unfold readEntries
  simp only [fieldText, List.cons_append, List.append_assoc] at hkeyRead ⊢
  refine bind hkeyRead ?_
  simp only [hkey, hfree, Option.isSome_none]
  exact bind readColon (bind hv hrest)

/-- The fields from `j` on, in their order and each fitting its width, are all
read: by induction over the fields still to read, with the first `j` values set. -/
theorem readEntries_fields {vs : List Nat} (hlen : vs.length = documentKeys.length)
    (hbits : ∀ i (h : i < vs.length), vs[i] < 2 ^ fieldBits i) (ps : List (String × Nat)) :
    ∀ (j fuel : Nat), (documentKeys.zip vs).drop j = ps → ps.length < fuel →
      Reads (readEntries fuel (j == 0) (readSoFar vs j)) (fieldsText (j == 0) ps ++ '}' :: t)
        ('}' :: t) (vs.map some) := by
  -- the fields from `j` on are as many as the values after the first `j`
  have hcount : ∀ j, ((documentKeys.zip vs).drop j).length = vs.length - j := by
    intro j
    rw [List.length_drop, List.length_zip, hlen, Nat.min_self]
  induction ps with
  | nil =>
    intro j fuel hdrop hfuel
    obtain ⟨fuel, rfl⟩ := Nat.exists_eq_add_one_of_ne_zero (Nat.ne_zero_of_lt hfuel)
    have hj : vs.length ≤ j := by
      have := hcount j
      rw [hdrop, List.length_nil] at this
      omega
    have hfirst : (j == 0) = false := by
      have : 0 < vs.length := by rw [hlen]; decide
      simp; omega
    rw [hfirst, readSoFar_of_le hj]
    exact readEntries_end fuel _
  | cons p ps ih =>
    intro j fuel hdrop hfuel
    obtain ⟨fuel, rfl⟩ := Nat.exists_eq_add_one_of_ne_zero (Nat.ne_zero_of_lt hfuel)
    have hj : j < vs.length := by
      have := hcount j
      rw [hdrop, List.length_cons] at this
      omega
    have hjk : j < documentKeys.length := by omega
    -- the next field is field `j`, its key and its value
    have hz : j < (documentKeys.zip vs).length := by
      rw [List.length_zip]
      exact Nat.lt_min.mpr ⟨hjk, hj⟩
    rw [List.drop_eq_getElem_cons hz, List.getElem_zip, List.cons.injEq] at hdrop
    obtain ⟨hp, hps⟩ := hdrop
    subst hp
    obtain ⟨ch, r, htext, hch⟩ := fieldsText_false_append ps t
    have hrest := ih (j + 1) fuel hps (by simp at hfuel; omega)
    rw [show (j + 1 == 0) = false by simp, ← set_readSoFar hj, htext] at hrest
    simp only [fieldsText, List.append_assoc, htext]
    rw [← List.append_assoc]
    exact readEntries_field (idxOf?_documentKeys ⟨j, hjk⟩)
      (plain_documentKeys _ (List.getElem_mem hjk)) (getD_readSoFar hj)
      (readFieldValue (hbits j hj) hch) hrest

theorem closeEntries : Reads GatewayConfig.closeEntries ('}' :: t) t () := by
  unfold GatewayConfig.closeEntries
  exact bind (peekAfterBlanks (by simp [IsBlank])) eat

theorem run_map {α : Type} {m : Scan α} {text : List Char} {a : α} (h : Reads m text [] a)
    (c : Cursor) (hc : c.rest = text) : (m.run c).map (·.1) = .ok a := by
  obtain ⟨c', hrun, -⟩ := h c hc
  rw [hrun]
  rfl

end Reads

end Json

namespace GatewayConfig

theorem reads_documentFields {vs : List Nat} (hlen : vs.length = documentKeys.length)
    (hbits : ∀ i (h : i < vs.length), vs[i] < 2 ^ fieldBits i) {fuel : Nat}
    (hfuel : documentKeys.length < fuel) (t : List Char) :
    Reads (readEntries fuel true (List.replicate documentKeys.length none))
      (fieldsText true (documentKeys.zip vs) ++ '}' :: t) ('}' :: t) (vs.map some) := by
  rw [← hlen, ← readSoFar_zero]
  exact Reads.readEntries_fields hlen hbits _ 0 fuel List.drop_zero
    (by rw [List.length_zip, hlen, Nat.min_self]; exact hfuel)

/-- The library's reader reads what the library's writer wrote back as the
written values, each in its field. -/
theorem readFields_writeFields (c : GatewayConfig) :
    readFields (writeFields c.documentFields) = .ok (c.documentValues.map some) := by
  have hfuel : documentKeys.length < (Cursor.ofString (writeFields c.documentFields)).rest.length + 8 :=
    Nat.lt_of_lt_of_le (by decide) (Nat.le_add_left 8 _)
  have hfields := reads_documentFields (length_documentValues c) (documentValues_lt c) hfuel []
  unfold readFields
  dsimp only
  refine Reads.run_map (?_ : Reads _ (writeFields c.documentFields).toList [] _)
    (Cursor.ofString (writeFields c.documentFields)) (Cursor.rest_ofString _)
  rw [toList_writeFields]
  refine Reads.bind (Reads.peekAfterBlanks (by simp [IsBlank])) ?_
  refine Reads.bind Reads.eat (Reads.bind hfields (Reads.bind Reads.closeEntries ?_))
  exact Reads.bind (Reads.pure _) (Reads.bind Reads.peekAfterBlanks_nil (Reads.pure _))

end GatewayConfig

/-! ## Whole milliseconds -/

namespace Duration

/-- The duration cut to whole milliseconds, at most `2 ^ 64 - 1` of them: what a
document keeps of an interval. -/
def wholeMillis (d : Duration) : Duration := ofMillis (Min.min d.toMillis (2 ^ 64 - 1))

theorem toNanos_wholeMillis (d : Duration) :
    d.wholeMillis.toNanos = Min.min d.toMillis (2 ^ 64 - 1) * 1000000 := by
  have hfit : Min.min d.toMillis (2 ^ 64 - 1) * 1000000 ≤ maxDurationNanos := by
    unfold maxDurationNanos nanosPerSec
    omega
  rw [wholeMillis, ofMillis, toNanos_ofNanos, Nat.min_eq_left hfit]

theorem isZero_wholeMillis (d : Duration) : d.wholeMillis.isZero = (d.toMillis == 0) := by
  have h := toNanos_wholeMillis d
  unfold isZero
  rw [h, Bool.eq_iff_iff, beq_iff_eq, beq_iff_eq]
  omega

/-- A duration is kept as it is exactly when it is whole milliseconds below
`2 ^ 64` of them. -/
theorem wholeMillis_eq_self_iff (d : Duration) :
    d.wholeMillis = d ↔ d.toNanos % 1000000 = 0 ∧ d.toNanos < 2 ^ 64 * 1000000 := by
  have h := toNanos_wholeMillis d
  unfold toMillis at h
  constructor
  · intro heq
    rw [heq] at h
    omega
  · intro hd
    apply Duration.ext
    rw [h]
    omega

/-- An interval survives the round trip unrefused and uncut exactly when it is
positive whole milliseconds below `2 ^ 64` of them. -/
theorem toMillis_ne_zero_and_wholeMillis_eq_iff (d : Duration) :
    d.toMillis ≠ 0 ∧ d.wholeMillis = d ↔
      0 < d.toNanos ∧ d.toNanos % 1000000 = 0 ∧ d.toNanos < 2 ^ 64 * 1000000 := by
  rw [wholeMillis_eq_self_iff]
  unfold toMillis
  omega

example : (ofNanos 999999).wholeMillis.isZero = true := by decide

example : (ofNanos 1500000).wholeMillis = ofMillis 1 := by decide

end Duration

namespace GatewayConfig

/-- The configuration with each interval cut to whole milliseconds; the
attempts are kept. -/
def inWholeMillis (c : GatewayConfig) : GatewayConfig :=
  { c with
    reconnectInterval := c.reconnectInterval.wholeMillis
    keepAliveInterval := c.keepAliveInterval.wholeMillis
    sanityCheckInterval := c.sanityCheckInterval.wholeMillis
    maxSilentInterval := c.maxSilentInterval.wholeMillis
    initialBackoff := c.initialBackoff.wholeMillis
    connectTimeout := c.connectTimeout.wholeMillis }

theorem intervals_inWholeMillis (c : GatewayConfig) :
    c.inWholeMillis.intervals = c.intervals.map fun p => (p.1, p.2.wholeMillis) := rfl

/-- The written values, read back into their fields, give the configuration
in whole milliseconds. -/
theorem withValues_documentValues (c : GatewayConfig) :
    withValues (c.documentValues.map some) = c.inWholeMillis := by
  simp [withValues, documentValues, inWholeMillis, attemptsIndex, Duration.wholeMillis, u64Max]

theorem inWholeMillis_eq_self_iff (c : GatewayConfig) :
    c.inWholeMillis = c ↔ ∀ p ∈ c.intervals, p.2.wholeMillis = p.2 := by
  obtain ⟨r, k, s, n, m, b, t⟩ := c
  simp [inWholeMillis, intervals, and_comm]

/-- Validation of the configuration in whole milliseconds names the first
interval below one millisecond. -/
theorem validate_inWholeMillis (c : GatewayConfig) :
    c.inWholeMillis.validate =
      match c.intervals.find? (fun p => p.2.toMillis == 0) with
      | some (field, _) => .error (.invalid field "must be greater than zero")
      | none => .ok () := by
  have hfind : c.inWholeMillis.intervals.find? (·.2.isZero) =
      (c.intervals.find? (fun p => p.2.toMillis == 0)).map fun p => (p.1, p.2.wholeMillis) := by
    -- stated with the composition applied first, so that checking it never
    -- unfolds `isZero` of a duration built from milliseconds
    have hpred : ((fun p : String × Duration => p.2.isZero) ∘
        fun p : String × Duration => (p.1, p.2.wholeMillis)) =
        fun p : String × Duration => p.2.toMillis == 0 := by
      funext p
      rw [Function.comp_apply]
      exact Duration.isZero_wholeMillis p.2
    rw [intervals_inWholeMillis, List.find?_map, hpred]
  rw [validate, hfind]
  cases c.intervals.find? (fun p => p.2.toMillis == 0) with
  | none => rfl
  | some p => rfl

section RoundTrip

variable {Doc : Type} {write : List (String × Nat) → Doc}
  {read : Doc → Except TextError (List (Option Nat))} {c : GatewayConfig}

/-- What reading a written configuration back gives: the configuration in
whole milliseconds, or the refusal of the first interval below one millisecond. -/
theorem ofJsonWith_toDocumentWith_eq
    (hround : read (write c.documentFields) = .ok (c.documentValues.map some)) :
    ofJsonWith read (toDocumentWith write c) =
      match c.intervals.find? (fun p => p.2.toMillis == 0) with
      | some (field, _) => .error (.invalid field "must be greater than zero")
      | none => .ok c.inWholeMillis := by
  have hdoc : ofDocumentWith read (toDocumentWith write c) = .ok c.inWholeMillis := by
    rw [ofDocumentWith, toDocumentWith, hround, ← withValues_documentValues]
    rfl
  unfold ofJsonWith
  rw [hdoc]
  show (c.inWholeMillis.validate >>= fun _ => pure c.inWholeMillis) = _
  rw [validate_inWholeMillis]
  cases c.intervals.find? (fun p => p.2.toMillis == 0) with
  | none => rfl
  | some p => rfl

/-- The round trip gives the configuration back exactly when no interval is
below one millisecond and none is cut. -/
theorem ofJsonWith_toDocumentWith_eq_self_iff
    (hround : read (write c.documentFields) = .ok (c.documentValues.map some)) :
    ofJsonWith read (toDocumentWith write c) = .ok c ↔
      ∀ p ∈ c.intervals, p.2.toMillis ≠ 0 ∧ p.2.wholeMillis = p.2 := by
  rw [ofJsonWith_toDocumentWith_eq hround]
  cases hfind : c.intervals.find? (fun p => p.2.toMillis == 0) with
  | some p =>
    -- the first interval below one millisecond is refused
    have hmem : p ∈ c.intervals := List.mem_of_find?_eq_some hfind
    have hzero : p.2.toMillis = 0 := by simpa using List.find?_some hfind
    constructor
    · intro h
      cases h
    · intro hall
      exact absurd hzero (hall p hmem).1
  | none =>
    have hpos : ∀ p ∈ c.intervals, p.2.toMillis ≠ 0 := by
      intro p hp
      simpa using List.find?_eq_none.mp hfind p hp
    rw [Except.ok.injEq, inWholeMillis_eq_self_iff]
    exact ⟨fun h p hp => ⟨hpos p hp, h p hp⟩, fun h p hp => (h p hp).2⟩

end RoundTrip

/-- For a writer and a reader that read each written number back into its
field, writing a configuration and reading it back gives it in whole
milliseconds, unless an interval below one millisecond is then refused, the
first in validation order; it gives the configuration itself exactly when its
intervals are positive whole milliseconds below `2 ^ 64` of them. -/
theorem ofJson_toDocument {Doc : Type} (write : List (String × Nat) → Doc)
    (read : Doc → Except TextError (List (Option Nat))) (c : GatewayConfig)
    (hround : read (write c.documentFields) = .ok (c.documentValues.map some)) :
    ofJsonWith read (toDocumentWith write c) =
      (match c.intervals.find? (fun p => p.2.toMillis == 0) with
       | some (field, _) => .error (.invalid field "must be greater than zero")
       | none => .ok c.inWholeMillis) ∧
    (ofJsonWith read (toDocumentWith write c) = .ok c ↔
      ∀ p ∈ c.intervals,
        0 < p.2.toNanos ∧ p.2.toNanos % 1000000 = 0 ∧ p.2.toNanos < 2 ^ 64 * 1000000) := by
  refine ⟨ofJsonWith_toDocumentWith_eq hround, (ofJsonWith_toDocumentWith_eq_self_iff hround).trans ?_⟩
  exact forall₂_congr fun p _ => Duration.toMillis_ne_zero_and_wholeMillis_eq_iff p.2

/-- The library's writer and reader at a configuration whose first backoff is
one and a half milliseconds: the document carries one, and that is what comes
back. -/
theorem ofJson_toDocument_fractional_backoff :
    readFields (writeFields { GatewayConfig.default with initialBackoff := .ofNanos 1500000 }.documentFields) =
        .ok ({ GatewayConfig.default with initialBackoff := .ofNanos 1500000 }.documentValues.map some) ∧
      ofJsonWith readFields (toDocumentWith writeFields
          { GatewayConfig.default with initialBackoff := .ofNanos 1500000 }) =
        .ok { GatewayConfig.default with initialBackoff := .ofMillis 1 } := by
  have hround := readFields_writeFields { GatewayConfig.default with initialBackoff := .ofNanos 1500000 }
  refine ⟨hround, ?_⟩
  rw [(ofJson_toDocument writeFields readFields _ hround).1]
  decide

end GatewayConfig

end DepthFeed
