import Mathlib
import DepthFeed.Record.Codec

/-!
# The wire layout of a record

`MarketRecord.wireFields` lists the fields with their offsets and widths. The
proof rests on the little-endian laws of `leBytes` and `leValue` and on one
fact about layouts: when the fields follow one another from offset zero
(`tiles`), the encoding is their bytes one after another
(`encode_eq_flatMap_bytes`), so every field is the slice at its offset.
-/

namespace DepthFeed

/-! ## Little-endian numbers -/

section LittleEndian

@[simp] theorem leBytes_zero (n : Nat) : leBytes 0 n = [] := rfl

theorem leBytes_succ (w n : Nat) :
    leBytes (w + 1) n = (n % 256).toUInt8 :: leBytes w (n / 256) := by
  simp only [leBytes, List.range_succ_eq_map, List.map_cons, List.map_map]
  congr 1
  · simp
  · apply List.map_congr_left
    intro i _
    simp [Nat.pow_succ', Nat.div_div_eq_div_mul]

@[simp] theorem length_leBytes (w n : Nat) : (leBytes w n).length = w := by
  simp [leBytes]

@[simp] theorem leValue_nil : leValue [] = 0 := rfl

@[simp] theorem leValue_cons (b : UInt8) (bs : List UInt8) :
    leValue (b :: bs) = b.toNat + 256 * leValue bs := rfl

theorem leValue_leBytes (w n : Nat) : leValue (leBytes w n) = n % 256 ^ w := by
  induction w generalizing n with
  | zero => simp [Nat.mod_one]
  | succ w ih =>
    rw [leBytes_succ, leValue_cons, ih, Nat.pow_succ', Nat.mod_mul]
    simp

theorem leValue_lt (bs : List UInt8) : leValue bs < 256 ^ bs.length := by
  induction bs with
  | nil => simp
  | cons b bs ih =>
    have hb : b.toNat < 256 := b.toNat_lt
    rw [leValue_cons, List.length_cons, Nat.pow_succ']
    omega

theorem leBytes_leValue (bs : List UInt8) : leBytes bs.length (leValue bs) = bs := by
  induction bs with
  | nil => rfl
  | cons b bs ih =>
    have hb : b.toNat < 256 := b.toNat_lt
    rw [List.length_cons, leBytes_succ, leValue_cons]
    congr 1
    · rw [Nat.add_mul_mod_self_left, Nat.mod_eq_of_lt hb]
      exact UInt8.ofNat_toNat
    · rw [Nat.add_mul_div_left _ _ (by decide), Nat.div_eq_of_lt hb, Nat.zero_add, ih]

@[simp] theorem leBytes_one_toNat (b : UInt8) : leBytes 1 b.toNat = [b] := by
  simpa using leBytes_leValue [b]

theorem leBytes_leValue_mod {bs : List UInt8} {w : Nat} (h : bs.length = w) :
    leBytes w (leValue bs % 256 ^ w) = bs := by
  subst h
  rw [Nat.mod_eq_of_lt (leValue_lt bs), leBytes_leValue]

end LittleEndian

/-! ## Slices -/

section Slices

@[simp] theorem length_slice (bs : List UInt8) (offset width : Nat) :
    (slice bs offset width).length = min width (bs.length - offset) := by
  simp [slice]

theorem slice_append_slice (bs : List UInt8) (offset w w' : Nat) :
    slice bs offset w ++ slice bs (offset + w) w' = slice bs offset (w + w') := by
  simp [slice, List.take_add, List.drop_drop]

theorem slice_append_left {a b : List UInt8} {width : Nat} (h : width = a.length) :
    slice (a ++ b) 0 width = a := by
  simp [slice, h]

theorem slice_append_right (a b : List UInt8) (offset width : Nat) :
    slice (a ++ b) (a.length + offset) width = slice b offset width := by
  rw [slice, List.drop_length_add_append, slice]

theorem slice_of_length_eq {bs : List UInt8} {width : Nat} (h : bs.length = width) :
    slice bs 0 width = bs := by
  simp [slice, ← h]

theorem length_slice_of_le {bs : List UInt8} {offset width : Nat}
    (h : offset + width ≤ bs.length) : (slice bs offset width).length = width := by
  rw [length_slice]
  omega

theorem slice_one {bs : List UInt8} {offset : Nat} (h : offset < bs.length) :
    slice bs offset 1 = [bs.getD offset 0] := by
  simp [slice, List.take_one, List.head?_drop, List.getElem?_eq_getElem h]

end Slices

/-! ## Layouts -/

/-- A field of the wire layout: where it starts, how many bytes it takes and
the number it holds. -/
structure WireField where
  offset : Nat
  width : Nat
  value : Nat

namespace WireField

def bytes (f : WireField) : List UInt8 := leBytes f.width f.value

@[simp] theorem length_bytes (f : WireField) : f.bytes.length = f.width := by
  simp [bytes]

end WireField

/-- Whether the fields follow one another from `offset` on, with no gap. -/
def tiles : List WireField → Nat → Bool
  | [], _ => true
  | f :: fs, offset => f.offset == offset && tiles fs (offset + f.width)

def totalWidth (fs : List WireField) : Nat := (fs.map WireField.width).sum

theorem length_flatMap_bytes (fs : List WireField) :
    (fs.flatMap WireField.bytes).length = totalWidth fs := by
  induction fs with
  | nil => rfl
  | cons f fs ih => simp [totalWidth] at ih ⊢

theorem le_offset_of_tiles {fs : List WireField} {offset : Nat}
    (ht : tiles fs offset = true) {f : WireField} (hf : f ∈ fs) : offset ≤ f.offset := by
  induction fs generalizing offset with
  | nil => simp at hf
  | cons g fs ih =>
    simp only [tiles, Bool.and_eq_true, beq_iff_eq] at ht
    rcases List.mem_cons.1 hf with rfl | hf
    · omega
    · have := ih ht.2 hf
      omega

theorem slice_flatMap_bytes {fs : List WireField} {offset : Nat}
    (ht : tiles fs offset = true) {f : WireField} (hf : f ∈ fs) :
    slice (fs.flatMap WireField.bytes) (f.offset - offset) f.width = f.bytes := by
  induction fs generalizing offset with
  | nil => simp at hf
  | cons g fs ih =>
    simp only [tiles, Bool.and_eq_true, beq_iff_eq] at ht
    obtain ⟨hg, hrest⟩ := ht
    rw [List.flatMap_cons]
    rcases List.mem_cons.1 hf with rfl | hf
    · rw [hg, Nat.sub_self]
      exact slice_append_left (WireField.length_bytes f).symm
    · -- a later field lies past the first one's bytes
      have hle := le_offset_of_tiles hrest hf
      have hoff : f.offset - offset = g.bytes.length + (f.offset - (offset + g.width)) := by
        rw [WireField.length_bytes]
        omega
      rw [hoff, slice_append_right]
      exact ih hrest hf

theorem flatMap_slice_of_tiles {fs : List WireField} {offset : Nat}
    (ht : tiles fs offset = true) (bs : List UInt8) :
    fs.flatMap (fun f => slice bs f.offset f.width) = slice bs offset (totalWidth fs) := by
  induction fs generalizing offset with
  | nil => simp [totalWidth, slice]
  | cons g fs ih =>
    simp only [tiles, Bool.and_eq_true, beq_iff_eq] at ht
    obtain ⟨hg, hrest⟩ := ht
    rw [List.flatMap_cons, ih hrest, hg, slice_append_slice]
    simp [totalWidth]

/-! ## The layout of a record -/

namespace LevelEntry

def wireFields (e : LevelEntry) (offset : Nat) : List WireField :=
  [⟨offset, 8, e.price.toUInt64.toNat⟩, ⟨offset + 8, 8, e.size.toUInt64.toNat⟩,
    ⟨offset + 16, 8, e.count.toUInt64.toNat⟩]

theorem flatMap_wireFields (e : LevelEntry) (offset : Nat) :
    (e.wireFields offset).flatMap WireField.bytes = e.encode := by
  simp [wireFields, WireField.bytes, encode]

end LevelEntry

namespace MarketRecord

def wireFields (r : MarketRecord) : List WireField :=
  [⟨0, 1, r.actionRaw.toNat⟩, ⟨1, 1, r.sideRaw.toNat⟩, ⟨2, 1, r.depthRaw.toNat⟩,
    ⟨3, 1, r.flagsRaw.toNat⟩, ⟨4, 2, r.exchangeId.toNat⟩, ⟨6, 2, r.reserved.toNat⟩,
    ⟨8, 8, r.securityId.toNat⟩, ⟨16, 8, r.timestampEvent.toNat⟩,
    ⟨24, 8, r.timestampSent.toNat⟩, ⟨32, 8, r.timestampRecv.toNat⟩,
    ⟨40, 8, r.sequence.toNat⟩, ⟨48, 8, r.price.toUInt64.toNat⟩,
    ⟨56, 8, r.size.toUInt64.toNat⟩] ++
  (List.finRange 10).flatMap (fun i => r.bids[i].wireFields (64 + 24 * i)) ++
  (List.finRange 10).flatMap (fun i => r.asks[i].wireFields (304 + 24 * i))

theorem tiles_wireFields (r : MarketRecord) :
    tiles r.wireFields 0 = true ∧ totalWidth r.wireFields = recordLen := by
  constructor
  · simp [wireFields, tiles, LevelEntry.wireFields, List.finRange_succ, Fin.coe_ofNat_eq_mod]
  · simp [wireFields, totalWidth, LevelEntry.wireFields, List.finRange_succ, recordLen]

theorem flatMap_levels (v : Vector LevelEntry 10) (offset : Nat) :
    ((List.finRange 10).flatMap fun i => v[i].wireFields (offset + 24 * i)).flatMap
      WireField.bytes = v.toList.flatMap LevelEntry.encode := by
  have hv : v.toList = (List.finRange 10).map fun i => v[i] :=
    List.ext_getElem (by simp) fun j _ _ => by simp
  rw [List.flatMap_assoc, hv, List.flatMap_map]
  simp only [LevelEntry.flatMap_wireFields]

theorem encode_eq_flatMap_bytes (r : MarketRecord) :
    r.encode = r.wireFields.flatMap WireField.bytes := by
  simp only [wireFields, List.flatMap_append, flatMap_levels, encode]
  simp [WireField.bytes]

theorem length_encode (r : MarketRecord) : r.encode.length = recordLen := by
  rw [encode_eq_flatMap_bytes, length_flatMap_bytes, (tiles_wireFields r).2]

theorem slice_encode (r : MarketRecord) {f : WireField} (hf : f ∈ r.wireFields) :
    slice r.encode f.offset f.width = f.bytes := by
  simpa [encode_eq_flatMap_bytes] using slice_flatMap_bytes (tiles_wireFields r).1 hf

/-! ## Reading the fields back -/

/-- The string holds every field of the record at the field's offset. -/
def Written (bs : List UInt8) (r : MarketRecord) : Prop :=
  ∀ f ∈ r.wireFields, slice bs f.offset f.width = f.bytes

theorem written_encode (r : MarketRecord) : Written r.encode r := fun _ hf => r.slice_encode hf

theorem toUInt16_leValue {bs : List UInt8} {x : UInt16} (h : bs = leBytes 2 x.toNat) :
    (leValue bs).toUInt16 = x := by
  have hx : x.toNat < 256 ^ 2 := x.toNat_lt
  rw [h, leValue_leBytes, Nat.mod_eq_of_lt hx]
  exact UInt16.ofNat_toNat

theorem toUInt64_leValue {bs : List UInt8} {x : UInt64} (h : bs = leBytes 8 x.toNat) :
    (leValue bs).toUInt64 = x := by
  have hx : x.toNat < 256 ^ 8 := x.toNat_lt
  rw [h, leValue_leBytes, Nat.mod_eq_of_lt hx]
  exact UInt64.ofNat_toNat

theorem toInt64_leValue {bs : List UInt8} {x : Int64} (h : bs = leBytes 8 x.toUInt64.toNat) :
    (leValue bs).toUInt64.toInt64 = x := by
  rw [toUInt64_leValue h, Int64.toInt64_toUInt64]

theorem byte_of_slice {bs : List UInt8} {offset : Nat} {b : UInt8}
    (h : slice bs offset 1 = leBytes 1 b.toNat) : bs.getD offset 0 = b := by
  have hlt : offset < bs.length := by
    have := congrArg List.length h
    simp only [length_slice, length_leBytes] at this
    omega
  rw [slice_one hlt, leBytes_one_toNat] at h
  exact List.head_eq_of_cons_eq h

theorem readAt_of_written {bs : List UInt8} {offset : Nat} {e : LevelEntry}
    (h : ∀ f ∈ e.wireFields offset, slice bs f.offset f.width = f.bytes) :
    LevelEntry.readAt bs offset = e := by
  simp only [LevelEntry.wireFields, List.mem_cons, List.not_mem_nil, or_false,
    forall_eq_or_imp, forall_eq, WireField.bytes] at h
  obtain ⟨hp, hs, hc⟩ := h
  simp [LevelEntry.readAt, toInt64_leValue hp, toInt64_leValue hs, toInt64_leValue hc]

theorem levels_of_written {bs : List UInt8} {fs : List WireField} {offset : Nat}
    {v : Vector LevelEntry 10} (h : ∀ f ∈ fs, slice bs f.offset f.width = f.bytes)
    (hsub : ∀ i : Fin 10, v[i].wireFields (offset + 24 * i) ⊆ fs) :
    Vector.ofFn (fun i => LevelEntry.readAt bs (offset + 24 * i.val)) = v := by
  apply Vector.ext
  intro i hi
  rw [Vector.getElem_ofFn]
  exact readAt_of_written fun f hf => h f (hsub ⟨i, hi⟩ hf)

/-- Decoding reads every field at its offset: a string of the record's length
that holds the fields of `r` decodes to `r`. -/
theorem decode_of_written {bs : List UInt8} {r : MarketRecord} (hlen : bs.length = recordLen)
    (h : Written bs r) : decode bs = .ok r := by
  obtain ⟨a, s, d, fl, ex, rs, sec, te, ts, tr, sq, p, sz, bids, asks⟩ := r
  have field : ∀ {o w : Nat} {v : Nat},
      (⟨o, w, v⟩ : WireField) ∈ wireFields ⟨a, s, d, fl, ex, rs, sec, te, ts, tr, sq, p, sz, bids, asks⟩ →
      slice bs o w = leBytes w v := fun hf => h _ hf
  rw [decode, if_neg (by simp [hlen]), Except.ok.injEq, MarketRecord.mk.injEq]
  refine ⟨byte_of_slice (field (by simp [wireFields])),
    byte_of_slice (field (by simp [wireFields])), byte_of_slice (field (by simp [wireFields])),
    byte_of_slice (field (by simp [wireFields])), toUInt16_leValue (field (by simp [wireFields])),
    toUInt16_leValue (field (by simp [wireFields])), toUInt64_leValue (field (by simp [wireFields])),
    toUInt64_leValue (field (by simp [wireFields])), toUInt64_leValue (field (by simp [wireFields])),
    toUInt64_leValue (field (by simp [wireFields])), toUInt64_leValue (field (by simp [wireFields])),
    toInt64_leValue (field (by simp [wireFields])), toInt64_leValue (field (by simp [wireFields])),
    levels_of_written h fun i f hf => ?_, levels_of_written h fun i f hf => ?_⟩
  · simp only [wireFields, List.mem_append, List.mem_flatMap]
    exact .inl (.inr ⟨i, List.mem_finRange i, hf⟩)
  · simp only [wireFields, List.mem_append, List.mem_flatMap]
    exact .inr ⟨i, List.mem_finRange i, hf⟩

/-! ## Writing the fields back -/

theorem slice_one_eq_leBytes {bs : List UInt8} {offset : Nat} (h : offset < bs.length) :
    slice bs offset 1 = leBytes 1 (bs.getD offset 0).toNat := by
  rw [leBytes_one_toNat, slice_one h]

theorem slice_two_eq_leBytes {bs : List UInt8} {offset : Nat} (h : offset + 2 ≤ bs.length) :
    slice bs offset 2 = leBytes 2 (leValue (slice bs offset 2)).toUInt16.toNat := by
  -- the lemma reduces modulo 2 ^ 16, a closed power that unifies with 256 ^ 2
  have hmod : (leValue (slice bs offset 2)).toUInt16.toNat = leValue (slice bs offset 2) % 256 ^ 2 := by
    rw [Nat.toUInt16_eq]
    exact UInt16.toNat_ofNat'
  rw [hmod, leBytes_leValue_mod (length_slice_of_le h)]

theorem slice_eight_eq_leBytes {bs : List UInt8} {offset : Nat} (h : offset + 8 ≤ bs.length) :
    slice bs offset 8 = leBytes 8 (leValue (slice bs offset 8)).toUInt64.toNat := by
  have hmod : (leValue (slice bs offset 8)).toUInt64.toNat = leValue (slice bs offset 8) % 256 ^ 8 := by
    rw [Nat.toUInt64_eq]
    exact UInt64.toNat_ofNat'
  rw [hmod, leBytes_leValue_mod (length_slice_of_le h)]

theorem written_of_decode {bs : List UInt8} {r : MarketRecord} (h : decode bs = .ok r) :
    Written bs r := by
  have hlen : bs.length = recordLen := by
    by_contra hne
    simp [decode, hne] at h
  rw [decode, if_neg (by simp [hlen]), Except.ok.injEq] at h
  subst h
  intro f hf
  simp only [wireFields, List.mem_append, List.mem_cons, List.not_mem_nil, or_false,
    List.mem_flatMap, LevelEntry.wireFields] at hf
  rcases hf with ((rfl | rfl | rfl | rfl | rfl | rfl | rfl | rfl | rfl | rfl | rfl | rfl | rfl) |
      ⟨i, -, rfl | rfl | rfl⟩) | ⟨i, -, rfl | rfl | rfl⟩
  all_goals simp only [WireField.bytes, Fin.getElem_fin, Vector.getElem_ofFn, LevelEntry.readAt,
    UInt64.toUInt64_toInt64]
  -- in layout order: four header bytes, two half-words, then eight-byte words
  iterate 4 exact slice_one_eq_leBytes (by simp only [hlen, recordLen]; omega)
  iterate 2 exact slice_two_eq_leBytes (by simp only [hlen, recordLen]; omega)
  all_goals exact slice_eight_eq_leBytes (by simp only [hlen, recordLen]; omega)

/-- A string that holds every field of `r` at its offset, and has the record's
length, is the encoding of `r`. -/
theorem encode_eq_of_written {bs : List UInt8} {r : MarketRecord} (hlen : bs.length = recordLen)
    (h : Written bs r) : r.encode = bs := by
  obtain ⟨htiles, hwidth⟩ := tiles_wireFields r
  calc r.encode
      = r.wireFields.flatMap WireField.bytes := encode_eq_flatMap_bytes r
    _ = r.wireFields.flatMap (fun f => slice bs f.offset f.width) :=
        List.flatMap_congr fun f hf => (h f hf).symm
    _ = slice bs 0 recordLen := by rw [flatMap_slice_of_tiles htiles, hwidth]
    _ = bs := slice_of_length_eq hlen

theorem decode_eq_error_iff (bs : List UInt8) :
    decode bs = .error (.length recordLen bs.length) ↔ bs.length ≠ recordLen := by
  by_cases hlen : bs.length = recordLen <;> simp [decode, hlen]

/-- The record codec over the whole format: every record is encoded as 544 bytes
holding each field little-endian at its offset, and decodes back; decoding
fails, naming both lengths, exactly on strings of another length; and every
string of 544 bytes is the encoding of the record it decodes to. -/
theorem record_codec_round_trip :
    (∀ r : MarketRecord, r.encode.length = 544 ∧
      (∀ f ∈ r.wireFields, slice r.encode f.offset f.width = leBytes f.width f.value) ∧
      decode r.encode = .ok r) ∧
    ∀ bs : List UInt8,
      (decode bs = .error (.length 544 bs.length) ↔ bs.length ≠ 544) ∧
      (bs.length = 544 → ∃ r, decode bs = .ok r ∧ r.encode = bs) := by
  refine ⟨fun r => ⟨length_encode r, written_encode r, ?_⟩, fun bs => ⟨decode_eq_error_iff bs, ?_⟩⟩
  · exact decode_of_written (length_encode r) (written_encode r)
  · intro hlen
    cases hr : decode bs with
    | error e => simp [decode, hlen, recordLen] at hr
    | ok r => exact ⟨r, rfl, encode_eq_of_written hlen (written_of_decode hr)⟩

/-- A string of 544 bytes whose action and side bytes are the byte of no
action and of no side decodes all the same, keeping both bytes, and encodes
back to itself. -/
theorem record_codec_round_trip_unknown_header :
    ∃ r, decode (7 :: 9 :: List.replicate 542 0) = .ok r ∧
      (∀ a : Action, a.toRaw ≠ r.actionRaw) ∧ (∀ s : Side, s.toRaw ≠ r.sideRaw) ∧
      r.encode = 7 :: 9 :: List.replicate 542 0 := by
  obtain ⟨r, hdec, henc⟩ :=
    (record_codec_round_trip.2 (7 :: 9 :: List.replicate 542 0)).2
      (by rw [List.length_cons, List.length_cons, List.length_replicate])
  have hhead : r.actionRaw = 7 ∧ r.sideRaw = 9 := by
    simp only [encode, List.cons_append, List.cons.injEq] at henc
    exact ⟨henc.1, henc.2.1⟩
  refine ⟨r, hdec, fun a => ?_, fun s => ?_, henc⟩
  · rw [hhead.1]
    cases a <;> decide
  · rw [hhead.2]
    cases s <;> decide

end MarketRecord

end DepthFeed
