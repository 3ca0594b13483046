import DepthFeed.Record.Basic

/-!
# The record's byte layout

A record is 544 bytes, every field little-endian at a fixed offset with no
padding: the four header bytes, two half-words at 4 and 6, seven words from 8
to 56, then ten bid levels from 64 and ten ask levels from 304, 24 bytes each.
`MarketRecord.decode` accepts exactly the byte strings of that length.
-/

namespace DepthFeed

def recordLen : Nat := 544

/-- The failure to read a record from bytes. -/
inductive WireError where
  | length (expected actual : Nat)
  deriving DecidableEq, Repr

def WireError.message : WireError → String
  | .length expected actual =>
    "record length mismatch: expected " ++ toString expected ++ " bytes, got " ++
      toString actual

/-- The `width` low bytes of `n`, least significant first. -/
def leBytes (width n : Nat) : List UInt8 :=
  (List.range width).map fun i => (n / Nat.pow 256 i % 256).toUInt8

/-- The number whose bytes, least significant first, are `bs`. -/
def leValue (bs : List UInt8) : Nat := bs.foldr (fun b acc => b.toNat + 256 * acc) 0

def slice (bs : List UInt8) (offset width : Nat) : List UInt8 := (bs.drop offset).take width

namespace LevelEntry

def encode (e : LevelEntry) : List UInt8 :=
  leBytes 8 e.price.toUInt64.toNat ++ leBytes 8 e.size.toUInt64.toNat ++
    leBytes 8 e.count.toUInt64.toNat

def readAt (bs : List UInt8) (offset : Nat) : LevelEntry where
  price := (leValue (slice bs offset 8)).toUInt64.toInt64
  size := (leValue (slice bs (offset + 8) 8)).toUInt64.toInt64
  count := (leValue (slice bs (offset + 16) 8)).toUInt64.toInt64

end LevelEntry

namespace MarketRecord

def encode (r : MarketRecord) : List UInt8 :=
  [r.actionRaw, r.sideRaw, r.depthRaw, r.flagsRaw] ++
    leBytes 2 r.exchangeId.toNat ++ leBytes 2 r.reserved.toNat ++
    leBytes 8 r.securityId.toNat ++ leBytes 8 r.timestampEvent.toNat ++
    leBytes 8 r.timestampSent.toNat ++ leBytes 8 r.timestampRecv.toNat ++
    leBytes 8 r.sequence.toNat ++ leBytes 8 r.price.toUInt64.toNat ++
    leBytes 8 r.size.toUInt64.toNat ++
    r.bids.toList.flatMap LevelEntry.encode ++ r.asks.toList.flatMap LevelEntry.encode

def decode (bs : List UInt8) : Except WireError MarketRecord :=
  if bs.length ≠ recordLen then .error (.length recordLen bs.length) else
  let u64At (offset : Nat) : UInt64 := (leValue (slice bs offset 8)).toUInt64
  .ok {
    actionRaw := bs.getD 0 0
    sideRaw := bs.getD 1 0
    depthRaw := bs.getD 2 0
    flagsRaw := bs.getD 3 0
    exchangeId := (leValue (slice bs 4 2)).toUInt16
    reserved := (leValue (slice bs 6 2)).toUInt16
    securityId := u64At 8
    timestampEvent := u64At 16
    timestampSent := u64At 24
    timestampRecv := u64At 32
    sequence := u64At 40
    price := (u64At 48).toInt64
    size := (u64At 56).toInt64
    bids := Vector.ofFn fun i => LevelEntry.readAt bs (64 + 24 * i.val)
    asks := Vector.ofFn fun i => LevelEntry.readAt bs (304 + 24 * i.val)
  }

end MarketRecord

/-- Bytes as lowercase hexadecimal text, two digits a byte. -/
def hexOfBytes (bs : List UInt8) : String :=
  let digit (n : Nat) : Char := if n < 10 then Char.ofNat (48 + n) else Char.ofNat (87 + n)
  String.ofList (bs.flatMap fun b => [digit (b.toNat / 16), digit (b.toNat % 16)])

def hexDigitValue (c : Char) : Option Nat :=
  if '0' ≤ c ∧ c ≤ '9' then some (c.toNat - 48)
  else if 'a' ≤ c ∧ c ≤ 'f' then some (c.toNat - 87)
  else if 'A' ≤ c ∧ c ≤ 'F' then some (c.toNat - 55)
  else none

/-- The byte a two-character group writes: two hexadecimal digits, or a plus
sign and one digit, the way an unsigned number in base sixteen is read. -/
def hexPairValue (a b : Char) : Option Nat :=
  if a = '+' then hexDigitValue b
  else do
    let hi ← hexDigitValue a
    let lo ← hexDigitValue b
    pure (hi * 16 + lo)

/-- The bytes written by two-character groups (see `hexPairValue`); `none` on
an odd count or a group that is not a byte. -/
def bytesOfHex : List Char → Option (List UInt8)
  | [] => some []
  | a :: b :: rest => do
    let v ← hexPairValue a b
    let tail ← bytesOfHex rest
    pure (v.toUInt8 :: tail)
  | [_] => none

end DepthFeed
