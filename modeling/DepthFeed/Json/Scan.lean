import DepthFeed.Number.Binary64

/-!
# Scanning JSON text

A cursor that knows its line and byte column, the faults a reader reports, and
scanners for blanks, words, strings and numbers. A fault in what was consumed
is reported at the cursor, one found by looking ahead one byte past where that
character starts. Numbers keep as many digits as fit below `2 ^ 64`, and one
with a fraction or an exponent is scaled to binary64 by rounded powers of ten.
-/

namespace DepthFeed

namespace Json

/-- What went wrong while reading JSON text. -/
inductive Fault where
  | eofList
  | eofObject
  | eofString
  | eofValue
  | expectedColon
  | expectedListCommaOrEnd
  | expectedObjectCommaOrEnd
  | expectedIdent
  | expectedValue
  | invalidEscape
  | invalidNumber
  | numberOutOfRange
  | controlCharacter
  | keyMustBeString
  | loneLeadingSurrogate
  | trailingComma
  | trailingCharacters
  | unexpectedEndOfHexEscape
  | recursionLimit
  | custom (text : String)
  deriving DecidableEq, Repr

def Fault.text : Fault → String
  | .eofList => "EOF while parsing a list"
  | .eofObject => "EOF while parsing an object"
  | .eofString => "EOF while parsing a string"
  | .eofValue => "EOF while parsing a value"
  | .expectedColon => "expected `:`"
  | .expectedListCommaOrEnd => "expected `,` or `]`"
  | .expectedObjectCommaOrEnd => "expected `,` or `\x7d`"
  | .expectedIdent => "expected ident"
  | .expectedValue => "expected value"
  | .invalidEscape => "invalid escape"
  | .invalidNumber => "invalid number"
  | .numberOutOfRange => "number out of range"
  | .controlCharacter => "control character (\\u0000-\\u001F) found while parsing a string"
  | .keyMustBeString => "key must be a string"
  | .loneLeadingSurrogate => "lone leading surrogate in hex escape"
  | .trailingComma => "trailing comma"
  | .trailingCharacters => "trailing characters"
  | .unexpectedEndOfHexEscape => "unexpected end of hex escape"
  | .recursionLimit => "recursion limit exceeded"
  | .custom text => text

/-- A fault with the line and column it is reported at; line 0 means the
position is not known yet. -/
structure TextError where
  fault : Fault
  line : Nat
  column : Nat
  deriving DecidableEq, Repr

def TextError.message (e : TextError) : String :=
  if e.line = 0 then e.fault.text
  else e.fault.text ++ " at line " ++ toString e.line ++ " column " ++ toString e.column

/-- A position in JSON text: what is left to read, the byte offset, the line
and the byte offset at which that line starts. -/
structure Cursor where
  rest : List Char
  pos : Nat
  line : Nat
  lineStart : Nat
  total : Nat

namespace Cursor

def ofString (s : String) : Cursor := ⟨s.toList, 0, 1, 0, s.utf8ByteSize⟩

def eat (c : Cursor) : Cursor :=
  match c.rest with
  | [] => c
  | ch :: rest =>
    let pos := c.pos + ch.utf8Size
    if ch = '\n' then { c with rest, pos, line := c.line + 1, lineStart := pos }
    else { c with rest, pos }

/-- The cursor `n` bytes further on; a character cut in two is dropped whole
while the offset stops inside it. -/
def skipBytes (c : Cursor) (n : Nat) : Cursor :=
  let target := c.pos + n
  let rec go : Nat → Cursor → Cursor
    | 0, d => d
    | fuel + 1, d => if d.pos < target ∧ d.rest ≠ [] then go fuel d.eat else d
  let d := go c.rest.length c
  if target < d.pos then { d with pos := target } else d

def errorHere (c : Cursor) (f : Fault) : TextError := ⟨f, c.line, c.pos - c.lineStart⟩

/-- An error one byte past the cursor: just past the next character when it
is a single byte, inside it otherwise. -/
def errorPeek (c : Cursor) (f : Fault) : TextError :=
  match c.rest with
  | [] => c.errorHere f
  | ch :: _ => if ch = '\n' then ⟨f, c.line + 1, 0⟩ else ⟨f, c.line, c.pos + 1 - c.lineStart⟩

/-- The cursor past any blanks: space, tab, line feed and carriage return. -/
def skipBlanks (c : Cursor) : Cursor :=
  let rec go : Nat → Cursor → Cursor
    | 0, d => d
    | fuel + 1, d =>
      match d.rest with
      | ch :: _ => if ch = ' ' ∨ ch = '\n' ∨ ch = '\t' ∨ ch = '\r' then go fuel d.eat else d
      | [] => d
  go c.rest.length c

end Cursor

abbrev Scan := StateT Cursor (Except TextError)

def fail {α : Type} (f : Fault) : Scan α := do throw ((← get).errorHere f)

def failPeek {α : Type} (f : Fault) : Scan α := do throw ((← get).errorPeek f)

/-- Fails one byte past an earlier cursor, for a character taken from there and
then refused: only its first byte counts as read. -/
def failPast {α : Type} (c : Cursor) (f : Fault) : Scan α := throw (c.errorPeek f)

def peek : Scan (Option Char) := return (← get).rest.head?

def peekOrNull : Scan Char := return ((← get).rest.head?.getD '\x00')

def eat : Scan Unit := modify Cursor.eat

def next : Scan (Option Char) := do
  let c ← get
  match c.rest with
  | [] => pure none
  | ch :: _ => set c.eat; pure (some ch)

/-- Skips blanks and returns the next character, not consumed. -/
def peekAfterBlanks : Scan (Option Char) := do
  modify Cursor.skipBlanks
  peek

/-- Reads the rest of a literal word whose first letter was consumed. -/
def readWord : List Char → Scan Unit
  | [] => pure ()
  | w :: ws => do
    let c ← get
    match (← next) with
    | none => fail .eofValue
    | some ch => if ch = w then readWord ws else failPast c .expectedIdent

def isDigit (ch : Char) : Bool := '0' ≤ ch && ch ≤ '9'

def hexValue (ch : Char) : Option Nat :=
  if '0' ≤ ch ∧ ch ≤ '9' then some (ch.toNat - 48)
  else if 'a' ≤ ch ∧ ch ≤ 'f' then some (ch.toNat - 87)
  else if 'A' ≤ ch ∧ ch ≤ 'F' then some (ch.toNat - 55)
  else none

/-- Reads the four hexadecimal digits of a `\u` escape. Fewer than four bytes
left is an unfinished string; four bytes that are not all hexadecimal digits
are an invalid escape reported past them. -/
def readHex4 : Scan Nat := do
  let c ← get
  if c.total - c.pos < 4 then
    set (c.skipBytes (c.total - c.pos))
    fail .eofString
  else
    match c.rest with
    | a :: b :: d :: e :: _ =>
      match hexValue a, hexValue b, hexValue d, hexValue e with
      | some x, some y, some z, some w =>
        set c.eat.eat.eat.eat
        pure (((x * 16 + y) * 16 + z) * 16 + w)
      | _, _, _, _ => set (c.skipBytes 4); fail .invalidEscape
    | _ => set (c.skipBytes 4); fail .invalidEscape

/-- Reads the code point of a `\u` escape whose `u` was consumed; a leading
surrogate must be followed by an escaped trailing one. -/
def readUnicodeEscape : Scan Char := do
  let n ← readHex4
  if 0xDC00 ≤ n ∧ n ≤ 0xDFFF then fail .loneLeadingSurrogate
  else if n < 0xD800 ∨ 0xDBFF < n then pure (Char.ofNat n)
  else
    match (← peek) with
    | none => fail .eofString
    | some '\\' => eat
    | some _ => failPeek .unexpectedEndOfHexEscape
    match (← peek) with
    | none => fail .eofString
    | some 'u' => eat
    | some _ => failPeek .unexpectedEndOfHexEscape
    let n2 ← readHex4
    if n2 < 0xDC00 ∨ 0xDFFF < n2 then fail .loneLeadingSurrogate
    else pure (Char.ofNat ((n - 0xD800) * 0x400 + (n2 - 0xDC00) + 0x10000))

def readEscape : Scan Char := do
  let c ← get
  match (← next) with
  | none => fail .eofString
  | some '"' => pure '"'
  | some '\\' => pure '\\'
  | some '/' => pure '/'
  | some 'b' => pure (Char.ofNat 8)
  | some 'f' => pure (Char.ofNat 12)
  | some 'n' => pure '\n'
  | some 'r' => pure '\r'
  | some 't' => pure '\t'
  | some 'u' => readUnicodeEscape
  | some _ => failPast c .invalidEscape

/-- Reads string content up to and through the closing quote, the opening
quote consumed. A raw control character is refused past itself. -/
def readStringFrom : Nat → List Char → Scan String
  | 0, _ => fail .eofString
  | fuel + 1, acc => do
    match (← peek) with
    | none => fail .eofString
    | some '"' => eat; pure (String.ofList acc.reverse)
    | some '\\' => eat; let ch ← readEscape; readStringFrom fuel (ch :: acc)
    | some ch =>
      eat
      if ch.toNat < 0x20 then fail .controlCharacter else readStringFrom fuel (ch :: acc)

def readString : Scan String := do
  readStringFrom ((← get).rest.length + 1) []

def skipEscape : Scan Unit := do
  let c ← get
  match (← next) with
  | none => fail .eofString
  | some ch =>
    if ch = '"' ∨ ch = '\\' ∨ ch = '/' ∨ ch = 'b' ∨ ch = 'f' ∨ ch = 'n' ∨ ch = 'r' ∨ ch = 't'
    then pure ()
    else if ch = 'u' then do let _ ← readHex4; pure ()
    else failPast c .invalidEscape

/-- Skips string content through the closing quote. A raw control character
is refused at itself, not past it. -/
def skipStringFrom : Nat → Scan Unit
  | 0 => fail .eofString
  | fuel + 1 => do
    match (← peek) with
    | none => fail .eofString
    | some '"' => eat
    | some '\\' => eat; skipEscape; skipStringFrom fuel
    | some ch => if ch.toNat < 0x20 then fail .controlCharacter else do eat; skipStringFrom fuel

def skipString : Scan Unit := do
  skipStringFrom ((← get).rest.length + 1)

/-- Consumes a run of ASCII digits and returns their values. -/
def takeDigits : Scan (List Nat) := do
  let c ← get
  let ds := c.rest.takeWhile isDigit
  set (ds.foldl (fun d _ => d.eat) c)
  pure (ds.map fun ch => ch.toNat - 48)

def u64Max : Nat := 18446744073709551615

/-- A number as read: unsigned, negative, or binary64. -/
inductive Number where
  | unsigned (n : Nat)
  | negative (n : Int)
  | float (x : Binary64)
  deriving DecidableEq, Repr

/-- Folds digits into a significand while it stays below `2 ^ 64`: the new
significand, how many digits it took, and whether one was left over. -/
def absorb (sig : Nat) : List Nat → Nat × Nat × Bool
  | [] => (sig, 0, false)
  | d :: ds =>
    if u64Max < sig * 10 + d then (sig, 0, true)
    else
      let (s, k, spilled) := absorb (sig * 10 + d) ds
      (s, k + 1, spilled)

def clampI32 (e : Int) : Int := max (-2147483648) (min 2147483647 e)

/-- `sig * 10 ^ exp` as binary64 with the given sign, one power of ten at a time. -/
def scaleDecimal (positive : Bool) (sig : Nat) (exp : Int) : Scan Binary64 :=
  let signed (f : Binary64) := if positive then f else f.neg
  let rec go : Nat → Binary64 → Int → Scan Binary64
    | 0, f, _ => pure (signed f)
    | fuel + 1, f, e =>
      if e.natAbs ≤ 308 then
        if 0 ≤ e then
          let g := f.mul (Binary64.pow10 e.toNat)
          if g.isInfinite then fail .numberOutOfRange else pure (signed g)
        else pure (signed (f.div (Binary64.pow10 e.natAbs)))
      else if f.isZero then pure (signed f)
      else if 0 ≤ e then fail .numberOutOfRange
      else go fuel (f.div (Binary64.pow10 308)) (e + 308)
  go (exp.natAbs / 308 + 2) (Binary64.ofNat sig) exp

/-- Reads exponent digits, the first already read as `exp`: the exponent, or
`none` when it outgrew the 32-bit range, the offending digit consumed. -/
def readExponentDigits : Nat → Nat → Scan (Option Nat)
  | 0, exp => pure (some exp)
  | fuel + 1, exp => do
    let ch ← peekOrNull
    if isDigit ch then
      eat
      let e := exp * 10 + (ch.toNat - 48)
      if 2147483647 < e then pure none else readExponentDigits fuel e
    else pure (some exp)

/-- Reads an exponent part, its `e` next, and scales the significand. -/
def readExponent (positive : Bool) (sig : Nat) (start : Int) : Scan Binary64 := do
  eat
  let positiveExp ← do
    match (← peekOrNull) with
    | '+' => eat; pure true
    | '-' => eat; pure false
    | _ => pure true
  let c ← get
  match (← next) with
  | none => fail .eofValue
  | some ch =>
    if !isDigit ch then failPast c .invalidNumber else
    match (← readExponentDigits ((← get).rest.length) (ch.toNat - 48)) with
    | some exp =>
      let final := clampI32 (if positiveExp then start + exp else start - exp)
      scaleDecimal positive sig final
    | none =>
      if sig ≠ 0 ∧ positiveExp then fail .numberOutOfRange
      else
        let _ ← takeDigits
        pure (if positive then Binary64.zero else Binary64.zero.neg)

/-- Reads a fraction, its point next, and what follows it. -/
def readFraction (positive : Bool) (sig : Nat) (before : Int) : Scan Binary64 := do
  eat
  let ds ← takeDigits
  if ds.isEmpty then
    match (← peek) with
    | some _ => failPeek .invalidNumber
    | none => failPeek .eofValue
  else
    let (s, k, _) := absorb sig ds
    let exp := before - k
    match (← peekOrNull) with
    | 'e' | 'E' => readExponent positive s exp
    | _ => scaleDecimal positive s exp

/-- What follows the integer digits: a fraction, an exponent, or nothing. -/
def readNumberTail (positive : Bool) (sig : Nat) : Scan Number := do
  match (← peekOrNull) with
  | '.' => return .float (← readFraction positive sig 0)
  | 'e' | 'E' => return .float (← readExponent positive sig 0)
  | _ =>
    if positive then pure (.unsigned sig)
    else if 1 ≤ sig ∧ sig ≤ 9223372036854775808 then pure (.negative (-(sig : Int)))
    else pure (.float (Binary64.ofNat sig).neg)

/-- Reads a number's digits, its sign already consumed. A leading zero may
not be followed by another digit. -/
def readInteger (positive : Bool) : Scan Number := do
  let c ← get
  match (← next) with
  | none => fail .eofValue
  | some '0' =>
    if isDigit (← peekOrNull) then failPeek .invalidNumber else readNumberTail positive 0
  | some ch =>
    if '1' ≤ ch ∧ ch ≤ '9' then
      let ds ← takeDigits
      let (s, k, spilled) := absorb (ch.toNat - 48) ds
      if spilled then
        -- digits past the sixty-fourth bit only raise the exponent
        let exp : Int := ds.length - k
        match (← peekOrNull) with
        | '.' => return .float (← readFraction positive s exp)
        | 'e' | 'E' => return .float (← readExponent positive s exp)
        | _ => return .float (← scaleDecimal positive s exp)
      else readNumberTail positive s
    else failPast c .invalidNumber

def skipExponent : Scan Unit := do
  eat
  match (← peekOrNull) with
  | '+' | '-' => eat
  | _ => pure ()
  let c ← get
  match (← next) with
  | some ch => if isDigit ch then do let _ ← takeDigits; pure () else failPast c .invalidNumber
  | none => fail .invalidNumber

def skipInteger : Scan Unit := do
  let c ← get
  match (← next) with
  | some '0' => if isDigit (← peekOrNull) then failPeek .invalidNumber else pure ()
  | some ch =>
    if '1' ≤ ch ∧ ch ≤ '9' then do let _ ← takeDigits; pure () else failPast c .invalidNumber
  | none => fail .invalidNumber
  match (← peekOrNull) with
  | '.' =>
    eat
    let ds ← takeDigits
    if ds.isEmpty then failPeek .invalidNumber
    else if (← peekOrNull) = 'e' ∨ (← peekOrNull) = 'E' then skipExponent else pure ()
  | 'e' | 'E' => skipExponent
  | _ => pure ()

end Json

end DepthFeed
