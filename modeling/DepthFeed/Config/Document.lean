import DepthFeed.Config.Basic
import DepthFeed.Json.Read
import DepthFeed.Number.Shortest
import DepthFeed.Text.Escape

/-!
# Configuration documents

A configuration is stored as a JSON object keyed by field name, intervals in
whole milliseconds capped at `2 ^ 64 - 1`. The writer and the reader of the
document are parameters (`toDocumentWith`, `ofDocumentWith`); the library runs
with `writeFields` and `readFields`, which reads an object or an array of the
fields in order, skips unknown keys, refuses a repeated field, and reports
each refusal with its line and byte column.
-/

namespace DepthFeed

namespace Json

/-- A value found where another was expected, as named in refusals. -/
inductive Unexpected where
  | unit
  | bool (b : Bool)
  | unsigned (n : Nat)
  | signed (n : Int)
  | float (x : Binary64)
  | str (s : String)
  | seq
  | map

def Unexpected.text : Unexpected → String
  | .unit => "null"
  | .bool b => "boolean `" ++ (if b then "true" else "false") ++ "`"
  | .unsigned n => "integer `" ++ toString n ++ "`"
  | .signed n => "integer `" ++ toString n ++ "`"
  | .float x => "floating point `" ++ x.text ++ "`"
  | .str s => "string " ++ Text.debugQuoted s
  | .seq => "sequence"
  | .map => "map"

/-- The refusal of a value of the wrong type, at the cursor. -/
def invalidType {α : Type} (u : Unexpected) (expected : String) : Scan α :=
  fail (.custom ("invalid type: " ++ u.text ++ ", expected " ++ expected))

def invalidValue {α : Type} (u : Unexpected) (expected : String) : Scan α :=
  fail (.custom ("invalid value: " ++ u.text ++ ", expected " ++ expected))

def Number.unexpected : Number → Unexpected
  | .unsigned n => .unsigned n
  | .negative n => .signed n
  | .float x => .float x

/-- Refuses the value at the cursor as not being `expected`, reading it far
enough to name it. -/
def refuseValueType {α : Type} (expected : String) : Scan α := do
  match (← peekOrNull) with
  | 'n' => eat; readWord ['u', 'l', 'l']; invalidType .unit expected
  | 't' => eat; readWord ['r', 'u', 'e']; invalidType (.bool true) expected
  | 'f' => eat; readWord ['a', 'l', 's', 'e']; invalidType (.bool false) expected
  | '-' => eat; let n ← readInteger false; invalidType n.unexpected expected
  | '"' => eat; let s ← readString; invalidType (.str s) expected
  | '[' => invalidType .seq expected
  | '{' => invalidType .map expected
  | ch => if isDigit ch then do let n ← readInteger true; invalidType n.unexpected expected
          else failPeek .expectedValue

/-- Reads an unsigned integer below `2 ^ bits`, named `u64` or `u32` in refusals. -/
def readUnsigned (bits : Nat) : Scan Nat := do
  let expected := "u" ++ toString bits
  match (← peekAfterBlanks) with
  | none => failPeek .eofValue
  | some ch =>
    let n ← if ch = '-' then do eat; readInteger false
      else if isDigit ch then readInteger true
      else refuseValueType expected
    match n with
    | .unsigned v => if v < Nat.pow 2 bits then pure v else invalidValue (.unsigned v) expected
    | .negative v => invalidValue (.signed v) expected
    | .float x => invalidType (.float x) expected

/-- After a value inside the open brackets `frames` (innermost first), or
right after opening the innermost one when `afterValue` is false: consumes
closing brackets and at most one comma. `none` when the outermost bracket
closed, else the brackets still open, the next value due in the innermost. -/
def closeBrackets : Nat → Bool → List Char → Scan (Option (List Char))
  | _, _, [] => pure none
  | 0, _, _ => failPeek .recursionLimit
  | fuel + 1, afterValue, frame :: rest => do
    match (← peekAfterBlanks) with
    | some ch =>
      if ch = ',' ∧ afterValue then do eat; pure (some (frame :: rest))
      else if (ch = ']' ∧ frame = '[') ∨ (ch = '}' ∧ frame = '{') then do
        eat
        if rest.isEmpty then pure none else closeBrackets fuel true rest
      else if afterValue then
        failPeek (if frame = '[' then .expectedListCommaOrEnd else .expectedObjectCommaOrEnd)
      else pure (some (frame :: rest))
    | none => failPeek (if frame = '[' then .eofList else .eofObject)

/-- Skips values until every bracket in `frames` is closed. -/
def skipValues : Nat → List Char → Scan Unit
  | 0, _ => failPeek .recursionLimit
  | fuel + 1, frames => do
    let opened ← do
      match (← peekAfterBlanks) with
      | none => failPeek .eofValue
      | some 'n' => eat; readWord ['u', 'l', 'l']; pure none
      | some 't' => eat; readWord ['r', 'u', 'e']; pure none
      | some 'f' => eat; readWord ['a', 'l', 's', 'e']; pure none
      | some '-' => eat; skipInteger; pure none
      | some '"' => eat; skipString; pure none
      | some '[' => eat; pure (some '[')
      | some '{' => eat; pure (some '{')
      | some ch => if isDigit ch then do skipInteger; pure none else failPeek .expectedValue
    let next ← match opened with
      | some frame => closeBrackets fuel false (frame :: frames)
      | none => closeBrackets fuel true frames
    match next with
    | none => pure ()
    | some open_ =>
      if open_.head? = some '{' then
        match (← peekAfterBlanks) with
        | some '"' => eat; skipString
        | some _ => failPeek .keyMustBeString
        | none => failPeek .eofObject
        match (← peekAfterBlanks) with
        | some ':' => eat
        | some _ => failPeek .expectedColon
        | none => failPeek .eofObject
      skipValues fuel open_

/-- Skips one well-formed value of any shape, nested arrays and objects
included. -/
def skipValue : Scan Unit := do
  skipValues (2 * (← get).rest.length + 4) []

end Json

namespace GatewayConfig

open Json

/-- The document keys of the fields, in their written order. -/
def documentKeys : List String :=
  ["reconnect_interval_ms", "keep_alive_interval_ms", "sanity_check_interval_ms",
   "max_reconnect_attempts", "max_silent_interval_ms", "initial_backoff_ms", "connect_timeout_ms"]

/-- The position of the attempts field, the only one that is not an interval. -/
def attemptsIndex : Nat := 3

def documentValues (c : GatewayConfig) : List Nat :=
  let ms (d : Duration) := min d.toMillis u64Max
  [ms c.reconnectInterval, ms c.keepAliveInterval, ms c.sanityCheckInterval,
   c.maxReconnectAttempts.toNat, ms c.maxSilentInterval, ms c.initialBackoff, ms c.connectTimeout]

/-- The fields a configuration hands a document writer: each key with its value. -/
def documentFields (c : GatewayConfig) : List (String × Nat) := documentKeys.zip c.documentValues

def toDocumentWith {Doc : Type} (write : List (String × Nat) → Doc) (c : GatewayConfig) : Doc :=
  write c.documentFields

/-- A one-line JSON object of the fields, each value in decimal. -/
def writeFields (fields : List (String × Nat)) : String :=
  "\x7b" ++ ",".intercalate (fields.map fun (k, v) => "\"" ++ k ++ "\":" ++ toString v) ++ "\x7d"

def toDocument (c : GatewayConfig) : String := toDocumentWith writeFields c

/-- The configuration as a document of one field per line, indented by two. -/
def toPrettyDocument (c : GatewayConfig) : List String :=
  let body := (documentKeys.zip c.documentValues).map fun (k, v) => "  \"" ++ k ++ "\": " ++ toString v
  let n := body.length
  ["\x7b"] ++ (body.zipIdx.map fun (line, i) => if i + 1 < n then line ++ "," else line) ++ ["\x7d"]

/-- The configuration with read values in place of the defaults. -/
def withValues (values : List (Option Nat)) : GatewayConfig :=
  let d := GatewayConfig.default
  let at_ (i : Nat) (fallback : Duration) : Duration :=
    match values.getD i none with
    | some ms => Duration.ofMillis ms
    | none => fallback
  { reconnectInterval := at_ 0 d.reconnectInterval
    keepAliveInterval := at_ 1 d.keepAliveInterval
    sanityCheckInterval := at_ 2 d.sanityCheckInterval
    maxReconnectAttempts := match values.getD attemptsIndex none with
      | some n => n.toUInt32
      | none => d.maxReconnectAttempts
    maxSilentInterval := at_ 4 d.maxSilentInterval
    initialBackoff := at_ 5 d.initialBackoff
    connectTimeout := at_ 6 d.connectTimeout }

def readFieldValue (i : Nat) : Scan Nat :=
  if i = attemptsIndex then readUnsigned 32 else readUnsigned 64

/-- Whether another array item follows; refuses what cannot continue an array. -/
def hasNextItem (first : Bool) : Scan Bool := do
  match (← peekAfterBlanks) with
  | none => failPeek .eofList
  | some ']' => pure false
  | some ch =>
    if first then pure true
    else if ch = ',' then
      eat
      match (← peekAfterBlanks) with
      | some ']' => failPeek .trailingComma
      | some _ => pure true
      | none => failPeek .eofValue
    else failPeek .expectedListCommaOrEnd

/-- Reads the fields given in array order, from field `i` on. -/
def readItems : Nat → Nat → List (Option Nat) → Scan (List (Option Nat))
  | 0, _, acc => pure acc.reverse
  | fuel + 1, i, acc => do
    if documentKeys.length ≤ i then pure acc.reverse
    else if ← hasNextItem (i = 0) then
      let v ← readFieldValue i
      readItems fuel (i + 1) (some v :: acc)
    else pure acc.reverse

/-- The closing bracket of an array document; more items are refused. -/
def closeItems : Scan Unit := do
  match (← peekAfterBlanks) with
  | some ']' => eat
  | some ',' =>
    eat
    match (← peekAfterBlanks) with
    | some ']' => failPeek .trailingComma
    | _ => failPeek .trailingCharacters
  | some _ => failPeek .trailingCharacters
  | none => failPeek .eofList

def nextKey (first : Bool) : Scan (Option String) := do
  let start ← peekAfterBlanks
  let keyStart ← match start with
    | some '}' => pure none
    | some ',' => if first then pure (some start) else do eat; pure (some (← peekAfterBlanks))
    | some _ => if first then pure (some start) else failPeek .expectedObjectCommaOrEnd
    | none => failPeek .eofObject
  match keyStart with
  | none => pure none
  | some (some '"') => eat; return some (← readString)
  | some (some '}') => failPeek .trailingComma
  | some (some _) => failPeek .keyMustBeString
  | some none => failPeek .eofValue

/-- Refuses a repeated field, at the position the closing brace would leave. -/
def refuseDuplicate {α : Type} (key : String) : Scan α := do
  let c := (← get).skipBlanks
  let c := if c.rest.head? = some '}' then c.eat else c
  throw (c.errorHere (.custom ("duplicate field `" ++ key ++ "`")))

/-- Reads object fields until the closing brace, which is left unread. -/
def readEntries : Nat → Bool → List (Option Nat) → Scan (List (Option Nat))
  | 0, _, acc => pure acc
  | fuel + 1, first, acc => do
    match (← nextKey first) with
    | none => pure acc
    | some key =>
      match documentKeys.idxOf? key with
      | some i =>
        if (acc.getD i none).isSome then refuseDuplicate key
        else
          readColon
          let v ← readFieldValue i
          readEntries fuel false (acc.set i (some v))
      | none =>
        readColon
        skipValue
        readEntries fuel false acc

def closeEntries : Scan Unit := do
  match (← peekAfterBlanks) with
  | some '}' => eat
  | some ',' => failPeek .trailingComma
  | some _ => failPeek .trailingCharacters
  | none => failPeek .eofObject

/-- Reads the field values of a configuration document, each in its field's
place, `none` where the document has none. -/
def readFields (s : String) : Except TextError (List (Option Nat)) :=
  let c := Cursor.ofString s
  let fuel := c.rest.length + 8
  let run : Scan (List (Option Nat)) := do
    let values ← match (← peekAfterBlanks) with
      | none => failPeek .eofValue
      | some '[' => do
        eat
        let vs ← readItems fuel 0 []
        closeItems
        pure vs
      | some '{' => do
        eat
        let vs ← readEntries fuel true (List.replicate documentKeys.length none)
        closeEntries
        pure vs
      | some _ => refuseValueType "struct GatewayConfig"
    match (← peekAfterBlanks) with
    | some _ => failPeek .trailingCharacters
    | none => pure values
  (run.run c).map (·.1)

/-- Reads a configuration with `read`, without validating it. -/
def ofDocumentWith {Doc : Type} (read : Doc → Except TextError (List (Option Nat))) (d : Doc) :
    Except TextError GatewayConfig :=
  (read d).map withValues

def ofJsonWith {Doc : Type} (read : Doc → Except TextError (List (Option Nat))) (d : Doc) :
    Except ConfigError GatewayConfig :=
  match ofDocumentWith read d with
  | .error e => .error (.document e)
  | .ok c => do c.validate; pure c

/-- Reads a configuration document, without validating it. -/
def ofDocument (s : String) : Except TextError GatewayConfig := ofDocumentWith readFields s

def ofJson (s : String) : Except ConfigError GatewayConfig := ofJsonWith readFields s

end GatewayConfig

end DepthFeed
