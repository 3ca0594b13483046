import DepthFeed.Json.Value
import DepthFeed.Json.Scan

/-!
# Reading JSON text into values

`Json.parse` reads one JSON value followed by nothing but blanks. Arrays and
objects may nest 127 deep. An object keeps its keys in ascending order, a
repeated key taking its last value.
-/

namespace DepthFeed

namespace Json

def Number.toJson : Number → Json
  | .unsigned n => .int n
  | .negative n => .int n
  | .float x => .float x

def readColon : Scan Unit := do
  match (← peekAfterBlanks) with
  | some ':' => eat
  | some _ => failPeek .expectedColon
  | none => failPeek .eofObject

mutual

/-- Reads one value; `depth` is how many more arrays or objects may open. -/
def readValue : Nat → Nat → Scan Json
  | 0, _ => failPeek .recursionLimit
  | fuel + 1, depth => do
    match (← peekAfterBlanks) with
    | none => failPeek .eofValue
    | some 'n' => eat; readWord ['u', 'l', 'l']; pure .null
    | some 't' => eat; readWord ['r', 'u', 'e']; pure (.bool true)
    | some 'f' => eat; readWord ['a', 'l', 's', 'e']; pure (.bool false)
    | some '-' => eat; return (← readInteger false).toJson
    | some '"' => eat; return .str (← readString)
    | some '[' =>
      if depth ≤ 1 then failPeek .recursionLimit else
      eat
      let items ← readItems fuel (depth - 1) true []
      eat
      pure (.arr items)
    | some '{' =>
      if depth ≤ 1 then failPeek .recursionLimit else
      eat
      let fields ← readFields fuel (depth - 1) true []
      eat
      pure (.obj fields)
    | some ch =>
      if isDigit ch then return (← readInteger true).toJson else failPeek .expectedValue

/-- Reads array items up to the closing bracket, which is left unread. -/
def readItems : Nat → Nat → Bool → List Json → Scan (List Json)
  | 0, _, _, _ => failPeek .recursionLimit
  | fuel + 1, depth, first, acc => do
    match (← peekAfterBlanks) with
    | none => failPeek .eofList
    | some ']' => pure acc.reverse
    | some ch =>
      if first then
        let v ← readValue fuel depth
        readItems fuel depth false (v :: acc)
      else if ch = ',' then
        eat
        match (← peekAfterBlanks) with
        | some ']' => failPeek .trailingComma
        | some _ =>
          let v ← readValue fuel depth
          readItems fuel depth false (v :: acc)
        | none => failPeek .eofValue
      else failPeek .expectedListCommaOrEnd

/-- Reads object fields up to the closing brace, which is left unread. -/
def readFields : Nat → Nat → Bool → List (String × Json) → Scan (List (String × Json))
  | 0, _, _, _ => failPeek .recursionLimit
  | fuel + 1, depth, first, acc => do
    let start ← peekAfterBlanks
    let keyStart ← match start with
      | some '}' => pure none
      | some ',' => if first then pure (some start) else do eat; pure (some (← peekAfterBlanks))
      | some _ => if first then pure (some start) else failPeek .expectedObjectCommaOrEnd
      | none => failPeek .eofObject
    match keyStart with
    | none => pure acc
    | some (some '"') =>
      eat
      let k ← readString
      readColon
      let v ← readValue fuel depth
      readFields fuel depth false (insertField k v acc)
    | some (some '}') => failPeek .trailingComma
    | some (some _) => failPeek .keyMustBeString
    | some none => failPeek .eofValue

end

/-- Reads a text holding one JSON value and nothing else but blanks. -/
def parse (s : String) : Except TextError Json :=
  let c := Cursor.ofString s
  let run : Scan Json := do
    let v ← readValue (2 * c.rest.length + 4) 128
    match (← peekAfterBlanks) with
    | some _ => failPeek .trailingCharacters
    | none => pure v
  (run.run c).map (·.1)

end Json

end DepthFeed
