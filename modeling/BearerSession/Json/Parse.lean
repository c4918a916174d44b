import BearerSession.Json.Cursor

/-!
# Reading a JSON value

`Value.parse` reads a whole document: one value, then only blanks. Containers nest at most
127 deep; opening the 128th fails with `recursion limit exceeded`, placed just past its bracket.

Inside a list, an item follows `[` or a comma; a comma right before `]` is a trailing comma.
Inside an object, each member is a string key, a colon and a value. After the items or members
the closing bracket is required; a comma or anything else there is reported as a trailing comma
or trailing characters, placed just past it.
-/

namespace BearerSession.Json

namespace Reader

/-- Takes a container's opening bracket, failing past it when no depth is left. -/
def openContainer (depth : Nat) : Reader Unit := do
  if depth ≤ 1 then failPeek .recursionLimitExceeded
  eat

/-- Requires the `]` that closes a list. -/
def closeList : Reader Unit := do
  match ← whitespace with
  | some b =>
    if b == byte ']' then eat
    else if b == byte ',' then
      eat
      match ← whitespace with
      | some c => if c == byte ']' then failPeek .trailingComma else failPeek .trailingCharacters
      | none => failPeek .trailingCharacters
    else failPeek .trailingCharacters
  | none => failPeek .eofWhileParsingList

/-- Requires the `}` that closes an object. -/
def closeObject : Reader Unit := do
  match ← whitespace with
  | some b =>
    if b == byte '}' then eat
    else if b == byte ',' then failPeek .trailingComma
    else failPeek .trailingCharacters
  | none => failPeek .eofWhileParsingObject

/-- Whether another item follows in a list; takes the comma before it. -/
def hasNextItem (first : Bool) : Reader Bool := do
  match ← whitespace with
  | none => failPeek .eofWhileParsingList
  | some b =>
    if b == byte ']' then return false
    else if first then return true
    else if b == byte ',' then
      eat
      match ← whitespace with
      | some c => if c == byte ']' then failPeek .trailingComma else return true
      | none => failPeek .eofWhileParsingValue
    else failPeek .expectedListCommaOrEnd

/-- The next key of an object, its comma and quotes taken, or none at its end. -/
def nextKey (first : Bool) : Reader (Option String) := do
  let lead ← whitespace
  let keyStart ←
    match lead with
    | none => failPeek .eofWhileParsingObject
    | some b =>
      if b == byte '}' then return none
      else if b == byte ',' && !first then do
        eat
        whitespace
      else if first then pure (some b)
      else failPeek .expectedObjectCommaOrEnd
  match keyStart with
  | none => failPeek .eofWhileParsingValue
  | some b =>
    if b == byte '"' then
      eat
      return some (← string)
    else if b == byte '}' then failPeek .trailingComma
    else failPeek .keyMustBeAString

/-- Requires the colon after a key. -/
def colon : Reader Unit := do
  match ← whitespace with
  | some b => if b == byte ':' then eat else failPeek .expectedColon
  | none => failPeek .eofWhileParsingObject

mutual

/-- A value with `depth` levels of nesting still allowed. -/
def value : Nat → Nat → Reader Value
  | 0, _ => failPeek .recursionLimitExceeded
  | fuel + 1, depth => fixPosition do
    let some b ← whitespace | failPeek .eofWhileParsingValue
    if b == byte 'n' then
      eat; ident [byte 'u', byte 'l', byte 'l']; return .null
    else if b == byte 't' then
      eat; ident [byte 'r', byte 'u', byte 'e']; return .bool true
    else if b == byte 'f' then
      eat; ident [byte 'a', byte 'l', byte 's', byte 'e']; return .bool false
    else if b == byte '-' then
      eat; return .number (← number false)
    else if isDigit b then return .number (← number true)
    else if b == byte '"' then
      eat; return .string (← string)
    else if b == byte '[' then
      openContainer depth
      let items ← thenClose (items fuel (depth - 1) true []) closeList
      return .array items
    else if b == byte '{' then
      openContainer depth
      let fields ← thenClose (members fuel (depth - 1) true []) closeObject
      return .object fields
    else failPeek .expectedSomeValue

/-- The items of a list, in reverse order of reading so far. -/
def items : Nat → Nat → Bool → List Value → Reader (List Value)
  | 0, _, _, _ => failPeek .recursionLimitExceeded
  | fuel + 1, depth, first, acc => do
    if ← hasNextItem first then
      let v ← value fuel depth
      items fuel depth false (v :: acc)
    else return acc.reverse

/-- The members of an object read so far, sorted, a repeated key keeping its last value. -/
def members : Nat → Nat → Bool → List (String × Value) → Reader (List (String × Value))
  | 0, _, _, _ => failPeek .recursionLimitExceeded
  | fuel + 1, depth, first, acc => do
    match ← nextKey first with
    | none => return acc
    | some key =>
      colon
      let v ← value fuel depth
      members fuel depth false (Fields.insert key v acc)

end

/-- Requires that only blanks remain. -/
def finish : Reader Unit := do
  match ← whitespace with
  | some _ => failPeek .trailingCharacters
  | none => pure ()

/-- The depth allowed to a document. -/
def maxDepth : Nat := 128

/-- Runs a reader over a whole document. -/
def runDocument (r : Reader α) (bytes : ByteArray) : Except DecodeError α :=
  (((do let a ← r; finish; return a) : Reader α).run bytes |>.run |>.run 0).1

/-- A budget for a nested reading of a document: two steps per octet. -/
def nestedBudget (bytes : ByteArray) : Nat := 2 * bytes.size + 8

end Reader

/-- Reads a JSON document. -/
def Value.parse (bytes : ByteArray) : Except DecodeError Value :=
  Reader.runDocument (Reader.value (Reader.nestedBudget bytes) Reader.maxDepth) bytes

/-- Reads a JSON document given as text. -/
def Value.parseText (text : String) : Except DecodeError Value :=
  Value.parse text.toUTF8

end BearerSession.Json
