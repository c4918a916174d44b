import BearerSession.Json.Parse

/-!
# Reading records with named fields

A record is read from an object whose members name its fields, or from a list that gives the
fields in order. The rules:

* in an object, members with other names are skipped unread; a field named twice is an error
  as soon as its second key is read; a field never named is an error once the object is closed,
  the first missing one in field order;
* in a list, too few items is an error naming how many were read; extra items make the list's
  closing fail;
* anything else is a value of the wrong type, named in the error; a scalar is read before the
  error is raised, a list or object is not.

Errors about the data are placed where reading stopped (`fixPosition`).

`openRecord` is the variant for a record that keeps every other member as data: it accepts only
an object, and the members it does not name are read in full and kept, a repeated one keeping
its last value.
-/

namespace BearerSession.Json

namespace Reader

/-- What an error says it found, for a number. -/
def Number.unexpected : Number → Unexpected
  | .nat n => .unsigned n
  | .negative n => .signed (-(n : Int))
  | .float x => .float x

/-- Fails with `invalid type`, naming the value ahead; a scalar is read first. -/
def invalidType (expected : String) : Reader α := fixPosition do
  let b ← peekOrNull
  if b == byte 'n' then
    eat; ident [byte 'u', byte 'l', byte 'l']; failData (.invalidType .unit expected)
  else if b == byte 't' then
    eat; ident [byte 'r', byte 'u', byte 'e']; failData (.invalidType (.bool true) expected)
  else if b == byte 'f' then
    eat; ident [byte 'a', byte 'l', byte 's', byte 'e']
    failData (.invalidType (.bool false) expected)
  else if b == byte '-' then
    eat
    let n ← number false
    failData (.invalidType (Number.unexpected n) expected)
  else if isDigit b then
    let n ← number true
    failData (.invalidType (Number.unexpected n) expected)
  else if b == byte '"' then
    eat
    let s ← string
    failData (.invalidType (.str s) expected)
  else if b == byte '[' then failData (.invalidType .seq expected)
  else if b == byte '{' then failData (.invalidType .map expected)
  else failPeek .expectedSomeValue

/-- A string. -/
def stringField : Reader String := fixPosition do
  let some b ← whitespace | failPeek .eofWhileParsingValue
  if b == byte '"' then
    eat
    string
  else invalidType "a string"

/-- A natural number below `2 ^ 64`. -/
def u64Field : Reader Nat := fixPosition do
  let some b ← whitespace | failPeek .eofWhileParsingValue
  let n ←
    if b == byte '-' then do eat; number false
    else if isDigit b then number true
    else invalidType "u64"
  match n with
  | .nat k => return k
  | .negative k => failData (.invalidValue (.signed (-(k : Int))) "u64")
  | .float x => failData (.invalidType (.float x) "u64")

/-- The text that names a record with its number of fields. -/
def lengthText (name : String) (count : Nat) : String :=
  "struct " ++ name ++ " with " ++ toString count ++ (if count = 1 then " element" else " elements")

/-- The fields of a record given as a list, from field `i` on. -/
def listFields (name : String) (count : Nat) (field : Nat → Reader α) :
    Nat → Nat → List α → Reader (List α)
  | 0, _, acc => return acc.reverse
  | remaining + 1, i, acc => do
    if ← hasNextItem (i == 0) then
      let v ← field i
      listFields name count field remaining (i + 1) (v :: acc)
    else failData (.invalidLength i (lengthText name count))

/-- The index of a field name. -/
def fieldIndex (names : List String) (key : String) : Option Nat :=
  names.findIdx? (· == key)

/-- The members of a record given as an object; `slots` holds the fields read so far. -/
def objectFields (names : List String) (field : Nat → Reader α) :
    Nat → Bool → Array (Option α) → Reader (Array (Option α))
  | 0, _, _ => failPeek .recursionLimitExceeded
  | fuel + 1, first, slots => do
    match ← nextKey first with
    | none => return slots
    | some key =>
      match fieldIndex names key with
      | some i =>
        if (slots[i]?.bind id).isSome then failData (.duplicateField key)
        colon
        let v ← field i
        objectFields names field fuel false (slots.set! i (some v))
      | none =>
        colon
        skipValue
        objectFields names field fuel false slots

/-- The fields in order, or the first one missing. -/
def requireAll (names : List String) (slots : Array (Option α)) : Reader (List α) :=
  (names.zipIdx).foldr
    (fun (name, i) rest => do
      match slots[i]?.bind id with
      | some v => return v :: (← rest)
      | none => failData (.missingField name))
    (pure [])

/-- A record named `name` with fields `names`, field `i` read by `field i`, from an object or
a list, with `depth` levels of nesting still allowed. -/
def record (name : String) (names : List String) (field : Nat → Reader α) (depth : Nat) :
    Reader (List α) := fixPosition do
  let some b ← whitespace | failPeek .eofWhileParsingValue
  if b == byte '[' then
    openContainer depth
    thenClose (listFields name names.length field names.length 0 []) closeList
  else if b == byte '{' then
    openContainer depth
    thenClose
      (do
        let slots ← objectFields names field (← budget) true (Array.replicate names.length none)
        requireAll names slots)
      closeObject
  else invalidType ("struct " ++ name)

/-- The members of an open record: its named fields as `record` reads them, every other member
read as a value and kept in order. -/
def openMembers (names : List String) (field : Nat → Reader α) (depth : Nat) :
    Nat → Bool → Array (Option α) → List (String × Value) →
      Reader (Array (Option α) × List (String × Value))
  | 0, _, _, _ => failPeek .recursionLimitExceeded
  | fuel + 1, first, slots, rest => do
    match ← nextKey first with
    | none => return (slots, rest.reverse)
    | some key =>
      match fieldIndex names key with
      | some i =>
        if (slots[i]?.bind id).isSome then failData (.duplicateField key)
        colon
        let v ← field i
        openMembers names field depth fuel false (slots.set! i (some v)) rest
      | none =>
        colon
        let v ← value (← budget) depth
        openMembers names field depth fuel false slots ((key, v) :: rest)

/-- An open record named `name`: its named fields in order, and the other members as an
object (a repeated key keeping its last value). Only an object is accepted. -/
def openRecord (name : String) (names : List String) (field : Nat → Reader α) (depth : Nat) :
    Reader (List α × List (String × Value)) := fixPosition do
  let some b ← whitespace | failPeek .eofWhileParsingValue
  if b == byte '{' then
    openContainer depth
    thenClose
      (do
        let (slots, rest) ←
          openMembers names field (depth - 1) (← budget) true
            (Array.replicate names.length none) []
        let named ← requireAll names slots
        return (named, Fields.ofList rest))
      closeObject
  else invalidType ("struct " ++ name)

end Reader

/-- What an error says it found, for a value already read. -/
def Value.unexpected : Value → Unexpected
  | .null => .unit
  | .bool b => .bool b
  | .number n => Reader.Number.unexpected n
  | .string s => .str s
  | .array _ => .seq
  | .object _ => .map

end BearerSession.Json
