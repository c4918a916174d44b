/-!
# JSON values

The dynamic values that request and response bodies carry. A number keeps the form it was
read in: a natural number below `2 ^ 64`, a negative integer down to `-2 ^ 63`, or a double for
everything else (fractions, exponents, larger integers, and `-0`).

An object holds its members sorted by key, in the byte order of their UTF-8 text, each key
once; `Fields.insert` keeps that shape, so a key given twice keeps its last value.
-/

namespace BearerSession.Json

/-- A JSON number as read: `nat n` for `0 ≤ n < 2 ^ 64`, `negative n` for the integer `-n`
with `1 ≤ n ≤ 2 ^ 63`, `float x` for any other number. -/
inductive Number where
  | nat (n : Nat)
  | negative (n : Nat)
  | float (x : Float)
  deriving Inhabited

/-- A JSON value; an object's members are sorted by key and unique. -/
inductive Value where
  | null
  | bool (b : Bool)
  | number (n : Number)
  | string (s : String)
  | array (items : List Value)
  | object (fields : List (String × Value))
  deriving Inhabited

namespace Number

/-- Numbers are equal when they have the same form and value; doubles compare as doubles, so
`0.0` equals `-0.0`, but the integer `0` differs from both. -/
def beq : Number → Number → Bool
  | .nat a, .nat b => a == b
  | .negative a, .negative b => a == b
  | .float a, .float b => a == b
  | _, _ => false

instance : BEq Number := ⟨beq⟩

end Number

namespace Value

mutual

/-- Structural equality, numbers compared by `Number.beq`. -/
def beq : Value → Value → Bool
  | .null, .null => true
  | .bool a, .bool b => a == b
  | .number a, .number b => a == b
  | .string a, .string b => a == b
  | .array xs, .array ys => beqItems xs ys
  | .object xs, .object ys => beqFields xs ys
  | _, _ => false

/-- Pointwise equality of two item lists. -/
def beqItems : List Value → List Value → Bool
  | [], [] => true
  | x :: xs, y :: ys => beq x y && beqItems xs ys
  | _, _ => false

/-- Pointwise equality of two member lists, keys and values. -/
def beqFields : List (String × Value) → List (String × Value) → Bool
  | [], [] => true
  | (k, x) :: xs, (l, y) :: ys => k == l && beq x y && beqFields xs ys
  | _, _ => false

end

instance : BEq Value := ⟨beq⟩

end Value

namespace Fields

/-- Puts a member in its place by key order, replacing the value of an equal key. -/
def insert (key : String) (value : Value) : List (String × Value) → List (String × Value)
  | [] => [(key, value)]
  | (k, v) :: rest =>
    if key < k then (key, value) :: (k, v) :: rest
    else if key == k then (key, value) :: rest
    else (k, v) :: insert key value rest

/-- The members of a list of entries, later entries winning over earlier ones of the same key. -/
def ofList (entries : List (String × Value)) : List (String × Value) :=
  entries.foldl (fun acc (k, v) => insert k v acc) []

/-- The value under a key. -/
def find? (key : String) : List (String × Value) → Option Value
  | [] => none
  | (k, v) :: rest => if k == key then some v else find? key rest

end Fields

/-- The object with the given entries, later ones winning. -/
def Value.ofEntries (entries : List (String × Value)) : Value :=
  .object (Fields.ofList entries)

/-- A member of an object, or none for any other value. -/
def Value.field? (v : Value) (key : String) : Option Value :=
  match v with
  | .object fields => Fields.find? key fields
  | _ => none

/-- The text of a string value. -/
def Value.str? : Value → Option String
  | .string s => some s
  | _ => none

end BearerSession.Json
