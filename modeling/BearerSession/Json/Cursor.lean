import BearerSession.Json.Error
import BearerSession.Json.Value
import BearerSession.Text.Utf8

/-!
# Reading JSON octet by octet

The reader walks the input octets with the index of the next one as its state. An error keeps
the index it stopped at, so that errors about the data can be placed where reading stopped.
Two positions are used: an error at the index (`fail`), and an error just past the octet that
was only looked at (`failPeek`), which is how a reader reports an octet it refuses without
taking it.

This module holds the pieces that every reading uses: blanks, the words `null`, `true` and
`false`, numbers, strings with their escapes, and skipping a whole value unread.

Numbers: digits accumulate while they fit in 64 bits; further integer digits only raise a
decimal exponent, further fraction digits are dropped. A number with a point or an exponent,
or too large, becomes a double: the accumulated integer, rounded to a double, is multiplied or
divided by the double nearest to `10 ^ |k|`, in steps of `10 ^ 308` past that table; a result
that overflows is an error, one that underflows is zero. A lone `-0` is the double `-0.0`.

Strings: the octets between the quotes, with escapes decoded, must form UTF-8; a lone
surrogate escape is an error. Control characters below U+0020 must be escaped.

Every loop consumes input, so each runs on a budget of one step per octet.
-/

namespace BearerSession.Json

/-- A reader over the input octets, with the index of the next octet as state; a failure keeps
the index reached. -/
abbrev Reader := ReaderT ByteArray (ExceptT DecodeError (StateM Nat))

namespace Reader

/-- The octet of an ASCII character. -/
def byte (c : Char) : UInt8 := c.toNat.toUInt8

/-- Whether an octet is an ASCII digit. -/
def isDigit (b : UInt8) : Bool := 48 ≤ b && b ≤ 57

/-- The line (from 1) and the column (octets since the last line feed) of an index. -/
def positionOf (bytes : ByteArray) (i : Nat) : Nat × Nat :=
  let (line, start, _) := (bytes.extract 0 i).toList.foldl
    (fun (acc : Nat × Nat × Nat) (b : UInt8) =>
      let (line, start, j) := acc
      if b == 10 then (line + 1, j + 1, j + 1) else (line, start, j + 1))
    (1, 0, 0)
  (line, i - start)

/-- The next octet, not taken. -/
def peek : Reader (Option UInt8) := do
  let bytes ← read
  return bytes[(← get)]?

/-- The next octet not taken, or NUL at the end. -/
def peekOrNull : Reader UInt8 := do
  return (← peek).getD 0

/-- Takes the next octet. -/
def eat : Reader Unit := modify (· + 1)

/-- The next octet, taken. -/
def next : Reader (Option UInt8) := do
  let b ← peek
  if b.isSome then eat
  return b

/-- The next octet taken, or NUL at the end. -/
def nextOrNull : Reader UInt8 := do
  return (← next).getD 0

/-- Fails at the current index. -/
def fail (code : ErrorCode) : Reader α := do
  let bytes ← read
  throw { code, position := some (positionOf bytes (← get)) }

/-- Fails just past the octet looked at. -/
def failPeek (code : ErrorCode) : Reader α := do
  let bytes ← read
  throw { code, position := some (positionOf bytes (min bytes.size ((← get) + 1))) }

/-- Fails without a place; an enclosing `fixPosition` supplies it. -/
def failData (code : ErrorCode) : Reader α :=
  throw { code }

/-- Gives an error without a place the place where reading stopped. -/
def fixPosition (act : Reader α) : Reader α :=
  tryCatch act fun e =>
    match e.position with
    | some _ => throw e
    | none => do
      let bytes ← read
      throw { e with position := some (positionOf bytes (← get)) }

/-- Runs `body`, then `close` even when `body` failed; the failure of `body` wins, and
`close` keeps whatever it consumed. -/
def thenClose (body : Reader α) (close : Reader Unit) : Reader α := do
  match ← tryCatch (Except.ok <$> body) (fun e => pure (Except.error e)) with
  | .ok a =>
    close
    return a
  | .error e =>
    let _ ← tryCatch (Except.ok <$> close) (fun e => pure (Except.error e))
    throw e

/-- A budget of one step per input octet and a few more. -/
def budget : Reader Nat := do
  return (← read).size + 2

/-! ## Blanks and words -/

/-- Skips blanks (space, line feed, tab, carriage return) and looks at what follows. -/
def skipBlanks : Nat → Reader (Option UInt8)
  | 0 => peek
  | fuel + 1 => do
    match ← peek with
    | some b =>
      if b == 32 || b == 10 || b == 9 || b == 13 then
        eat
        skipBlanks fuel
      else return some b
    | none => return none

/-- Skips blanks and looks at what follows. -/
def whitespace : Reader (Option UInt8) := do
  skipBlanks (← budget)

/-- Reads the rest of a word whose first letter was taken. -/
def ident : List UInt8 → Reader Unit
  | [] => pure ()
  | expected :: rest => do
    match ← next with
    | some c => if c == expected then ident rest else fail .expectedSomeIdent
    | none => fail .eofWhileParsingValue

/-! ## Numbers -/

/-- The greatest 64-bit unsigned integer. -/
def u64Max : Nat := Nat.pow 2 64 - 1

/-- The greatest 32-bit signed integer. -/
def i32Max : Int := Int.pow 2 31 - 1

/-- The double nearest to a natural number, ties to an even mantissa; infinity beyond the
greatest double. -/
def roundNat (n : Nat) : Float :=
  if n < Nat.pow 2 53 then Float.ofBits (if n = 0 then 0 else (roundBits n))
  else Float.ofBits (roundBits n)
where
  /-- The bits of the nearest double to a positive `n`. -/
  roundBits (n : Nat) : UInt64 :=
    let width := Nat.log2 n + 1
    if width ≤ 53 then
      -- exact: normalise the mantissa to 53 bits
      let shift := 53 - width
      let m := n <<< shift
      let field := 1075 - shift
      ((field.toUInt64) <<< 52) ||| (m - Nat.pow 2 52).toUInt64
    else
      let shift := width - 53
      let q := n >>> shift
      let r := n - (q <<< shift)
      let half := 1 <<< (shift - 1)
      let q := if r > half || (r == half && q % 2 == 1) then q + 1 else q
      let (q, shift) := if q == Nat.pow 2 53 then (q / 2, shift + 1) else (q, shift)
      let field := 1075 + shift
      if field ≥ 2047 then 0x7FF0000000000000
      else ((field.toUInt64) <<< 52) ||| (q - Nat.pow 2 52).toUInt64

/-- The double nearest to `10 ^ k`. -/
def pow10 (k : Nat) : Float := roundNat (Nat.pow 10 k)

/-- Scales an accumulated integer by a decimal exponent, as described in the module header. -/
def scale (positive : Bool) (significand : Nat) (exponent : Int) : Reader Float := do
  let mut f := roundNat significand
  let mut e := exponent
  for _ in [0:16] do
    if e.natAbs ≤ 308 then
      if 0 ≤ e then
        f := f * pow10 e.natAbs
        if f.isInf then fail .numberOutOfRange
      else
        f := f / pow10 e.natAbs
      break
    else
      if f == 0.0 then break
      if 0 ≤ e then fail .numberOutOfRange
      f := f / pow10 308
      e := e + 308
  return (if positive then f else -f)

/-- After an exponent overflowed: an error for a non-zero number with a positive exponent,
otherwise zero after skipping the remaining digits. -/
def exponentOverflow (positive zeroSignificand positiveExp : Bool) : Reader Float := do
  if !zeroSignificand && positiveExp then fail .numberOutOfRange
  let rec skip : Nat → Reader Unit
    | 0 => pure ()
    | fuel + 1 => do
      if isDigit (← peekOrNull) then
        eat
        skip fuel
  skip (← budget)
  return (if positive then 0.0 else -0.0)

/-- The exponent digits after the first. -/
def exponentDigits (positive zeroSignificand positiveExp : Bool) :
    Nat → Int → Reader (Option Int)
  | 0, exp => return some exp
  | fuel + 1, exp => do
    let c ← peekOrNull
    if isDigit c then
      eat
      let digit : Int := (c - 48).toNat
      if exp * 10 + digit > i32Max then return none
      exponentDigits positive zeroSignificand positiveExp fuel (exp * 10 + digit)
    else return some exp

/-- Clamps to the 32-bit signed range. -/
def clampI32 (x : Int) : Int :=
  if x > i32Max then i32Max else if x < -i32Max - 1 then -i32Max - 1 else x

/-- An exponent part, its `e` looked at, applied to the accumulated integer. -/
def exponentPart (positive : Bool) (significand : Nat) (start : Int) : Reader Float := do
  eat
  let sign ← peekOrNull
  let positiveExp ←
    if sign == byte '+' then do eat; pure true
    else if sign == byte '-' then do eat; pure false
    else pure true
  match ← next with
  | none => fail .eofWhileParsingValue
  | some c =>
    if isDigit c then
      let digits ←
        exponentDigits positive (significand == 0) positiveExp (← budget) (c - 48).toNat
      match digits with
      | none => exponentOverflow positive (significand == 0) positiveExp
      | some exp =>
        let final := clampI32 (if positiveExp then start + exp else start - exp)
        scale positive significand final
    else fail .invalidNumber

/-- Fraction digits once the accumulated integer is full: they are dropped. -/
def fractionOverflow (positive : Bool) (significand : Nat) (exponent : Int) : Reader Float := do
  let rec skip : Nat → Reader Unit
    | 0 => pure ()
    | fuel + 1 => do
      if isDigit (← peekOrNull) then
        eat
        skip fuel
  skip (← budget)
  let c ← peekOrNull
  if c == byte 'e' || c == byte 'E' then exponentPart positive significand exponent
  else scale positive significand exponent

/-- The fraction digits, the point looked at. -/
def fractionDigits (positive : Bool) (before : Int) :
    Nat → Nat → Int → Reader Float
  | 0, significand, after => scale positive significand (before + after)
  | fuel + 1, significand, after => do
    let c ← peekOrNull
    if isDigit c then
      let digit := (c - 48).toNat
      if significand * 10 + digit > u64Max then
        fractionOverflow positive significand (before + after)
      else
        eat
        fractionDigits positive before fuel (significand * 10 + digit) (after - 1)
    else
      if after == 0 then
        match ← peek with
        | some _ => failPeek .invalidNumber
        | none => failPeek .eofWhileParsingValue
      else
        let c ← peekOrNull
        if c == byte 'e' || c == byte 'E' then exponentPart positive significand (before + after)
        else scale positive significand (before + after)

/-- A fraction part, its point looked at. -/
def fractionPart (positive : Bool) (significand : Nat) (before : Int) : Reader Float := do
  eat
  fractionDigits positive before (← budget) significand 0

/-- Integer digits past 64 bits: each raises the exponent. -/
def longInteger (positive : Bool) (significand : Nat) : Nat → Int → Reader Float
  | 0, exponent => scale positive significand exponent
  | fuel + 1, exponent => do
    let c ← peekOrNull
    if isDigit c then
      eat
      longInteger positive significand fuel (exponent + 1)
    else if c == byte '.' then fractionPart positive significand exponent
    else if c == byte 'e' || c == byte 'E' then exponentPart positive significand exponent
    else scale positive significand exponent

/-- What follows the integer digits: a fraction, an exponent, or the end of the number. -/
def numberEnd (positive : Bool) (significand : Nat) : Reader Number := do
  let c ← peekOrNull
  if c == byte '.' then return .float (← fractionPart positive significand 0)
  else if c == byte 'e' || c == byte 'E' then
    return .float (← exponentPart positive significand 0)
  else if positive then return .nat significand
  else if 1 ≤ significand && significand ≤ Nat.pow 2 63 then return .negative significand
  else return .float (-(roundNat significand))

/-- Integer digits after the first, while they fit in 64 bits. -/
def integerDigits (positive : Bool) : Nat → Nat → Reader Number
  | 0, significand => numberEnd positive significand
  | fuel + 1, significand => do
    let c ← peekOrNull
    if isDigit c then
      let digit := (c - 48).toNat
      if significand * 10 + digit > u64Max then
        return .float (← longInteger positive significand (← budget) 0)
      else
        eat
        integerDigits positive fuel (significand * 10 + digit)
    else numberEnd positive significand

/-- A number, after its sign if it has one. -/
def number (positive : Bool) : Reader Number := do
  match ← next with
  | none => fail .eofWhileParsingValue
  | some b =>
    if b == byte '0' then
      if isDigit (← peekOrNull) then failPeek .invalidNumber
      else numberEnd positive 0
    else if isDigit b then integerDigits positive (← budget) (b - 48).toNat
    else fail .invalidNumber

/-! ## Strings -/

/-- The value of a hexadecimal digit. -/
def hexValue (b : UInt8) : Option Nat :=
  if 48 ≤ b && b ≤ 57 then some (b - 48).toNat
  else if 97 ≤ b && b ≤ 102 then some (b - 87).toNat
  else if 65 ≤ b && b ≤ 70 then some (b - 55).toNat
  else none

/-- Four hexadecimal digits of an escape. -/
def hexEscape : Reader Nat := do
  let bytes ← read
  let i ← get
  match bytes[i]?, bytes[i + 1]?, bytes[i + 2]?, bytes[i + 3]? with
  | some a, some b, some c, some d =>
    set (i + 4)
    match hexValue a, hexValue b, hexValue c, hexValue d with
    | some a, some b, some c, some d => return ((a * 16 + b) * 16 + c) * 16 + d
    | _, _, _, _ => fail .invalidEscape
  | _, _, _, _ =>
    set bytes.size
    fail .eofWhileParsingString

/-- The UTF-8 octets of a code point. -/
def encodePoint (cp : Nat) : List UInt8 :=
  Text.Utf8.encode (Char.ofNat cp).toString

/-- A `\u` escape after the `u`: a character, or a surrogate pair written as two escapes. -/
def unicodeEscape (scratch : Array UInt8) : Reader (Array UInt8) := do
  let n ← hexEscape
  if 0xDC00 ≤ n && n ≤ 0xDFFF then fail .loneLeadingSurrogateInHexEscape
  if n < 0xD800 || n > 0xDBFF then return scratch ++ (encodePoint n).toArray
  match ← peek with
  | none => fail .eofWhileParsingString
  | some b =>
    eat
    if b != byte '\\' then fail .unexpectedEndOfHexEscape
  match ← peek with
  | none => fail .eofWhileParsingString
  | some b =>
    eat
    if b != byte 'u' then fail .unexpectedEndOfHexEscape
  let n2 ← hexEscape
  if n2 < 0xDC00 || n2 > 0xDFFF then fail .loneLeadingSurrogateInHexEscape
  return scratch ++ (encodePoint ((((n - 0xD800) <<< 10) ||| (n2 - 0xDC00)) + 0x10000)).toArray

/-- An escape after its backslash. -/
def escape (scratch : Array UInt8) : Reader (Array UInt8) := do
  match ← next with
  | none => fail .eofWhileParsingString
  | some c =>
    if c == byte '"' then return scratch.push (byte '"')
    else if c == byte '\\' then return scratch.push (byte '\\')
    else if c == byte '/' then return scratch.push (byte '/')
    else if c == byte 'b' then return scratch.push 8
    else if c == byte 'f' then return scratch.push 12
    else if c == byte 'n' then return scratch.push 10
    else if c == byte 'r' then return scratch.push 13
    else if c == byte 't' then return scratch.push 9
    else if c == byte 'u' then unicodeEscape scratch
    else fail .invalidEscape

/-- The octets of a string up to its closing quote, which is taken; also the index of that
quote. -/
def stringOctets : Nat → Array UInt8 → Reader (Array UInt8 × Nat)
  | 0, _ => fail .eofWhileParsingString
  | fuel + 1, scratch => do
    let i ← get
    match ← peek with
    | none => fail .eofWhileParsingString
    | some b =>
      if b == byte '"' then
        eat
        return (scratch, i)
      else if b == byte '\\' then
        eat
        stringOctets fuel (← escape scratch)
      else if b < 0x20 then
        eat
        fail .controlCharacterWhileParsingString
      else
        eat
        stringOctets fuel (scratch.push b)

/-- A string after its opening quote. -/
def string : Reader String := do
  let (octets, close) ← stringOctets (← budget) #[]
  match Text.Utf8.decode? octets.toList with
  | some s => return s
  | none =>
    let bytes ← read
    throw { code := .invalidUnicodeCodePoint, position := some (positionOf bytes close) }

/-- Skips an escape after its backslash. -/
def skipEscape : Reader Unit := do
  match ← next with
  | none => fail .eofWhileParsingString
  | some c =>
    if c == byte 'u' then
      let _ ← hexEscape
    else if c == byte '"' || c == byte '\\' || c == byte '/' || c == byte 'b' ||
        c == byte 'f' || c == byte 'n' || c == byte 'r' || c == byte 't' then
      pure ()
    else fail .invalidEscape

/-- Skips a string after its opening quote, without checking its text. -/
def skipString : Nat → Reader Unit
  | 0 => fail .eofWhileParsingString
  | fuel + 1 => do
    match ← peek with
    | none => fail .eofWhileParsingString
    | some b =>
      if b == byte '"' then eat
      else if b == byte '\\' then
        eat
        skipEscape
        skipString fuel
      else if b < 0x20 then fail .controlCharacterWhileParsingString
      else
        eat
        skipString fuel

/-! ## Skipping a value -/

/-- Skips digits. -/
def skipDigits : Nat → Reader Bool
  | 0 => return false
  | fuel + 1 => do
    if isDigit (← peekOrNull) then
      eat
      let _ ← skipDigits fuel
      return true
    else return false

/-- Skips an exponent part, its `e` looked at. -/
def skipExponent : Reader Unit := do
  eat
  let c ← peekOrNull
  if c == byte '+' || c == byte '-' then eat
  if !isDigit (← nextOrNull) then fail .invalidNumber
  let _ ← skipDigits (← budget)

/-- Skips a number after its sign, checking only its shape. -/
def skipNumber : Reader Unit := do
  let first ← nextOrNull
  if first == byte '0' then
    if isDigit (← peekOrNull) then failPeek .invalidNumber
  else if isDigit first then
    let _ ← skipDigits (← budget)
  else fail .invalidNumber
  let c ← peekOrNull
  if c == byte '.' then
    eat
    if !(← skipDigits (← budget)) then failPeek .invalidNumber
    let c ← peekOrNull
    if c == byte 'e' || c == byte 'E' then skipExponent
  else if c == byte 'e' || c == byte 'E' then skipExponent

/-- The frame of a container being skipped. -/
inductive Frame where
  | list
  | object
  deriving DecidableEq

/-- Skips one value, checking its shape but not its text or number ranges, and without a
depth limit. -/
def skipValue : Reader Unit := do
  let fuel ← budget
  let rec go : Nat → List Frame → Option Frame → Reader Unit
    | 0, _, _ => fail .recursionLimitExceeded
    | fuel + 1, stack, enclosing => do
      let some b ← whitespace | failPeek .eofWhileParsingValue
      let opened : Option Frame ←
        if b == byte 'n' then do eat; ident [byte 'u', byte 'l', byte 'l']; pure none
        else if b == byte 't' then do eat; ident [byte 'r', byte 'u', byte 'e']; pure none
        else if b == byte 'f' then do eat; ident [byte 'a', byte 'l', byte 's', byte 'e']; pure none
        else if b == byte '-' then do eat; skipNumber; pure none
        else if isDigit b then do skipNumber; pure none
        else if b == byte '"' then do eat; skipString (← budget); pure none
        else if b == byte '[' || b == byte '{' then do
          eat
          pure (some (if b == byte '[' then Frame.list else Frame.object))
        else failPeek .expectedSomeValue
      -- the container whose continuation comes next, and whether a comma may come
      let (stack, frame, acceptComma) ←
        match opened with
        | some f => pure (enclosing.toList ++ stack, f, false)
        | none =>
          match enclosing with
          | some f => pure (stack, f, true)
          | none =>
            match stack with
            | [] => return
            | f :: rest => pure (rest, f, true)
      let rec settle :
          Nat → List Frame → Frame → Bool → Reader (Option (List Frame × Frame))
        | 0, _, _, _ => fail .recursionLimitExceeded
        | fuel + 1, stack, frame, acceptComma => do
          match ← whitespace with
          | some c =>
            if c == byte ',' && acceptComma then
              eat
              return some (stack, frame)
            else if (c == byte ']' && frame = .list) || (c == byte '}' && frame = .object) then
              eat
              match stack with
              | [] => return none
              | outer :: rest => settle fuel rest outer true
            else if acceptComma then
              failPeek
                (if frame = .list then .expectedListCommaOrEnd else .expectedObjectCommaOrEnd)
            else return some (stack, frame)
          | none =>
            failPeek (if frame = .list then .eofWhileParsingList else .eofWhileParsingObject)
      match ← settle fuel stack frame acceptComma with
      | none => return
      | some (stack, frame) =>
        if frame = .object then
          match ← whitespace with
          | some c =>
            if c == byte '"' then eat else failPeek .keyMustBeAString
          | none => failPeek .eofWhileParsingObject
          skipString (← budget)
          match ← whitespace with
          | some c =>
            if c == byte ':' then eat else failPeek .expectedColon
          | none => failPeek .eofWhileParsingObject
        go fuel stack (some frame)
  go fuel [] none

end Reader

end BearerSession.Json
