import BearerSession.Clock.Instant

/-!
# Reading RFC 3339 date and time text

The reader accepts RFC 3339 and some slack around it: blanks before every number and around
the separators, `T`, `t` or a blank between day and time, a fraction of any length (digits
after the ninth are ignored), `Z`, `z`, `UTC` in any case, or an offset `±hh:mm` whose colon
may be blanks or missing and whose minus may be `−` (U+2212). A year has four digits, or a sign
and any number of them. The second may be 60, a leap second, at any minute.

The instant read is the time given less its offset. Each refusal has a cause
(`ReadError`): the text ends early, holds an unexpected character, has text left after the
offset, lacks the time or the offset, or names a field, a day or an offset out of range
(`2024-02-30`, hour 24, an offset of a day or more).
-/

namespace BearerSession.Clock

/-- Why a date and time text is refused. -/
inductive ReadError where
  | outOfRange
  | notEnough
  | invalid
  | tooShort
  | tooLong
  deriving DecidableEq, Repr

/-- The text of a refusal. -/
def ReadError.message : ReadError → String
  | .outOfRange => "input is out of range"
  | .notEnough => "input is not enough for unique date and time"
  | .invalid => "input contains invalid characters"
  | .tooShort => "premature end of input"
  | .tooLong => "trailing input"

namespace Rfc3339

/-- The characters that count as blank. -/
def isBlank (c : Char) : Bool :=
  c == ' ' || ('\t' ≤ c && c ≤ '\r') || c == '\x85' || c == '\xa0' || c == '\u1680' ||
  ('\u2000' ≤ c && c ≤ '\u200a') || c == '\u2028' || c == '\u2029' || c == '\u202f' ||
  c == '\u205f' || c == '\u3000'

/-- The text without its leading blanks. -/
def trimBlanks (s : List Char) : List Char := s.dropWhile isBlank

/-- A reading step gives a value and the rest of the text, or a refusal. -/
abbrev Reading := Except ReadError

/-- Reads from `min` to `max` digits; fewer than `min` is a refusal. -/
def digits (min max : Nat) (s : List Char) : Reading (Nat × List Char) :=
  if s.isEmpty then .error .tooShort
  else
    let run := (s.take max).takeWhile Char.isDigit
    if run.length < min then .error .invalid
    else
      let n := run.foldl (fun acc c => acc * 10 + (c.toNat - 48)) 0
      if n ≥ Nat.pow 2 63 then .error .outOfRange else .ok (n, s.drop run.length)

/-- Reads a number after blanks and checks that it lies in `lo..hi`. -/
def field (width : Nat) (lo hi : Nat) (s : List Char) : Reading (Nat × List Char) := do
  let (n, rest) ← digits 1 width (trimBlanks s)
  if lo ≤ n && n ≤ hi then return (n, rest) else throw .outOfRange

/-- Reads the separator `c`, after blanks. -/
def literal (c : Char) (s : List Char) : Except ReadError (List Char) :=
  match trimBlanks s with
  | [] => .error .tooShort
  | d :: rest => if d == c then .ok rest else .error .invalid

/-- Reads a year: four digits, or a sign and any number of digits. -/
def year (s : List Char) : Reading (Int × List Char) := do
  let s := trimBlanks s
  let (y, rest) ← match s with
    | '-' :: more => do
      let (n, rest) ← digits 1 (s.length + 1) more
      pure (-(n : Int), rest)
    | '+' :: more => do
      let (n, rest) ← digits 1 (s.length + 1) more
      pure ((n : Int), rest)
    | _ => do
      let (n, rest) ← digits 1 4 s
      pure ((n : Int), rest)
  if -Int.pow 2 31 ≤ y && y < Int.pow 2 31 then return (y, rest) else throw .outOfRange

/-- Reads the fraction of a second, when a `.` follows. -/
def fraction (s : List Char) : Reading (Nat × List Char) :=
  match s with
  | '.' :: more => do
    let (n, rest) ← digits 1 9 more
    let used := more.length - rest.length
    return (n * Nat.pow 10 (9 - used), rest.dropWhile Char.isDigit)
  | _ => .ok (0, s)

/-- The two octets an offset's hour or minute is read from, as far as they decide: a
character outside ASCII stands for octets that are not digits. -/
def pairOf (s : List Char) : Except ReadError (Char × Char) :=
  match s with
  | [] => .error .tooShort
  | [c] => if c.toNat < 128 then .error .tooShort else .ok (c, c)
  | c :: d :: _ => .ok (c, d)

/-- The value of a digit. -/
def digitValue (c : Char) : Nat := c.toNat - 48

/-- Reads an offset from UTC in seconds: `Z`, `z`, or `±hh` and `mm` with a colon or blanks
between them. -/
def offset (s : List Char) : Reading (Int × List Char) :=
  match s with
  | 'Z' :: rest | 'z' :: rest => .ok (0, rest)
  | [] => .error .tooShort
  | sign :: more => do
    let negative ← if sign == '+' then pure false
      else if sign == '-' || sign == '−' then pure true
      else throw .invalid
    let (h1, h2) ← pairOf more
    unless h1.isDigit && h2.isDigit do throw .invalid
    let afterHour := (more.drop 2).dropWhile fun c => c == ':' || isBlank c
    let (m1, m2) ← pairOf afterHour
    unless m1.isDigit && m2.isDigit do throw .invalid
    unless m1 ≤ '5' do throw .outOfRange
    let seconds : Int := (digitValue h1 * 10 + digitValue h2) * 3600 +
      (digitValue m1 * 10 + digitValue m2) * 60
    return (if negative then -seconds else seconds, afterHour.drop 2)

/-- Whether the text starts with `UTC` in any case. -/
def startsUtc (s : List Char) : Bool :=
  (s.take 3).map Char.toLower == ['u', 't', 'c']

/-- The fields of a date and time text and its offset, before any check across fields. -/
structure Fields where
  year : Int
  month : Nat
  day : Nat
  hour : Nat
  minute : Nat
  second : Nat
  nano : Nat
  offset : Int

/-- Reads the fields of a date and time text, up to the end of the offset. -/
def fields (s : List Char) : Reading (Fields × List Char) := do
  let (y, s) ← year s
  let s ← literal '-' s
  let (mo, s) ← field 2 1 12 s
  let s ← literal '-' s
  let (d, s) ← field 2 1 31 s
  let s ← match s with
    | [] => throw .notEnough
    | c :: rest => if c == 'T' || c == 't' || c == ' ' then pure rest else throw .invalid
  let (h, s) ← field 2 0 23 s
  let s ← literal ':' s
  let (mi, s) ← field 2 0 59 s
  let s ← literal ':' s
  let (sec, s) ← field 2 0 60 s
  let (nano, s) ← fraction s
  let s := trimBlanks s
  if s.isEmpty then throw .notEnough
  let (off, s) ← if startsUtc s then pure (0, s.drop 3) else offset s
  return ({ year := y, month := mo, day := d, hour := h, minute := mi, second := sec,
            nano, offset := off }, s)

/-- The instant a text names. -/
def read (text : String) : Except ReadError Instant := do
  let (f, rest) ← fields text.toList
  unless (trimBlanks rest).isEmpty do throw .tooLong
  unless validDay f.year f.month f.day do throw .outOfRange
  unless f.offset.natAbs < 86400 do throw .outOfRange
  let wall : Instant :=
    { year := f.year, month := f.month, day := f.day, hour := f.hour, minute := f.minute,
      second := f.second, nano := f.nano }
  match wall.shift (-f.offset) with
  | some t => return t
  | none => throw .outOfRange

end Rfc3339

end BearerSession.Clock
