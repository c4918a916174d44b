/-!
# UTF-8 octet sequences

Bodies, files and wire data arrive as octets; the library reads them as text in two ways.
`decodeLossy` replaces every maximal ill-formed subsequence by one U+FFFD, as the Unicode
standard recommends ("substitution of maximal subparts"), and `decode?` accepts only
well-formed input. Both rest on `step`, which reads one character off the front.

The acceptance table is the one of RFC 3629 §4: a leading octet announces how many
continuation octets follow and bounds the first of them, which excludes overlong forms,
surrogates and code points above U+10FFFF.
-/

namespace BearerSession.Text.Utf8

/-- The continuation octets a leading octet announces, with the least and the greatest value
the first of them may take; none for an octet that cannot start a character. -/
def lead (b : UInt8) : Option (Nat × UInt8 × UInt8) :=
  if b < 0x80 then some (0, 0x80, 0xBF)
  else if b < 0xC2 then none
  else if b < 0xE0 then some (1, 0x80, 0xBF)
  else if b == 0xE0 then some (2, 0xA0, 0xBF)
  else if b < 0xED then some (2, 0x80, 0xBF)
  else if b == 0xED then some (2, 0x80, 0x9F)
  else if b < 0xF0 then some (2, 0x80, 0xBF)
  else if b == 0xF0 then some (3, 0x90, 0xBF)
  else if b < 0xF4 then some (3, 0x80, 0xBF)
  else if b == 0xF4 then some (3, 0x80, 0x8F)
  else none

/-- The payload bits of a leading octet that announces `n` continuation octets. -/
def leadBits (b : UInt8) (n : Nat) : Nat :=
  match n with
  | 0 => b.toNat
  | 1 => b.toNat % 0x20
  | 2 => b.toNat % 0x10
  | _ => b.toNat % 0x08

/-- Reads `n` continuation octets onto the code point `acc`; the first must lie in
`lo..hi`. Answers none, with the octets from the first misfit on, when one is missing or
out of range. -/
def tail : Nat → UInt8 → UInt8 → Nat → List UInt8 → Option Nat × List UInt8
  | 0, _, _, acc, bytes => (some acc, bytes)
  | _ + 1, _, _, _, [] => (none, [])
  | n + 1, lo, hi, acc, c :: rest =>
    if lo ≤ c && c ≤ hi then tail n 0x80 0xBF (acc * 64 + c.toNat % 64) rest
    else (none, c :: rest)

theorem tail_length_le (n : Nat) (lo hi : UInt8) (acc : Nat) (bytes : List UInt8) :
    (tail n lo hi acc bytes).2.length ≤ bytes.length := by
  induction n generalizing lo hi acc bytes with
  | zero => simp [tail]
  | succ n ih =>
    cases bytes with
    | nil => simp [tail]
    | cons c rest =>
      simp only [tail]
      split
      · exact Nat.le_trans (ih _ _ _ rest) (Nat.le_succ _)
      · exact Nat.le_refl _

/-- One character off the front: `some c` for a well-formed character, `none` for a maximal
ill-formed subsequence, with the octets after it. -/
def step : List UInt8 → Option (Option Char × List UInt8)
  | [] => none
  | b :: rest =>
    match lead b with
    | none => some (none, rest)
    | some (n, lo, hi) =>
      let read := tail n lo hi (leadBits b n) rest
      some (read.1.map Char.ofNat, read.2)

theorem step_length_lt {bytes : List UInt8} {c : Option Char} {rest : List UInt8}
    (h : step bytes = some (c, rest)) : rest.length < bytes.length := by
  match bytes, h with
  | b :: more, h =>
    simp only [step] at h
    split at h
    · cases h; simp
    · rename_i n lo hi _
      have hl := tail_length_le n lo hi (leadBits b n) more
      cases h
      simp only [List.length_cons]
      omega

/-- The characters of a sequence, each maximal ill-formed subsequence read as U+FFFD. -/
def decodeChars (bytes : List UInt8) : List Char :=
  match h : step bytes with
  | none => []
  | some (c, rest) =>
    have := step_length_lt h
    (c.getD '�') :: decodeChars rest
termination_by bytes.length

/-- The text of a sequence, each maximal ill-formed subsequence read as U+FFFD. -/
def decodeLossy (bytes : List UInt8) : String :=
  String.ofList (decodeChars bytes)

/-- The characters of a well-formed sequence, or none. -/
def decodeCharsStrict? (bytes : List UInt8) : Option (List Char) :=
  match h : step bytes with
  | none => some []
  | some (none, _) => none
  | some (some c, rest) =>
    have := step_length_lt h
    (decodeCharsStrict? rest).map (c :: ·)
termination_by bytes.length

/-- The text of a well-formed sequence, or none. -/
def decode? (bytes : List UInt8) : Option String :=
  (decodeCharsStrict? bytes).map String.ofList

/-- The octets of a text. -/
def encode (s : String) : List UInt8 :=
  s.toUTF8.toList

end BearerSession.Text.Utf8
