/-!
# Punycode

Punycode (RFC 3492) writes a label of any code points with the letters, digits and hyphen of
ASCII. The ASCII code points of the label come first, followed by a hyphen if there were any;
then every other code point, taken in increasing order of value, is written as the distance
from the previous insertion, a variable-length number in base 36 whose digit thresholds follow
an adapting bias.

`Punycode.encode` writes a label; `Punycode.decode` reads one back, and refuses digits that do
not form a number, numbers that lead past U+10FFFF or into the surrogates, and code points
outside ASCII before the last hyphen.

The loops end by measures: the bias loop divides its delta, the digit writer divides its
number, and the digit reader and the insertion loop consume their input.
-/

namespace BearerSession.Url.Punycode

/-- The character of a digit: `a` to `z` for 0 to 25, `0` to `9` for 26 to 35. -/
def digitChar (d : Nat) : Char :=
  if d < 26 then Char.ofNat (0x61 + d) else Char.ofNat (0x30 + d - 26)

/-- The value of a digit character, in either case. -/
def digitOf (c : Char) : Option Nat :=
  let n := c.toNat
  if 0x61 ≤ n && n ≤ 0x7A then some (n - 0x61)
  else if 0x41 ≤ n && n ≤ 0x5A then some (n - 0x41)
  else if 0x30 ≤ n && n ≤ 0x39 then some (n - 0x30 + 26)
  else none

/-- The threshold of the digit at position `k`, between 1 and 26. -/
def threshold (k bias : Nat) : Nat :=
  if k ≤ bias then 1 else if bias + 26 ≤ k then 26 else k - bias

theorem threshold_pos (k bias : Nat) : 1 ≤ threshold k bias := by
  unfold threshold; split <;> (try split) <;> omega

theorem threshold_le (k bias : Nat) : threshold k bias ≤ 26 := by
  unfold threshold; split <;> (try split) <;> omega

/-- Divides `delta` by 35 until it is at most 455, counting 36 for each division. -/
def shrink (delta k : Nat) : Nat × Nat :=
  if 455 < delta then shrink (delta / 35) (k + 36) else (delta, k)
termination_by delta
decreasing_by exact Nat.div_lt_self (by omega) (by omega)

/-- The bias after a code point was written with `delta`, `count` code points now placed. -/
def adapt (delta count : Nat) (first : Bool) : Nat :=
  let d := if first then delta / 700 else delta / 2
  let (d, k) := shrink (d + d / count) 0
  k + 36 * d / (d + 38)

/-- The digits of the number `q`, from position `k` on. -/
def digits (bias k q : Nat) : List Char :=
  let t := threshold k bias
  if q < t then [digitChar q]
  else digitChar (t + (q - t) % (36 - t)) :: digits bias (k + 36) ((q - t) / (36 - t))
termination_by q
decreasing_by
  have := threshold_pos k bias
  have := threshold_le k bias
  calc (q - threshold k bias) / (36 - threshold k bias) ≤ q - threshold k bias :=
        Nat.div_le_self _ _
    _ < q := by omega

/-- The state of writing: the digits so far, the running delta, the bias, the count of code
points placed. -/
structure Writing where
  out : List Char
  delta : Nat
  bias : Nat
  placed : Nat

/-- Passes one code point of the label while the code points of value `m` are written. -/
def pass (basic m : Nat) (w : Writing) (c : Char) : Writing :=
  if c.toNat < m then { w with delta := w.delta + 1 }
  else if c.toNat == m then
    { out := w.out ++ digits w.bias 36 w.delta, delta := 0,
      bias := adapt w.delta (w.placed + 1) (w.placed == basic), placed := w.placed + 1 }
  else w

/-- Writes the code points of the values `todo`, in increasing order, after the value `n`. -/
def writeAll (label : List Char) (basic : Nat) : List Nat → Nat → Writing → Writing
  | [], _, w => w
  | m :: rest, n, w =>
    let w := { w with delta := w.delta + (m - n) * (w.placed + 1) }
    let w := label.foldl (pass basic m) w
    writeAll label basic rest (m + 1) { w with delta := w.delta + 1 }

/-- The values of the code points outside ASCII, increasing, each once. -/
def wideValues (label : List Char) : List Nat :=
  ((label.filter (0x80 ≤ ·.toNat)).map Char.toNat).mergeSort.eraseDups

/-- Writes a label in Punycode, without the `xn--` prefix. -/
def encode (label : List Char) : String :=
  let basic := label.filter (·.toNat < 0x80)
  let ext := writeAll label basic.length (wideValues label) 128
    { out := [], delta := 0, bias := 72, placed := basic.length }
  String.ofList (basic ++ (if basic.isEmpty then [] else ['-']) ++ ext.out)

/-- Reads one number: the new value of `i` and the rest of the input. -/
def readNumber (bias : Nat) : List Char → Nat → Nat → Nat → Option (Nat × List Char)
  | [], _, _, _ => none
  | c :: rest, k, w, i =>
    match digitOf c with
    | none => none
    | some d =>
      let i := i + d * w
      if i ≥ Nat.pow 2 32 then none
      else if d < threshold k bias then some (i, rest)
      else readNumber bias rest (k + 36) (w * (36 - threshold k bias)) i

theorem readNumber_length (bias : Nat) :
    ∀ (l : List Char) (k w i : Nat) (r : Nat × List Char),
      readNumber bias l k w i = some r → r.2.length < l.length
  | [], _, _, _, _, h => by simp [readNumber] at h
  | c :: rest, k, w, i, r, h => by
    rw [readNumber] at h
    split at h
    · simp at h
    · simp only at h
      split at h
      · simp at h
      · split at h
        · cases h; simp
        · have := readNumber_length bias rest (k + 36) _ _ r h
          simp; omega

/-- Inserts the code points the numbers of the input describe. -/
def insertAll (bias n i : Nat) (out : List Char) : List Char → Option (List Char)
  | [] => some out
  | c :: rest =>
    match h : readNumber bias (c :: rest) 36 1 i with
    | none => none
    | some (i', more) =>
      let count := out.length + 1
      let n' := n + i' / count
      let pos := i' % count
      if n' < 0xD800 || (0xDFFF < n' && n' < 0x110000) then
        insertAll (adapt (i' - i) count (i == 0)) n' (pos + 1) (out.insertIdx pos (Char.ofNat n'))
          more
      else none
termination_by l => l.length
decreasing_by
  have := readNumber_length bias (c :: rest) 36 1 i (i', more) h
  simpa using this

/-- Reads a label written in Punycode, without the `xn--` prefix. -/
def decode (input : List Char) : Option (List Char) :=
  let (basic, ext) : List Char × List Char :=
    match input.reverse.span (· != '-') with
    | (revExt, []) => ([], revExt.reverse)
    | (revExt, _ :: revBasic) => (revBasic.reverse, revExt.reverse)
  if basic.any (0x80 ≤ ·.toNat) then none
  else insertAll 72 128 0 basic ext

end BearerSession.Url.Punycode
