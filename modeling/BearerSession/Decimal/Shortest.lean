/-!
# Shortest decimal digits of a double

A finite double `v` is `m * 2 ^ e`. Every real strictly between `v` and the midpoints to its
two neighbours rounds back to `v`, and so do the midpoints themselves when `m` is even (ties go
to the even mantissa). `shortest` returns the decimal `d * 10 ^ k` of fewest significant digits
in that interval and, among those, the one nearest to `v`, an exact tie going to the even `d`.

For each digit count `n` from 1 on, the grid `10 ^ k` with `n` digits below `v`'s leading digit
is tried: if any point of the grid lies in the interval then so does one of `v`'s two
neighbours on it, so it suffices to test those two. All comparisons are exact, on natural
numbers. Seventeen digits always reach the interval.
-/

namespace BearerSession.Decimal

/-- A finite positive double as `mantissa * 2 ^ exponent`; `narrowBelow` records that the
neighbour below is half as far as the one above (the mantissa is a power of two and the value
is normal, not the least normal). -/
structure Binary where
  mantissa : Nat
  exponent : Int
  narrowBelow : Bool

/-- The magnitude of the double with the given bits, read as mantissa and exponent. -/
def Binary.ofBits (bits : UInt64) : Binary :=
  let field := ((bits >>> 52) &&& 0x7FF).toNat
  let fraction := (bits &&& 0xFFFFFFFFFFFFF).toNat
  if field = 0 then ⟨fraction, -1074, false⟩
  else ⟨fraction + Nat.pow 2 52, (field : Int) - 1075, fraction == 0 && field > 1⟩

/-- Compares `d * 10 ^ k` with `x * 2 ^ e`, exactly. -/
def compareScaled (d : Nat) (k : Int) (x : Nat) (e : Int) : Ordering :=
  compare (d * Nat.pow 10 k.toNat * Nat.pow 2 (-e).toNat)
    (x * Nat.pow 2 e.toNat * Nat.pow 10 (-k).toNat)

namespace Binary

/-- Whether `d * 10 ^ k` reads back as this double: it lies between the midpoints to the two
neighbours, which count only when the mantissa is even. -/
def readsBack (b : Binary) (d : Nat) (k : Int) : Bool :=
  let low := 4 * b.mantissa - (if b.narrowBelow then 1 else 2)
  let high := 4 * b.mantissa + 2
  let aboveLow := compareScaled d k low (b.exponent - 2)
  let belowHigh := compareScaled d k high (b.exponent - 2)
  if b.mantissa % 2 == 0 then aboveLow != .lt && belowHigh != .gt
  else aboveLow == .gt && belowHigh == .lt

/-- The number of decimal digits of a positive natural number. -/
def digitCount (n : Nat) : Nat :=
  (Nat.toDigits 10 n).length

/-- The exponent of the leading decimal digit: the greatest `k` with `10 ^ k ≤ v`. -/
def leadingExponent (b : Binary) : Int :=
  let scaled :=
    b.mantissa * Nat.pow 2 b.exponent.toNat * Nat.pow 10 400 / Nat.pow 2 (-b.exponent).toNat
  (digitCount scaled : Int) - 401

/-- `⌊v / 10 ^ k⌋`. -/
def floorAt (b : Binary) (k : Int) : Nat :=
  b.mantissa * Nat.pow 2 b.exponent.toNat * Nat.pow 10 (-k).toNat /
    (Nat.pow 2 (-b.exponent).toNat * Nat.pow 10 k.toNat)

/-- Of the neighbours `lo * 10 ^ k` and `(lo + 1) * 10 ^ k` of `v`, the nearer one; a tie
goes to the even digit string. -/
def nearer (b : Binary) (lo : Nat) (k : Int) : Nat :=
  match compareScaled (2 * lo + 1) k (2 * b.mantissa) b.exponent with
  | .gt => lo
  | .lt => lo + 1
  | .eq => if lo % 2 == 0 then lo else lo + 1

/-- The first grid, from `n` digits on (at most `fuel` more), on which a neighbour of `v`
reads back, with the chosen neighbour's digits. -/
def search (b : Binary) (top : Int) : Nat → Nat → Nat × Int
  | _, 0 => (b.floorAt (top - 16), top - 16)
  | n, fuel + 1 =>
    let k := top - (n : Int) + 1
    let lo := b.floorAt k
    match b.readsBack lo k, b.readsBack (lo + 1) k with
    | true, true => (b.nearer lo k, k)
    | true, false => (lo, k)
    | false, true => (lo + 1, k)
    | false, false => search b top (n + 1) fuel

end Binary

/-- Removes trailing zero digits, raising the exponent for each. -/
def trimZeros : Nat → Nat × Int → Nat × Int
  | 0, dk => dk
  | fuel + 1, (d, k) => if d != 0 && d % 10 == 0 then trimZeros fuel (d / 10, k + 1) else (d, k)

/-- The shortest digits `d` and exponent `k` with `d * 10 ^ k` reading back as the positive
finite double `b`; `d` has no trailing zero. -/
def shortest (b : Binary) : Nat × Int :=
  trimZeros 24 (b.search b.leadingExponent 1 17)

/-- The decimal digits of a natural number as text. -/
def digitText (d : Nat) : String :=
  String.ofList (Nat.toDigits 10 d)

/-- `n` zeros. -/
def zeros (n : Nat) : String :=
  String.ofList (List.replicate n '0')

/-- The positional text of `d * 10 ^ k`, without exponent and without a trailing point:
`1500`, `0.001`, `12.5`. -/
def positional (d : Nat) (k : Int) : String :=
  let ds := digitText d
  if 0 ≤ k then ds ++ zeros k.toNat
  else
    let frac := (-k).toNat
    if frac < ds.length then
      String.ofList (ds.toList.take (ds.length - frac)) ++ "." ++
        String.ofList (ds.toList.drop (ds.length - frac))
    else "0." ++ zeros (frac - ds.length) ++ ds

end BearerSession.Decimal
