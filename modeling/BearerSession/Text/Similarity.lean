/-!
# Jaro similarity

The Jaro similarity of two texts compares their characters. A character of the first text
matches an equal, not yet matched character of the second whose position is less than half
the longer length (minus one) away; each character of the first text takes the first such
character. With `m` matches, `t` the number of places where the matched characters of the two
texts, read in order, differ, and lengths `a` and `b`, the similarity is
`(m / a + m / b + (m - t / 2) / m) / 3`. Two empty texts are alike (1), an empty and a
non-empty text are not (0), and so are texts with no match.

The value is kept as an exact fraction (`Score`), so that comparing it with a bound such as
`7 / 10` involves no rounding.
-/

namespace BearerSession.Text

/-- A similarity as the fraction `num / den`, with a positive denominator. -/
structure Score where
  num : Nat
  den : Nat

namespace Score

/-- Whether `s` is smaller than `r`. -/
def lt (s r : Score) : Bool := s.num * r.den < r.num * s.den

/-- Whether `s` is above the fraction `n / d`. -/
def above (s : Score) (n d : Nat) : Bool := n * s.den < s.num * d

end Score

/-- Marks the first character of `slots` equal to `c`, unmatched, at a position in `[lo, hi)`;
`j` is the position of the head of `slots`. -/
def claim (c : Char) (lo hi : Nat) : Nat → List (Char × Bool) → Option (List (Char × Bool))
  | _, [] => none
  | j, (d, taken) :: rest =>
    if hi ≤ j then none
    else if lo ≤ j && d == c && !taken then some ((d, true) :: rest)
    else ((d, taken) :: ·) <$> claim c lo hi (j + 1) rest

/-- Matches the characters of the first text, from position `i` on, against `slots`: which of
them matched, and the slots afterwards. -/
def matchFrom (range : Nat) :
    Nat → List Char → List (Char × Bool) → List Bool × List (Char × Bool)
  | _, [], slots => ([], slots)
  | i, c :: rest, slots =>
    match claim c (i - range) (min slots.length (i + range + 1)) 0 slots with
    | some slots' =>
      let (flags, final) := matchFrom range (i + 1) rest slots'
      (true :: flags, final)
    | none =>
      let (flags, final) := matchFrom range (i + 1) rest slots
      (false :: flags, final)

/-- The Jaro similarity of two texts. -/
def jaro (a b : String) : Score :=
  let xs := a.toList
  let ys := b.toList
  let la := xs.length
  let lb := ys.length
  if la == 0 && lb == 0 then ⟨1, 1⟩
  else if la == 0 || lb == 0 then ⟨0, 1⟩
  else
    let range := max la lb / 2 - 1
    let (flags, slots) := matchFrom range 0 xs (ys.map (·, false))
    let fromA := (xs.zip flags).filterMap fun (c, f) => if f then some c else none
    let fromB := slots.filterMap fun (c, f) => if f then some c else none
    let m := fromA.length
    let t := ((fromA.zip fromB).filter fun (c, d) => c != d).length / 2
    if m == 0 then ⟨0, 1⟩
    else ⟨m * lb * m + m * la * m + (m - t) * la * lb, 3 * la * lb * m⟩

/-- The texts of `candidates` more than 7/10 alike to `text`, from the least to the most alike;
candidates equally alike keep their order. -/
def similarTo (text : String) (candidates : List String) : List String :=
  let scored := (candidates.map fun c => (jaro text c, c)).filter fun (s, _) => s.above 7 10
  (scored.mergeSort fun (s, _) (r, _) => !r.lt s).map (·.2)

end BearerSession.Text
