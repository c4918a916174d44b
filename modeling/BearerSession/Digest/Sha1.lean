/-!
# SHA-1

The SHA-1 digest of FIPS 180-4. The message is padded with a one bit, zeros and its length in
bits as eight big-endian octets, to a multiple of 64 octets; each block of 16 big-endian words
is stretched to 80 words and mixed into five state words in 80 rounds, in four groups of 20
with their own function and constant. The digest is the five words, big-endian.

Every loop is a fold over a range or over the blocks, which end because each step drops a
block.
-/

namespace BearerSession.Digest

/-- Rotates a word left by `n` bits, `0 < n < 32`. -/
def rotl (x : UInt32) (n : UInt32) : UInt32 := (x <<< n) ||| (x >>> (32 - n))

/-- The message padded to a multiple of 64 octets. -/
def pad (msg : List UInt8) : List UInt8 :=
  let len := msg.length
  let zeros := (119 - len % 64) % 64
  msg ++ [0x80] ++ List.replicate zeros 0 ++
    (List.range 8).reverse.map fun i => ((len * 8) / Nat.pow 2 (8 * i) % 256).toUInt8

/-- The big-endian word at octet `at_` of a block. -/
def wordAt (block : List UInt8) (at_ : Nat) : UInt32 :=
  (List.range 4).foldl (fun w i => (w <<< 8) ||| (block.getD (at_ + i) 0).toUInt32) 0

/-- The 80 words of a block. -/
def schedule (block : List UInt8) : Array UInt32 :=
  let first := ((List.range 16).map fun i => wordAt block (4 * i)).toArray
  (List.range 64).foldl (fun w t =>
    let i := t + 16
    w.push (rotl (w.getD (i - 3) 0 ^^^ w.getD (i - 8) 0 ^^^ w.getD (i - 14) 0 ^^^
      w.getD (i - 16) 0) 1)) first

/-- The five state words. -/
structure State where
  a : UInt32
  b : UInt32
  c : UInt32
  d : UInt32
  e : UInt32

/-- The state before the first block. -/
def State.initial : State := ⟨0x67452301, 0xEFCDAB89, 0x98BADCFE, 0x10325476, 0xC3D2E1F0⟩

/-- Round `t` of a block with the words `w`. -/
def round (w : Array UInt32) (s : State) (t : Nat) : State :=
  let (f, k) : UInt32 × UInt32 :=
    if t < 20 then ((s.b &&& s.c) ||| ((~~~ s.b) &&& s.d), 0x5A827999)
    else if t < 40 then (s.b ^^^ s.c ^^^ s.d, 0x6ED9EBA1)
    else if t < 60 then ((s.b &&& s.c) ||| (s.b &&& s.d) ||| (s.c &&& s.d), 0x8F1BBCDC)
    else (s.b ^^^ s.c ^^^ s.d, 0xCA62C1D6)
  ⟨rotl s.a 5 + f + s.e + k + w.getD t 0, s.a, rotl s.b 30, s.c, s.d⟩

/-- Mixes one block into the state. -/
def compress (h : State) (block : List UInt8) : State :=
  let w := schedule block
  let s := (List.range 80).foldl (round w) h
  ⟨h.a + s.a, h.b + s.b, h.c + s.c, h.d + s.d, h.e + s.e⟩

/-- Mixes every block of a padded message into the state. -/
def compressAll (h : State) (bytes : List UInt8) : State :=
  match bytes with
  | [] => h
  | b :: rest => compressAll (compress h ((b :: rest).take 64)) ((b :: rest).drop 64)
termination_by bytes.length
decreasing_by simp only [List.length_drop, List.length_cons]; omega

/-- The octets of a word, big-endian. -/
def octets (x : UInt32) : List UInt8 :=
  [(x >>> 24).toUInt8, (x >>> 16).toUInt8, (x >>> 8).toUInt8, x.toUInt8]

/-- The SHA-1 digest of a message: 20 octets. -/
def sha1 (msg : List UInt8) : List UInt8 :=
  let s := compressAll State.initial (pad msg)
  [s.a, s.b, s.c, s.d, s.e].flatMap octets

/-- Octets in lower-case hexadecimal. -/
def hex (bytes : List UInt8) : String :=
  let digit := fun (n : Nat) => if n < 10 then Char.ofNat (48 + n) else Char.ofNat (87 + n)
  String.ofList (bytes.flatMap fun b => [digit (b.toNat / 16), digit (b.toNat % 16)])

end BearerSession.Digest
