import BearerSession.Url.Punycode
import BearerSession.Text.Utf8

/-!
# Hosts

The host of a URL is a domain, an IPv4 address or an IPv6 address. How a host is read depends
on the scheme.

For the special schemes (`Host.parse`) a host in brackets is an IPv6 address. Otherwise the
host is percent-decoded, must be UTF-8, and is made ASCII (`toAscii`): letters are mapped to
lower case (and a few compatibility forms to their plain forms), some invisible characters are
dropped, labels outside ASCII are written in Punycode after `xn--`, labels already in that form
must read back to a label outside ASCII, and the characters that delimit URL parts may not
appear. A domain that is empty fails. A domain whose last label (before a final dot) is a
number is an IPv4 address: one to four numbers, each decimal, octal after `0` or hexadecimal
after `0x`, all but the last below 256 and the last filling the remaining bytes.

Other schemes keep their host as text (`Host.parseGeneric`), with control characters and
characters beyond ASCII percent-encoded, and refuse a few delimiters.

An IPv6 address is written in lower-case hexadecimal with the longest run of two or more zero
pieces, the first if two are as long, shortened to `::`.
-/

namespace BearerSession.Url

/-- Why a text is not a URL. -/
inductive UrlError where
  | emptyHost
  | idna
  | invalidPort
  | invalidIpv4
  | invalidIpv6
  | invalidDomainCharacter
  | relativeWithoutBase
  deriving DecidableEq, Repr

/-- The text of a URL error. -/
def UrlError.message : UrlError → String
  | .emptyHost => "empty host"
  | .idna => "invalid international domain name"
  | .invalidPort => "invalid port number"
  | .invalidIpv4 => "invalid IPv4 address"
  | .invalidIpv6 => "invalid IPv6 address"
  | .invalidDomainCharacter => "invalid domain character"
  | .relativeWithoutBase => "relative URL without a base"

/-- The host of a URL. -/
inductive Host where
  | domain (name : String)
  | ipv4 (address : Nat)
  | ipv6 (pieces : List Nat)
  deriving DecidableEq, Repr

/-! ## Numbers -/

/-- The value of a digit in a radix up to 16. -/
def digitIn (radix : Nat) (c : Char) : Option Nat :=
  let d :=
    if '0' ≤ c && c ≤ '9' then some (c.toNat - 48)
    else if 'a' ≤ c && c ≤ 'f' then some (c.toNat - 87)
    else if 'A' ≤ c && c ≤ 'F' then some (c.toNat - 55)
    else none
  d.bind fun v => if v < radix then some v else none

/-- The value of digits in a radix, none if one is not a digit. -/
def digitsValue (radix : Nat) (cs : List Char) : Option Nat :=
  cs.foldl (fun acc c => acc.bind fun a => (digitIn radix c).map (a * radix + ·)) (some 0)

/-- One number of an IPv4 address: `0x` starts hexadecimal, a leading `0` octal. Fails on a
character that is not a digit; none when the value does not fit in 32 bits. -/
def ipv4Number (part : List Char) : Except Unit (Option Nat) :=
  if part.isEmpty then .error ()
  else
    let (radix, digits) : Nat × List Char :=
      match part with
      | '0' :: 'x' :: rest | '0' :: 'X' :: rest => (16, rest)
      | '0' :: rest@(_ :: _) => (8, rest)
      | _ => (10, part)
    if digits.isEmpty then .ok (some 0)
    else
      match digitsValue radix digits with
      | none => .error ()
      | some v => .ok (if v < Nat.pow 2 32 then some v else none)

/-- The parts of a text split at a character. -/
def splitAt (sep : Char) (cs : List Char) : List (List Char) :=
  cs.splitOn sep

/-- Whether the last label of a domain, before a final dot, is a number. -/
def endsInNumber (domain : List Char) : Bool :=
  let parts := (splitAt '.' domain).reverse
  let last? := match parts with
    | [] :: next :: _ => some next
    | [] :: [] => none
    | last :: _ => some last
    | [] => none
  match last? with
  | none => false
  | some last =>
    (!last.isEmpty && last.all Char.isDigit) ||
      (match ipv4Number last with | .ok _ => true | .error _ => false)

/-- Reads an IPv4 address. -/
def parseIpv4 (domain : List Char) : Except UrlError Nat := do
  let parts := splitAt '.' domain
  let parts := if parts.getLast? == some [] then parts.dropLast else parts
  if parts.length > 4 then throw .invalidIpv4
  let numbers ← parts.mapM fun p =>
    match ipv4Number p with
    | .ok (some n) => pure n
    | _ => throw .invalidIpv4
  match numbers.reverse with
  | [] => throw .invalidIpv4
  | last :: earlier =>
    let earlier := earlier.reverse
    if last ≥ Nat.pow 256 (4 - earlier.length) then throw .invalidIpv4
    if earlier.any (· > 255) then throw .invalidIpv4
    return (earlier.zipIdx.foldl (fun acc (n, i) => acc + n * Nat.pow 256 (3 - i)) last)

/-- The dotted text of an IPv4 address. -/
def ipv4Text (a : Nat) : String :=
  ".".intercalate ([3, 2, 1, 0].map fun i => toString (a / Nat.pow 256 i % 256))

/-! ## IPv6 -/

/-- The pieces of an IPv6 address being read, where the next piece goes, and where a `::` was. -/
structure Pieces where
  values : List Nat := List.replicate 8 0
  next : Nat := 0
  compress : Option Nat := none

/-- Reads up to four hexadecimal digits: their value, their count and the rest. -/
def hexPiece (cs : List Char) : Nat × Nat × List Char :=
  let run := (cs.take 4).takeWhile fun c => (digitIn 16 c).isSome
  ((digitsValue 16 run).getD 0, run.length, cs.drop run.length)

/-- Reads the dotted IPv4 tail of an IPv6 address into the pieces from `p.next` on. -/
def ipv4Tail (p : Pieces) : Nat → Nat → List Char → Except UrlError Pieces
  | 0, _, _ => .error .invalidIpv6
  | fuel + 1, seen, cs =>
    match cs with
    | [] => if seen == 4 then .ok p else .error .invalidIpv6
    | _ => do
      let cs ← if seen > 0 then
          match cs with
          | '.' :: rest => if seen < 4 then pure rest else throw .invalidIpv6
          | _ => throw .invalidIpv6
        else pure cs
      let run := cs.takeWhile Char.isDigit
      if run.isEmpty then throw .invalidIpv6
      if run.length > 1 && run.head? == some '0' then throw .invalidIpv6
      let v := (digitsValue 10 run).getD 0
      if v > 255 then throw .invalidIpv6
      let values := p.values.modify p.next fun old => old * 256 + v
      let seen := seen + 1
      let next := if seen == 2 || seen == 4 then p.next + 1 else p.next
      ipv4Tail { p with values, next } fuel seen (cs.drop run.length)

/-- Reads the pieces of an IPv6 address. -/
def ipv6Pieces (p : Pieces) : Nat → List Char → Except UrlError Pieces
  | 0, _ => .error .invalidIpv6
  | _, [] => .ok p
  | fuel + 1, cs@(c :: rest) =>
    if p.next == 8 then .error .invalidIpv6
    else if c == ':' then
      if p.compress.isSome then .error .invalidIpv6
      else ipv6Pieces { p with next := p.next + 1, compress := some (p.next + 1) } fuel rest
    else
      let (value, count, after) := hexPiece cs
      match after with
      | '.' :: _ =>
        if count == 0 || p.next > 6 then .error .invalidIpv6
        else ipv4Tail p (cs.length + 1) 0 cs
      | ':' :: more =>
        if more.isEmpty then .error .invalidIpv6
        else ipv6Pieces { p with values := p.values.set p.next value, next := p.next + 1 } fuel more
      | [] => .ok { p with values := p.values.set p.next value, next := p.next + 1 }
      | _ => .error .invalidIpv6

/-- Reads an IPv6 address, the text between the brackets. -/
def parseIpv6 (cs : List Char) : Except UrlError (List Nat) := do
  if cs.length < 2 then throw .invalidIpv6
  let (start, cs) ← match cs with
    | ':' :: ':' :: rest => pure ({ next := 1, compress := some 1 : Pieces }, rest)
    | ':' :: _ => throw .invalidIpv6
    | _ => pure ({} , cs)
  let p ← ipv6Pieces start (cs.length + 1) cs
  match p.compress with
  | some at_ =>
    let moved := (p.values.drop at_).take (p.next - at_)
    let kept := p.values.take at_
    return kept ++ List.replicate (8 - at_ - moved.length) 0 ++ moved
  | none => if p.next == 8 then return p.values else throw .invalidIpv6

/-- The longest run of zero pieces, two or longer, the first of equal runs: start and length. -/
def longestZeros (pieces : List Nat) : Option (Nat × Nat) :=
  let step := fun (acc : Option (Nat × Nat) × Option Nat) ((v, i) : Nat × Nat) =>
    let (best, start) := acc
    if v == 0 then
      let s := start.getD i
      let len := i + 1 - s
      let best := match best with
        | some (_, l) => if len > l then some (s, len) else best
        | none => some (s, len)
      (best, some s)
    else (best, none)
  match (pieces.zipIdx.foldl step (none, none)).1 with
  | some (s, l) => if l ≥ 2 then some (s, l) else none
  | none => none

/-- A piece in lower-case hexadecimal. -/
def hexText (n : Nat) : String := String.ofList (Nat.toDigits 16 n)

/-- The text of an IPv6 address. -/
def ipv6Text (pieces : List Nat) : String :=
  match longestZeros pieces with
  | none => ":".intercalate (pieces.map hexText)
  | some (s, l) =>
    ":".intercalate ((pieces.take s).map hexText) ++ "::" ++
      ":".intercalate ((pieces.drop (s + l)).map hexText)

/-- The text of a host. -/
def Host.text : Host → String
  | .domain name => name
  | .ipv4 a => ipv4Text a
  | .ipv6 pieces => "[" ++ ipv6Text pieces ++ "]"

/-! ## Domains -/

/-- Characters a domain may not hold: controls, blank and the delimiters of URL parts. -/
def forbiddenInDomain (c : Char) : Bool :=
  c.toNat < 0x20 || c.toNat == 0x7F || " #%/:<>?@[\\]^|".toList.contains c

/-- The lower-case form of a letter of Latin Extended-A. -/
def latinExtendedLower (n : Nat) : List Char :=
  if n == 0x130 then ['i', '\u0307']
  else if n == 0x131 || n == 0x138 then [Char.ofNat n]
  else if n == 0x132 || n == 0x133 then ['i', 'j']
  else if n == 0x13F || n == 0x140 then ['l', '\xb7']
  else if n == 0x149 then ['\u02bc', 'n']
  else if n == 0x178 then ['\xff']
  else if n == 0x17F then ['s']
  else if (0x139 ≤ n && n ≤ 0x148) || (0x179 ≤ n && n ≤ 0x17E) then
    [Char.ofNat (if n % 2 == 1 then n + 1 else n)]
  else [Char.ofNat (if n % 2 == 0 then n + 1 else n)]

/-- How a character enters a domain: its replacement, none for a character that is refused,
and nothing for one that is dropped. -/
def mapChar (c : Char) : Option (List Char) :=
  let n := c.toNat
  if n < 0x80 then some [if 'A' ≤ c && c ≤ 'Z' then Char.ofNat (n + 32) else c]
  else if n == 0xAD || n == 0x34F || n == 0x200B || n == 0x2060 || n == 0xFEFF ||
      (0xFE00 ≤ n && n ≤ 0xFE0F) || (0x180B ≤ n && n ≤ 0x180D) then some []
  else if n ≤ 0x9F then none
  else if n == 0xA0 || (0x2000 ≤ n && n ≤ 0x200A) || n == 0x202F || n == 0x205F ||
      n == 0x3000 then some [' ']
  else if n == 0xB5 then some ['\u03bc']
  else if 0xC0 ≤ n && n ≤ 0xDE && n != 0xD7 then some [Char.ofNat (n + 32)]
  else if 0x100 ≤ n && n ≤ 0x17F then some (latinExtendedLower n)
  else if 0x391 ≤ n && n ≤ 0x3A9 && n != 0x3A2 then some [Char.ofNat (n + 32)]
  else if n == 0x386 then some ['\u03ac']
  else if 0x388 ≤ n && n ≤ 0x38A then some [Char.ofNat (n + 37)]
  else if n == 0x38C then some ['\u03cc']
  else if n == 0x38E || n == 0x38F then some [Char.ofNat (n + 63)]
  else if 0x410 ≤ n && n ≤ 0x42F then some [Char.ofNat (n + 32)]
  else if 0x400 ≤ n && n ≤ 0x40F then some [Char.ofNat (n + 80)]
  else if 0xFF21 ≤ n && n ≤ 0xFF3A then some [Char.ofNat (n - 0xFF21 + 0x61)]
  else if 0xFF41 ≤ n && n ≤ 0xFF5A then some [Char.ofNat (n - 0xFF41 + 0x61)]
  else if 0xFF10 ≤ n && n ≤ 0xFF19 then some [Char.ofNat (n - 0xFF10 + 0x30)]
  else if n == 0x3002 || n == 0xFF0E || n == 0xFF61 then some ['.']
  else if n == 0xFFFD || n == 0xFFFE || n == 0xFFFF || (0xE000 ≤ n && n ≤ 0xF8FF) then none
  else some [c]

/-- Whether a character stands in a domain as it is. -/
def isValidInDomain (c : Char) : Bool := mapChar c == some [c] && !forbiddenInDomain c

/-- Makes one label ASCII. -/
def labelToAscii (label : List Char) : Except UrlError String :=
  match label with
  | 'x' :: 'n' :: '-' :: '-' :: rest =>
    match Punycode.decode rest with
    | some decoded =>
      if decoded.isEmpty || decoded.all (·.toNat < 0x80) || !decoded.all isValidInDomain then
        .error .idna
      else .ok (String.ofList label)
    | none => .error .idna
  | _ =>
    if label.all (·.toNat < 0x80) then .ok (String.ofList label)
    else .ok ("xn--" ++ Punycode.encode label)

/-- Makes a domain ASCII. -/
def toAscii (domain : List Char) : Except UrlError String := do
  let mapped ← domain.foldr (fun c acc => do
      match mapChar c with
      | some cs => return cs ++ (← acc)
      | none => throw .idna) (pure [])
  if mapped.any forbiddenInDomain then throw .idna
  let labels ← (splitAt '.' mapped).mapM labelToAscii
  return ".".intercalate labels

/-- The value of a hexadecimal digit octet. -/
def hexOctet (b : UInt8) : Option Nat := digitIn 16 (Char.ofNat b.toNat)

/-- Replaces every `%` followed by two hexadecimal digits by the octet they name. -/
def percentDecode : List UInt8 → List UInt8
  | [] => []
  | 37 :: h :: l :: rest =>
    match hexOctet h, hexOctet l with
    | some a, some b => (a * 16 + b).toUInt8 :: percentDecode rest
    | _, _ => 37 :: percentDecode (h :: l :: rest)
  | b :: rest => b :: percentDecode rest

/-- Reads the host of a URL with a special scheme. -/
def Host.parse (input : String) : Except UrlError Host := do
  let cs := input.toList
  if cs.head? == some '[' then
    if cs.getLast? != some ']' then throw .invalidIpv6
    return .ipv6 (← parseIpv6 ((cs.drop 1).dropLast))
  let some decoded := Text.Utf8.decode? (percentDecode input.toUTF8.toList) | throw .idna
  let domain ← toAscii decoded.toList
  if domain.isEmpty then throw .emptyHost
  if endsInNumber domain.toList then return .ipv4 (← parseIpv4 domain.toList)
  return .domain domain

/-- Characters the host of another scheme may not hold. -/
def forbiddenInGeneric (c : Char) : Bool :=
  "\x00\t\n\r #/:<>?@[\\]^|".toList.contains c

/-- Percent-encodes the octets of a character when `encodeIt` says so or it lies beyond
ASCII. -/
def percentEncode (encodeIt : Char → Bool) (c : Char) : String :=
  if c.toNat < 0x80 && !encodeIt c then c.toString
  else if c.toNat < 0x80 then "%" ++ (String.ofList (Nat.toDigits 16 (c.toNat / 16))).toUpper ++
    (String.ofList (Nat.toDigits 16 (c.toNat % 16))).toUpper
  else String.join ((Text.Utf8.encode c.toString).map fun b =>
    "%" ++ (String.ofList (Nat.toDigits 16 (b.toNat / 16))).toUpper ++
      (String.ofList (Nat.toDigits 16 (b.toNat % 16))).toUpper)

/-- Whether a character is a control character: below U+0020, or U+007F. -/
def isControl (c : Char) : Bool := c.toNat < 0x20 || c.toNat == 0x7F

/-- Reads the host of a URL with another scheme. -/
def Host.parseGeneric (input : String) : Except UrlError Host := do
  let cs := input.toList
  if cs.head? == some '[' then
    if cs.getLast? != some ']' then throw .invalidIpv6
    return .ipv6 (← parseIpv6 ((cs.drop 1).dropLast))
  if cs.any forbiddenInGeneric then throw .invalidDomainCharacter
  return .domain (String.join (cs.map (percentEncode isControl)))

end BearerSession.Url
