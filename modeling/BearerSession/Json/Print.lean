import BearerSession.Decimal.Shortest
import BearerSession.Json.Value
import BearerSession.Text.Literal

/-!
# Writing JSON text

Two layouts of one value: `compact`, with no whitespace, and `pretty`, with one member or item
per line indented by two spaces per level, `": "` after keys, and `[]`/`{}` for empty
containers.

Strings escape the quote, the backslash and the control characters below U+0020 (`\b`, `\f`,
`\n`, `\r`, `\t` by letter, the others as `\u00xx` in lowercase hexadecimal); everything else,
U+007F and non-ASCII text included, is written as it is.

Doubles use their shortest digits (`Decimal.shortest`). A double whose decimal point falls
within the first sixteen digits is written positionally, an integral one with a trailing
`.0` (`1500.0`, `0.1`, `-0.0`); one below `1e-5` or from `1e16` on is written as digits with an
exponent that always carries its sign (`1e+300`, `1.2345678901234568e+29`, `5e-324`).

The diagnostic form of a value (`Value.debug`) names its kind around its contents: `Null`,
`Bool(true)`, `Number(1.5)` with the number as JSON writes it, `String("a")` with the text as a
quoted literal, `Array [..]` and `Object {"k": ..}` with items and members after `, `.
-/

namespace BearerSession.Json

open BearerSession.Decimal

/-- Four lowercase hexadecimal digits of a number below `2 ^ 16`. -/
def hex4 (n : Nat) : String :=
  let ds := Nat.toDigits 16 n
  String.ofList (List.replicate (4 - ds.length) '0' ++ ds)

/-- How a JSON string writes one character. -/
def escapeChar (c : Char) : String :=
  if c = '"' then "\\\""
  else if c = '\\' then "\\\\"
  else if c = '\x08' then "\\b"
  else if c = '\x0c' then "\\f"
  else if c = '\n' then "\\n"
  else if c = '\r' then "\\r"
  else if c = '\t' then "\\t"
  else if c.toNat < 0x20 then "\\u" ++ hex4 c.toNat
  else c.toString

/-- The JSON string literal of a text. -/
def quote (s : String) : String :=
  "\"" ++ String.join (s.toList.map escapeChar) ++ "\""

/-- The exponent part of a number in exponent form: `e`, the sign, the digits. -/
def exponentText (e : Int) : String :=
  if e < 0 then "e-" ++ digitText (-e).toNat else "e+" ++ digitText e.toNat

/-- The text of a finite double of magnitude `d * 10 ^ k` (its shortest digits), by the layout
rules of this module. -/
def magnitudeText (d : Nat) (k : Int) : String :=
  let ds := digitText d
  let n : Int := ds.length
  let point := n + k
  if 0 ≤ k && point ≤ 16 then ds ++ zeros k.toNat ++ ".0"
  else if 0 < point && point ≤ 16 then
    String.ofList (ds.toList.take point.toNat) ++ "." ++ String.ofList (ds.toList.drop point.toNat)
  else if -5 < point && point ≤ 0 then "0." ++ zeros (-point).toNat ++ ds
  else if n = 1 then ds ++ exponentText (point - 1)
  else
    String.ofList (ds.toList.take 1) ++ "." ++ String.ofList (ds.toList.drop 1) ++
      exponentText (point - 1)

/-- Whether the sign bit of a double is set. -/
def signBit (x : Float) : Bool :=
  x.toBits >>> 63 == 1

/-- The JSON text of a finite double. -/
def floatText (x : Float) : String :=
  let sign := if signBit x then "-" else ""
  let b := Binary.ofBits x.toBits
  if b.mantissa = 0 then sign ++ "0.0"
  else
    let (d, k) := shortest b
    sign ++ magnitudeText d k

/-- The JSON text of a number. -/
def Number.text : Number → String
  | .nat n => toString n
  | .negative n => "-" ++ toString n
  | .float x => floatText x

/-- Two spaces per level. -/
def indentText (level : Nat) : String :=
  String.ofList (List.replicate (2 * level) ' ')

namespace Value

mutual

/-- The compact text of a value. -/
def compact : Value → String
  | .null => "null"
  | .bool true => "true"
  | .bool false => "false"
  | .number n => n.text
  | .string s => quote s
  | .array items => "[" ++ compactItems items ++ "]"
  | .object fields => "\x7b" ++ compactFields fields ++ "\x7d"

/-- Items separated by commas. -/
def compactItems : List Value → String
  | [] => ""
  | [v] => compact v
  | v :: rest => compact v ++ "," ++ compactItems rest

/-- Members separated by commas. -/
def compactFields : List (String × Value) → String
  | [] => ""
  | [(k, v)] => quote k ++ ":" ++ compact v
  | (k, v) :: rest => quote k ++ ":" ++ compact v ++ "," ++ compactFields rest

end

mutual

/-- The pretty text of a value whose first line stands at `level`. -/
def prettyAt (level : Nat) : Value → String
  | .array [] => "[]"
  | .array items => "[\n" ++ prettyItems (level + 1) items ++ "\n" ++ indentText level ++ "]"
  | .object [] => "\x7b\x7d"
  | .object fields =>
    "\x7b\n" ++ prettyFields (level + 1) fields ++ "\n" ++ indentText level ++ "\x7d"
  | v => compact v

/-- Items one per line at `level`. -/
def prettyItems (level : Nat) : List Value → String
  | [] => ""
  | [v] => indentText level ++ prettyAt level v
  | v :: rest => indentText level ++ prettyAt level v ++ ",\n" ++ prettyItems level rest

/-- Members one per line at `level`. -/
def prettyFields (level : Nat) : List (String × Value) → String
  | [] => ""
  | [(k, v)] => indentText level ++ quote k ++ ": " ++ prettyAt level v
  | (k, v) :: rest =>
    indentText level ++ quote k ++ ": " ++ prettyAt level v ++ ",\n" ++ prettyFields level rest

end

/-- The pretty text of a value. -/
def pretty (v : Value) : String :=
  prettyAt 0 v

mutual

/-- The diagnostic form of a value. -/
def debug : Value → String
  | .null => "Null"
  | .bool b => "Bool(" ++ toString b ++ ")"
  | .number n => "Number(" ++ n.text ++ ")"
  | .string s => "String(" ++ Text.Literal.quote s ++ ")"
  | .array items => "Array [" ++ debugItems items ++ "]"
  | .object fields => "Object \x7b" ++ debugFields fields ++ "\x7d"

/-- Diagnostic forms of items, separated by `, `. -/
def debugItems : List Value → String
  | [] => ""
  | [v] => debug v
  | v :: rest => debug v ++ ", " ++ debugItems rest

/-- Members as `"key": form`, separated by `, `. -/
def debugFields : List (String × Value) → String
  | [] => ""
  | [(k, v)] => Text.Literal.quote k ++ ": " ++ debug v
  | (k, v) :: rest => Text.Literal.quote k ++ ": " ++ debug v ++ ", " ++ debugFields rest

end

end Value

end BearerSession.Json
