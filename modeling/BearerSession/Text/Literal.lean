import BearerSession.Text.Printable

/-!
# Quoted literals

Diagnostic texts show a string as a double-quoted literal in which every character reads
back unambiguously: the quote and the backslash are preceded by a backslash, NUL, tab,
carriage return and line feed get their one-letter escapes, and every other control
character, and every code point of `Printable.escapedRanges`, is written as `\u` followed by
its lowercase hexadecimal value in braces. All else stands for itself.
-/

namespace BearerSession.Text.Literal

/-- The lowercase hexadecimal digits of a number, without leading zeros. -/
def hex (n : Nat) : String :=
  String.ofList (Nat.toDigits 16 n)

/-- The numeric escape of a code point. -/
def unicodeEscape (cp : Nat) : String :=
  "\\u\x7b" ++ hex cp ++ "\x7d"

/-- How a literal writes one character. -/
def char (c : Char) : String :=
  if c = '\x00' then "\\0"
  else if c = '\t' then "\\t"
  else if c = '\r' then "\\r"
  else if c = '\n' then "\\n"
  else if c = '\\' then "\\\\"
  else if c = '"' then "\\\""
  else if c.toNat < 0x20 then unicodeEscape c.toNat
  else if c.toNat < 0x7F then c.toString
  else if Printable.escaped c.toNat then unicodeEscape c.toNat
  else c.toString

/-- The double-quoted literal of a string. -/
def quote (s : String) : String :=
  "\"" ++ String.join (s.toList.map char) ++ "\""

end BearerSession.Text.Literal
