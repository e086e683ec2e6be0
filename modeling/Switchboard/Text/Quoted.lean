import Switchboard.Text.Printable

/-!
# Quoted literals

The form in which diagnostics and debug descriptions show a piece of text: between double
quotes, with a backslash before a quote or a backslash, `\0`, `\t`, `\r` and `\n` for those
controls, and `\u{h…}` (lowercase hexadecimal, no leading zeros) for every other character that
`writtenAsEscape` marks. Every other character stands as itself, the apostrophe included.
-/

namespace Switchboard
namespace Text

/-- Lowercase hexadecimal digits of a number, without leading zeros. -/
def hexDigits (n : Nat) : String :=
  String.ofList (Nat.toDigits 16 n)

/-- How a quoted literal writes one character. -/
def quoteChar (c : Char) : String :=
  if c = '\x00' then "\\0"
  else if c = '\t' then "\\t"
  else if c = '\r' then "\\r"
  else if c = '\n' then "\\n"
  else if c = '\\' then "\\\\"
  else if c = '"' then "\\\""
  else if writtenAsEscape c then "\\u\x7b" ++ hexDigits c.toNat ++ "\x7d"
  else c.toString

/-- The quoted literal of a text. -/
def quote (text : String) : String :=
  "\"" ++ String.join (text.toList.map quoteChar) ++ "\""

end Text
end Switchboard
