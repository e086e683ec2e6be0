import Switchboard.Json.Basic
import Switchboard.Decimal.Shortest

/-!
# Compact JSON text

The printer writes a value with no whitespace, entries in the order the value holds them. A
string escapes the quote, the backslash and the control characters (`\b`, `\f`, `\n`, `\r`, `\t`
by name, the others as `\u00xx` in lowercase hexadecimal); every other character, the slash and
DEL included, is written as itself. Integers are written in decimal. A float is written with its
shortest decimal digits in the layout of `FloatLayout.json`.
-/

namespace Switchboard

/-- Where a float is written with a decimal point and how its exponent looks otherwise. -/
structure FloatLayout where
  /-- The point stands at most this many digits right of the first digit's place. -/
  widestPoint : Int
  /-- The point stands at least this far left of the first digit (as a non-positive position). -/
  narrowestPoint : Int
  /-- A non-negative exponent carries a plus sign. -/
  plusSign : Bool

/-- Floats are positional from `1e-5` up to below `1e16`; an integral value keeps
`.0`; other values are `d.ddde+x` or `d.ddde-x`. -/
def FloatLayout.json : FloatLayout :=
  { widestPoint := 16, narrowestPoint := -4, plusSign := true }

namespace FloatLayout

/-- Lays out the digits `digits · 10^k` of a positive value. -/
def layout (style : FloatLayout) (digits : Nat) (k : Int) : String :=
  let text := toString digits
  let length : Int := text.length
  let point := length + k
  if 0 ≤ k ∧ point ≤ style.widestPoint then
    text ++ String.ofList (List.replicate k.toNat '0') ++ ".0"
  else if 0 < point ∧ point ≤ style.widestPoint then
    String.ofList (text.toList.take point.toNat) ++ "." ++ String.ofList (text.toList.drop point.toNat)
  else if style.narrowestPoint ≤ point ∧ point ≤ 0 then
    "0." ++ String.ofList (List.replicate (-point).toNat '0') ++ text
  else
    let exponent := point - 1
    let mantissa :=
      if text.length = 1 then text
      else String.ofList (text.toList.take 1) ++ "." ++ String.ofList (text.toList.drop 1)
    let sign := if exponent < 0 then "-" else if style.plusSign then "+" else ""
    mantissa ++ "e" ++ sign ++ toString exponent.natAbs

/-- The text of a finite float. -/
def float (style : FloatLayout) (value : Float) : String :=
  let binary := Decimal.Binary.ofBits value.toBits
  let sign := if binary.negative then "-" else ""
  if binary.significand = 0 then sign ++ "0.0"
  else
    let (digits, k) := Decimal.shortest binary
    sign ++ style.layout digits k

end FloatLayout

namespace Number

/-- The text of a number. -/
def text : Number → String
  | .natural value => toString value.toNat
  | .negative value => toString value.toInt
  | .float value => FloatLayout.json.float value

end Number

namespace Json

/-- Lowercase hexadecimal digit of a value below 16. -/
def hexDigit (n : Nat) : Char :=
  if n < 10 then Char.ofNat (48 + n) else Char.ofNat (87 + n)

/-- How a string literal writes one character. -/
def escapeChar (c : Char) : String :=
  if c = '"' then "\\\""
  else if c = '\\' then "\\\\"
  else if c = '\x08' then "\\b"
  else if c = '\x0c' then "\\f"
  else if c = '\n' then "\\n"
  else if c = '\r' then "\\r"
  else if c = '\t' then "\\t"
  else if c.toNat < 0x20 then
    "\\u00" ++ (hexDigit (c.toNat / 16)).toString ++ (hexDigit (c.toNat % 16)).toString
  else c.toString

/-- A string literal. -/
def quote (text : String) : String :=
  "\"" ++ String.join (text.toList.map escapeChar) ++ "\""

mutual

/-- The compact text of a value. -/
def compact : Json → String
  | .null => "null"
  | .bool true => "true"
  | .bool false => "false"
  | .number n => n.text
  | .string s => quote s
  | .array items => "[" ++ compactItems items ++ "]"
  | .object entries => "\x7b" ++ compactEntries entries ++ "\x7d"

/-- The items of an array, separated by commas. -/
def compactItems : List Json → String
  | [] => ""
  | [item] => compact item
  | item :: rest => compact item ++ "," ++ compactItems rest

/-- The entries of an object, separated by commas. -/
def compactEntries : List (String × Json) → String
  | [] => ""
  | [(key, value)] => quote key ++ ":" ++ compact value
  | (key, value) :: rest => quote key ++ ":" ++ compact value ++ "," ++ compactEntries rest

end

end Json

end Switchboard
