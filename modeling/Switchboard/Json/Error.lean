import Switchboard.Json.Print
import Switchboard.Text.Quoted

/-!
# Decoding errors

A decoding error is a text and a place. The place is a line (counted from 1) and a column (bytes
since the start of the line); line 0 stands for "no place", which is what an error raised while
decoding an already parsed value has. `DecodeError.message` appends the place to the text.

Two families of errors exist. A `Fault` is the text itself ceasing to be JSON; it always has a
place. A data error says that well-formed JSON does not have the shape a decoder wants (wrong
kind, missing or repeated field, value out of range). Data errors are built by `DecodeError.data`,
which reads a trailing " at line N column M" in the text as the place, so that a message which
already names a place keeps it.
-/

namespace Switchboard

/-- Why a text stopped being JSON. -/
inductive Fault where
  | eofWhileParsingList
  | eofWhileParsingObject
  | eofWhileParsingString
  | eofWhileParsingValue
  | expectedColon
  | expectedListCommaOrEnd
  | expectedObjectCommaOrEnd
  | expectedSomeIdent
  | expectedSomeValue
  | invalidEscape
  | invalidNumber
  | numberOutOfRange
  | invalidUnicodeCodePoint
  | controlCharacterWhileParsingString
  | keyMustBeAString
  | loneLeadingSurrogateInHexEscape
  | trailingComma
  | trailingCharacters
  | unexpectedEndOfHexEscape
  | recursionLimitExceeded
  deriving DecidableEq, Repr

/-- The text of a fault. -/
def Fault.message : Fault → String
  | .eofWhileParsingList => "EOF while parsing a list"
  | .eofWhileParsingObject => "EOF while parsing an object"
  | .eofWhileParsingString => "EOF while parsing a string"
  | .eofWhileParsingValue => "EOF while parsing a value"
  | .expectedColon => "expected `:`"
  | .expectedListCommaOrEnd => "expected `,` or `]`"
  | .expectedObjectCommaOrEnd => "expected `,` or `\x7d`"
  | .expectedSomeIdent => "expected ident"
  | .expectedSomeValue => "expected value"
  | .invalidEscape => "invalid escape"
  | .invalidNumber => "invalid number"
  | .numberOutOfRange => "number out of range"
  | .invalidUnicodeCodePoint => "invalid unicode code point"
  | .controlCharacterWhileParsingString =>
      "control character (\\u0000-\\u001F) found while parsing a string"
  | .keyMustBeAString => "key must be a string"
  | .loneLeadingSurrogateInHexEscape => "lone leading surrogate in hex escape"
  | .trailingComma => "trailing comma"
  | .trailingCharacters => "trailing characters"
  | .unexpectedEndOfHexEscape => "unexpected end of hex escape"
  | .recursionLimitExceeded => "recursion limit exceeded"

/-- An error met while decoding, with its place (line 0 when it has none). -/
structure DecodeError where
  text : String
  line : Nat
  column : Nat
  deriving DecidableEq, Repr

namespace DecodeError

/-- The full message: the text, then the place when there is one. -/
def message (error : DecodeError) : String :=
  if error.line = 0 then error.text
  else error.text ++ " at line " ++ toString error.line ++ " column " ++ toString error.column

/-- The line and column of byte `index` of `bytes`. -/
def placeOf (bytes : ByteArray) (index : Nat) : Nat × Nat :=
  let before := (bytes.extract 0 index).toList
  let newlines := before.count 10
  let lineStart := before.length - (before.reverse.takeWhile (· != 10)).length
  (newlines + 1, index - lineStart)

/-- A fault at byte `index`. -/
def fault (bytes : ByteArray) (index : Nat) (f : Fault) : DecodeError :=
  let (line, column) := placeOf bytes index
  { text := f.message, line, column }

/-- The decimal number at the front of a character list and the rest. -/
def leadingNumber (chars : List Char) : List Char × List Char :=
  (chars.takeWhile Char.isDigit, chars.dropWhile Char.isDigit)

/-- Splits a trailing " at line N column M" off a message, when it has one. -/
def splitPlace (text : String) : Option (String × Nat × Nat) :=
  let marker := " at line ".toList
  let chars := text.toList
  -- the last occurrence of the marker
  let starts := (List.range chars.length).filter fun i => (chars.drop i).take marker.length == marker
  match starts.getLast? with
  | none => none
  | some start =>
      let (lineDigits, rest) := leadingNumber (chars.drop (start + marker.length))
      let columnMarker := " column ".toList
      if rest.take columnMarker.length == columnMarker then
        let (columnDigits, tail) := leadingNumber (rest.drop columnMarker.length)
        if tail.isEmpty then
          match (String.ofList lineDigits).toNat?, (String.ofList columnDigits).toNat? with
          | some line, some column =>
              if line < Nat.pow 2 64 ∧ column < Nat.pow 2 64 then some (String.ofList (chars.take start), line, column)
              else none
          | _, _ => none
        else none
      else none

/-- A data error with the given text; a trailing place in the text becomes its place. -/
def data (text : String) : DecodeError :=
  match splitPlace text with
  | some (head, line, column) => { text := head, line, column }
  | none => { text, line := 0, column := 0 }

/-- Gives an error without a place the place `(line, column)`. -/
def placeAt (error : DecodeError) (line column : Nat) : DecodeError :=
  if error.line = 0 then { error with line, column } else error

end DecodeError

/-- What a decoder found where it wanted something else. -/
inductive Unexpected where
  | null
  | bool (value : Bool)
  | integer (value : Int)
  | float (value : Float)
  | string (value : String)
  | sequence
  | map

/-- How an error names what was found. -/
def Unexpected.describe : Unexpected → String
  | .null => "null"
  | .bool value => s!"boolean `{value}`"
  | .integer value => s!"integer `{value}`"
  | .float value => "floating point `" ++ FloatLayout.json.float value ++ "`"
  | .string value => "string " ++ Text.quote value
  | .sequence => "sequence"
  | .map => "map"

namespace DecodeError

/-- The decoder wanted `expected` and found a value of another kind. -/
def invalidType (found : Unexpected) (expected : String) : DecodeError :=
  data ("invalid type: " ++ found.describe ++ ", expected " ++ expected)

/-- The decoder wanted `expected` and found a value of the right kind but wrong content. -/
def invalidValue (found : Unexpected) (expected : String) : DecodeError :=
  data ("invalid value: " ++ found.describe ++ ", expected " ++ expected)

/-- A required field was absent. -/
def missingField (name : String) : DecodeError :=
  data s!"missing field `{name}`"

/-- A field occurred twice. -/
def duplicateField (name : String) : DecodeError :=
  data s!"duplicate field `{name}`"

/-- A sequence had `length` items where `expected` describes the wanted count. -/
def invalidLength (length : Nat) (expected : String) : DecodeError :=
  data s!"invalid length {length}, expected {expected}"

/-- Lists names as "`a`", "`a` or `b`", or "one of `a`, `b`, `c`". -/
def oneOf (names : List String) : String :=
  match names with
  | [] => ""
  | [a] => s!"`{a}`"
  | [a, b] => s!"`{a}` or `{b}`"
  | _ => "one of " ++ ", ".intercalate (names.map fun name => s!"`{name}`")

/-- A tag named no variant of a closed list. -/
def unknownVariant (name : String) (variants : List String) : DecodeError :=
  if variants.isEmpty then data s!"unknown variant `{name}`, there are no variants"
  else data ("unknown variant `" ++ name ++ "`, expected " ++ oneOf variants)

end DecodeError

end Switchboard
