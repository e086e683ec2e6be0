import Switchboard.Json.Source
import Switchboard.Text.Utf8

/-!
# Reading JSON text

A `JsonSource` over the bytes of a text. The reader keeps the index of the next unread byte, the
nesting it may still enter (128 levels, counted down on entering a container and refused when the
count reaches zero) and whether the innermost container has had an item yet.

Places follow two rules. An error about a byte the reader has taken sits right after it; an
error about the byte it is looking at sits one past it (or at the end of the text). A data error
raised by a decoder gets the place the reader has when the request that read the value returns:
after a scalar, or after the attempt to close a container (white space, then the closing bracket
when it is next). Skipping a value is a lighter reading: it neither checks the characters of
strings nor the range of numbers, has no nesting limit, and after a comma expects a value (in a
list) or a key (in a map) without looking for the closing bracket.
-/

namespace Switchboard

/-- The reader's state over a text. -/
structure Cursor where
  bytes : ByteArray
  index : Nat
  /-- How many more containers may be entered. -/
  depth : Nat
  /-- Whether the innermost container has had no item yet. -/
  first : Bool

/-- Reading a text: a state over the bytes, which errors do not roll back. -/
abbrev Scan := ExceptT DecodeError (StateM Cursor)

namespace Scan

/-- The byte under the reader, if any. -/
def peek : Scan (Option UInt8) := do
  let cursor ← get
  pure cursor.bytes[cursor.index]?

/-- Takes the byte under the reader. -/
def eat : Scan Unit :=
  modify fun cursor => { cursor with index := cursor.index + 1 }

/-- Takes the byte under the reader and returns it. -/
def next : Scan (Option UInt8) := do
  let byte ← peek
  if byte.isSome then eat
  pure byte

/-- Fails with `fault` placed right after the last byte taken. -/
def failHere {α : Type} (f : Fault) : Scan α := do
  let cursor ← get
  throw (DecodeError.fault cursor.bytes cursor.index f)

/-- Fails with `fault` placed one past the byte under the reader. -/
def failAhead {α : Type} (f : Fault) : Scan α := do
  let cursor ← get
  throw (DecodeError.fault cursor.bytes (min (cursor.index + 1) cursor.bytes.size) f)

/-- Gives an error without a place the reader's current place. -/
def placeHere (error : DecodeError) : Scan DecodeError := do
  let cursor ← get
  let (line, column) := DecodeError.placeOf cursor.bytes cursor.index
  pure (error.placeAt line column)

/-- Runs `action`, returning its failure as a value; the state it reached is kept. -/
def attempt {α : Type} (action : Scan α) : Scan (Except DecodeError α) :=
  tryCatch (Except.ok <$> action) (fun error => pure (.error error))

/-- The number of bytes not yet read, plus one. -/
def remaining : Scan Nat := do
  let cursor ← get
  pure (cursor.bytes.size - cursor.index + 1)

/-- Whether a byte is JSON white space. -/
def isBlank (byte : UInt8) : Bool :=
  byte == 0x20 || byte == 0x0A || byte == 0x09 || byte == 0x0D

/-- Whether a byte is an ASCII digit. -/
def isDigit (byte : UInt8) : Bool :=
  0x30 ≤ byte && byte ≤ 0x39

/-- The value of an ASCII digit. -/
def digitValue (byte : UInt8) : Nat :=
  byte.toNat - 0x30

/-- Passes over white space and returns the byte after it. -/
def skipBlanks : Scan (Option UInt8) := do
  let fuel ← remaining
  go fuel
where
  /-- Takes blanks while fuel lasts. -/
  go : Nat → Scan (Option UInt8)
    | 0 => peek
    | fuel + 1 => do
        match ← peek with
        | some byte => if isBlank byte then do eat; go fuel else pure (some byte)
        | none => pure none

/-- Reads the rest of a literal (`rue`, `alse`, `ull`). -/
def literal (expected : List UInt8) : Scan Unit := do
  for byte in expected do
    match ← next with
    | none => failHere .eofWhileParsingValue
    | some found => if found != byte then failHere .expectedSomeIdent

/-! ## Strings -/

/-- The value of a hexadecimal digit. -/
def hexValue (byte : UInt8) : Option Nat :=
  if 0x30 ≤ byte ∧ byte ≤ 0x39 then some (byte.toNat - 0x30)
  else if 0x41 ≤ byte ∧ byte ≤ 0x46 then some (byte.toNat - 0x37)
  else if 0x61 ≤ byte ∧ byte ≤ 0x66 then some (byte.toNat - 0x57)
  else none

/-- Reads the four hexadecimal digits of a `\u` escape. -/
def hexEscape : Scan Nat := do
  let cursor ← get
  if cursor.index + 4 ≤ cursor.bytes.size then
    let digits := (List.range 4).map fun k => cursor.bytes[cursor.index + k]?
    set { cursor with index := cursor.index + 4 }
    match digits with
    | [some a, some b, some c, some d] =>
        match hexValue a, hexValue b, hexValue c, hexValue d with
        | some a, some b, some c, some d => pure (((a * 16 + b) * 16 + c) * 16 + d)
        | _, _, _, _ => failHere .invalidEscape
    | _ => failHere .invalidEscape
  else
    set { cursor with index := cursor.bytes.size }
    failHere .eofWhileParsingString

/-- Takes the byte under the reader, failing at the end of the text inside a string. -/
def nextInString : Scan UInt8 := do
  match ← next with
  | some byte => pure byte
  | none => failHere .eofWhileParsingString

/-- Looks at the byte under the reader, failing at the end of the text inside a string. -/
def peekInString : Scan UInt8 := do
  match ← peek with
  | some byte => pure byte
  | none => failHere .eofWhileParsingString

/-- Reads the rest of an escape after its backslash, as the character it stands for. -/
def escape : Scan Char := do
  let byte ← nextInString
  if byte == 0x22 then pure '"'
  else if byte == 0x5C then pure '\\'
  else if byte == 0x2F then pure '/'
  else if byte == 0x62 then pure '\x08'
  else if byte == 0x66 then pure '\x0c'
  else if byte == 0x6E then pure '\n'
  else if byte == 0x72 then pure '\r'
  else if byte == 0x74 then pure '\t'
  else if byte == 0x75 then do
    let first ← hexEscape
    if 0xDC00 ≤ first ∧ first ≤ 0xDFFF then failHere .loneLeadingSurrogateInHexEscape
    else if 0xD800 ≤ first ∧ first ≤ 0xDBFF then do
      if (← peekInString) != 0x5C then do eat; failHere .unexpectedEndOfHexEscape
      eat
      if (← peekInString) != 0x75 then do eat; failHere .unexpectedEndOfHexEscape
      eat
      let second ← hexEscape
      if second < 0xDC00 ∨ second > 0xDFFF then failHere .loneLeadingSurrogateInHexEscape
      pure (Char.ofNat ((first - 0xD800) * 1024 + (second - 0xDC00) + 0x10000))
    else pure (Char.ofNat first)
  else failHere .invalidEscape

/-- What a string has read so far: its text, how many bytes that text takes once its escapes
stand for their characters, and, once a byte that is not UTF-8 has turned up, how many bytes
came before it. -/
structure StringSoFar where
  text : String
  size : Nat
  validPrefix : Option Nat

/-- Adds the raw bytes `[start, stop)` to a string being read. -/
def addRun (bytes : ByteArray) (start stop : Nat) (soFar : StringSoFar) : StringSoFar :=
  let size := soFar.size + (stop - start)
  match soFar.validPrefix with
  | some _ => { soFar with size }
  | none =>
      match Text.Utf8.decodeRange bytes start stop with
      | .ok text => { soFar with text := soFar.text ++ text, size }
      | .error bad => { soFar with size, validPrefix := some (soFar.size + (bad - start)) }

/-- Adds the character an escape stands for to a string being read. -/
def addEscaped (c : Char) (soFar : StringSoFar) : StringSoFar :=
  { soFar with text := soFar.text.push c, size := soFar.size + c.utf8Size }

/-- Reads the body of a string after its opening quote, through the closing quote. A string that
is not UTF-8 fails once it is closed, at the offset its first bad byte would have if the string
held no escapes: as many bytes back from the end of the string as follow that byte's start in
the text read. -/
def stringBody : Scan String := do
  let fuel ← remaining
  go fuel (← get).index { text := "", size := 0, validPrefix := none }
where
  /-- Reads bytes from the run that started at `start`. -/
  go : Nat → Nat → StringSoFar → Scan String
    | 0, _, _ => failHere .eofWhileParsingString
    | fuel + 1, start, soFar => do
        let cursor ← get
        match cursor.bytes[cursor.index]? with
        | none => failHere .eofWhileParsingString
        | some byte =>
            if byte == 0x22 then do
              let soFar := addRun cursor.bytes start cursor.index soFar
              eat
              match soFar.validPrefix with
              | some valid =>
                  let offset := cursor.index + 1 - (soFar.size - valid)
                  throw (DecodeError.fault cursor.bytes offset .invalidUnicodeCodePoint)
              | none => pure soFar.text
            else if byte == 0x5C then do
              let soFar := addRun cursor.bytes start cursor.index soFar
              eat
              let c ← escape
              go fuel (← get).index (addEscaped c soFar)
            else if byte < 0x20 then do
              eat
              failHere .controlCharacterWhileParsingString
            else do
              eat
              go fuel start soFar

/-! ## Numbers -/

/-- Whether `value * 10 + digit` would exceed `limit`. -/
def overflows (value digit limit : Nat) : Bool :=
  value ≥ limit / 10 && (value > limit / 10 || digit > limit % 10)

/-- Ten to the power `k`, for `k ≤ 308`, as the nearest binary64 value. -/
def powerOfTen (k : Nat) : Float :=
  Float.ofScientific 1 false k

/-- The float `significand · 10^exponent`, by multiplying or dividing by exact powers of ten. -/
def floatFromParts (positive : Bool) (significand : Nat) (exponent : Int) : Scan Float := do
  let start := (UInt64.ofNat significand).toFloat
  let value ← go 40 start exponent
  pure (if positive then value else -value)
where
  /-- Scales by powers of ten, at most 308 at a time. -/
  go : Nat → Float → Int → Scan Float
    | 0, value, _ => pure value
    | fuel + 1, value, exponent =>
        if exponent.natAbs ≤ 308 then
          if exponent ≥ 0 then do
            let scaled := value * powerOfTen exponent.natAbs
            if scaled.isInf then failHere .numberOutOfRange else pure scaled
          else pure (value / powerOfTen exponent.natAbs)
        else if value == 0 then pure value
        else if exponent ≥ 0 then failHere .numberOutOfRange
        else go fuel (value / powerOfTen 308) (exponent + 308)

/-- Takes the digits under the reader. -/
def skipDigits : Scan Unit := do
  let fuel ← remaining
  go fuel
where
  /-- Takes digits while fuel lasts. -/
  go : Nat → Scan Unit
    | 0 => pure ()
    | fuel + 1 => do
        match ← peek with
        | some byte => if isDigit byte then do eat; go fuel else pure ()
        | none => pure ()

/-- Clamps an exponent sum to 32 signed bits. -/
def saturate (value : Int) : Int :=
  max (-2147483648) (min 2147483647 value)

/-- Reads an exponent after `e` or `E` and finishes the float. -/
def exponentPart (positive : Bool) (significand : Nat) (start : Int) : Scan Float := do
  eat
  let positiveExponent ← do
    match ← peek with
    | some 0x2B => do eat; pure true
    | some 0x2D => do eat; pure false
    | _ => pure true
  match ← next with
  | none => failHere .eofWhileParsingValue
  | some byte =>
      if !isDigit byte then failHere .invalidNumber
      else
        let fuel ← remaining
        match ← digits fuel (digitValue byte) with
        | none =>
            if significand ≠ 0 ∧ positiveExponent then failHere .numberOutOfRange
            else do
              skipDigits
              pure (if positive then 0.0 else -0.0)
        | some exponent =>
            let total := if positiveExponent then saturate (start + exponent)
              else saturate (start - exponent)
            floatFromParts positive significand total
where
  /-- Accumulates exponent digits; none when the exponent exceeds 32 signed bits. -/
  digits : Nat → Nat → Scan (Option Nat)
    | 0, value => pure (some value)
    | fuel + 1, value => do
        match ← peek with
        | some byte =>
            if isDigit byte then do
              eat
              if overflows value (digitValue byte) 2147483647 then pure none
              else digits fuel (value * 10 + digitValue byte)
            else pure (some value)
        | none => pure (some value)

/-- Reads a fraction after `.` and finishes the float. -/
def fractionPart (positive : Bool) (significand : Nat) (before : Int) : Scan Float := do
  eat
  let fuel ← remaining
  let (significand, after, overflowed) ← digits fuel significand 0
  if overflowed then do
    skipDigits
    tail significand (before + after)
  else if after = 0 then do
    match ← peek with
    | some _ => failAhead .invalidNumber
    | none => failAhead .eofWhileParsingValue
  else tail significand (before + after)
where
  /-- Accumulates fraction digits; reports whether the significand overflowed. -/
  digits : Nat → Nat → Int → Scan (Nat × Int × Bool)
    | 0, value, after => pure (value, after, false)
    | fuel + 1, value, after => do
        match ← peek with
        | some byte =>
            if isDigit byte then
              if overflows value (digitValue byte) 18446744073709551615 then
                pure (value, after, true)
              else do
                eat
                digits fuel (value * 10 + digitValue byte) (after - 1)
            else pure (value, after, false)
        | none => pure (value, after, false)
  /-- Reads an optional exponent and finishes the float. -/
  tail (significand : Nat) (exponent : Int) : Scan Float := do
    match ← peek with
    | some 0x65 => exponentPart positive significand exponent
    | some 0x45 => exponentPart positive significand exponent
    | _ => floatFromParts positive significand exponent

/-- Reads the rest of a number whose integer digits are `significand`. -/
def numberTail (positive : Bool) (significand : Nat) : Scan Number := do
  match ← peek with
  | some 0x2E => .float <$> fractionPart positive significand 0
  | some 0x65 => .float <$> exponentPart positive significand 0
  | some 0x45 => .float <$> exponentPart positive significand 0
  | _ =>
      if positive then pure (.natural (UInt64.ofNat significand))
      else if 0 < significand ∧ significand ≤ 9223372036854775808 then
        pure (.negative (Int64.ofInt (-(significand : Int))))
      else pure (.float (-(UInt64.ofNat significand).toFloat))

/-- Reads an integer too long for 64 bits: the extra digits raise the exponent. -/
def longInteger (positive : Bool) (significand : Nat) : Scan Float := do
  let fuel ← remaining
  go fuel 0
where
  /-- Counts the extra digits while fuel lasts. -/
  go : Nat → Int → Scan Float
    | 0, exponent => floatFromParts positive significand exponent
    | fuel + 1, exponent => do
        match ← peek with
        | some byte =>
            if isDigit byte then do eat; go fuel (exponent + 1)
            else if byte == 0x2E then fractionPart positive significand exponent
            else if byte == 0x65 ∨ byte == 0x45 then exponentPart positive significand exponent
            else floatFromParts positive significand exponent
        | none => floatFromParts positive significand exponent

/-- Reads a number after its optional minus sign. -/
def number (positive : Bool) : Scan Number := do
  match ← next with
  | none => failHere .eofWhileParsingValue
  | some byte =>
      if byte == 0x30 then do
        match ← peek with
        | some following => if isDigit following then failAhead .invalidNumber else numberTail positive 0
        | none => numberTail positive 0
      else if isDigit byte then do
        let fuel ← remaining
        digits fuel (digitValue byte)
      else failHere .invalidNumber
where
  /-- Accumulates integer digits while they fit 64 bits. -/
  digits : Nat → Nat → Scan Number
    | 0, value => numberTail positive value
    | fuel + 1, value => do
        match ← peek with
        | some byte =>
            if isDigit byte then
              if overflows value (digitValue byte) 18446744073709551615 then
                .float <$> longInteger positive value
              else do
                eat
                digits fuel (value * 10 + digitValue byte)
            else numberTail positive value
        | none => numberTail positive value

/-- Reads the scalar that starts with `byte`, which is under the reader. -/
def scalarAt (byte : UInt8) : Scan Scalar := do
  if byte == 0x6E then do eat; literal [0x75, 0x6C, 0x6C]; pure .null
  else if byte == 0x74 then do eat; literal [0x72, 0x75, 0x65]; pure (.bool true)
  else if byte == 0x66 then do eat; literal [0x61, 0x6C, 0x73, 0x65]; pure (.bool false)
  else if byte == 0x2D then do eat; .number <$> number false
  else if isDigit byte then .number <$> number true
  else if byte == 0x22 then do eat; .string <$> stringBody
  else failAhead .expectedSomeValue

/-! ## Containers -/

/-- Closes a map: white space, then `}`. -/
def closeMap : Scan Unit := do
  match ← skipBlanks with
  | some 0x7D => eat
  | some 0x2C => failAhead .trailingComma
  | some _ => failAhead .trailingCharacters
  | none => failAhead .eofWhileParsingObject

/-- Closes a sequence: white space, then `]`. -/
def closeSeq : Scan Unit := do
  match ← skipBlanks with
  | some 0x5D => eat
  | some 0x2C => do
      eat
      match ← skipBlanks with
      | some 0x5D => failAhead .trailingComma
      | _ => failAhead .trailingCharacters
  | some _ => failAhead .trailingCharacters
  | none => failAhead .eofWhileParsingList

/-- Enters a container, runs `body` on it and closes it with `close`. A failure of the body wins
over a failure to close; either is placed where the reader then stands when it has no place. -/
def container {α : Type} (body : Scan α) (close : Scan Unit) : Scan α := do
  let cursor ← get
  if cursor.depth ≤ 1 then failAhead .recursionLimitExceeded
  set { cursor with depth := cursor.depth - 1, index := cursor.index + 1, first := true }
  let result ← attempt body
  modify fun after => { after with depth := cursor.depth, first := cursor.first }
  let closed ← attempt close
  match result, closed with
  | .ok value, .ok () => pure value
  | .error error, _ => throw (← placeHere error)
  | .ok _, .error error => throw (← placeHere error)

/-- Lifts the verdict of a decoder on a scalar, placing a failure where the reader stands. -/
def verdict {α : Type} (result : Except DecodeError α) : Scan α := do
  match result with
  | .ok value => pure value
  | .error error => throw (← placeHere error)

/-- `JsonSource.scalar` on a text. -/
def scalarRequest {α : Type} (expected : String) (accept : Scalar → Except DecodeError α) :
    Scan α := do
  match ← skipBlanks with
  | none => failAhead .eofWhileParsingValue
  | some byte =>
      if byte == 0x5B then throw (← placeHere (DecodeError.invalidType .sequence expected))
      else if byte == 0x7B then throw (← placeHere (DecodeError.invalidType .map expected))
      else verdict (accept (← scalarAt byte))

/-- `JsonSource.value` on a text. -/
def valueRequest {α : Type} (expected : String) (onScalar : Scalar → Except DecodeError α)
    (onMap : Option (Scan α)) (onSeq : Option (Scan α)) : Scan α := do
  match ← skipBlanks with
  | none => failAhead .eofWhileParsingValue
  | some byte =>
      if byte == 0x5B then
        container (onSeq.getD (throw (DecodeError.invalidType .sequence expected))) closeSeq
      else if byte == 0x7B then
        container (onMap.getD (throw (DecodeError.invalidType .map expected))) closeMap
      else verdict (onScalar (← scalarAt byte))

/-- Notes that the innermost container has had an item. -/
def markItem : Scan Unit :=
  modify fun cursor => { cursor with first := false }

/-- `JsonSource.nextKey` on a text. -/
def nextKeyRequest : Scan (Option String) := do
  let cursor ← get
  let found ← skipBlanks
  let afterSeparator ← do
    match found with
    | some 0x7D => pure none
    | some 0x2C =>
        if cursor.first then do markItem; pure (some (some 0x2C))
        else do eat; pure (some (← skipBlanks))
    | some other =>
        if cursor.first then do markItem; pure (some (some other))
        else failAhead .expectedObjectCommaOrEnd
    | none => failAhead .eofWhileParsingObject
  match afterSeparator with
  | none => pure none
  | some (some 0x22) => do eat; some <$> stringBody
  | some (some 0x7D) => failAhead .trailingComma
  | some (some _) => failAhead .keyMustBeAString
  | some none => failAhead .eofWhileParsingValue

/-- `JsonSource.entry` on a text: the colon, then the value. -/
def entryRequest {α : Type} (read : Scan α) : Scan α := do
  match ← skipBlanks with
  | some 0x3A => do eat; read
  | some _ => failAhead .expectedColon
  | none => failAhead .eofWhileParsingObject

/-- `JsonSource.nextElement` on a text. -/
def nextElementRequest : Scan Bool := do
  let cursor ← get
  let found ← skipBlanks
  let afterSeparator ← do
    match found with
    | some 0x5D => pure none
    | some 0x2C =>
        if cursor.first then do markItem; pure (some (some 0x2C))
        else do eat; pure (some (← skipBlanks))
    | some other =>
        if cursor.first then do markItem; pure (some (some other))
        else failAhead .expectedListCommaOrEnd
    | none => failAhead .eofWhileParsingList
  match afterSeparator with
  | none => pure false
  | some (some 0x5D) => failAhead .trailingComma
  | some (some _) => pure true
  | some none => failAhead .eofWhileParsingValue

/-! ## Skipping -/

/-- Passes over a string body without checking its characters; a control character is placed
at itself rather than after it. -/
def skipString : Scan Unit := do
  let fuel ← remaining
  go fuel
where
  /-- Takes string bytes while fuel lasts. -/
  go : Nat → Scan Unit
    | 0 => failHere .eofWhileParsingString
    | fuel + 1 => do
        match ← peek with
        | none => failHere .eofWhileParsingString
        | some byte =>
            if byte == 0x22 then eat
            else if byte == 0x5C then do
              eat
              let escaped ← nextInString
              if escaped == 0x75 then do let _ ← hexEscape; go fuel
              else if [0x22, 0x5C, 0x2F, 0x62, 0x66, 0x6E, 0x72, 0x74].contains escaped then go fuel
              else failHere .invalidEscape
            else if byte < 0x20 then failHere .controlCharacterWhileParsingString
            else do eat; go fuel

/-- Passes over a number without computing it. -/
def skipNumber : Scan Unit := do
  let first ← next
  match first with
  | some 0x30 => do
      match ← peek with
      | some byte => if isDigit byte then failAhead .invalidNumber
      | none => pure ()
  | some byte => if 0x31 ≤ byte ∧ byte ≤ 0x39 then skipDigits else failHere .invalidNumber
  | none => failHere .invalidNumber
  match ← peek with
  | some 0x2E => do
      eat
      match ← peek with
      | some byte => if isDigit byte then skipDigits else failAhead .invalidNumber
      | none => failAhead .invalidNumber
      match ← peek with
      | some 0x65 => skipExponent
      | some 0x45 => skipExponent
      | _ => pure ()
  | some 0x65 => skipExponent
  | some 0x45 => skipExponent
  | _ => pure ()
where
  /-- Passes over an exponent. -/
  skipExponent : Scan Unit := do
    eat
    match ← peek with
    | some 0x2B => eat
    | some 0x2D => eat
    | _ => pure ()
    match ← next with
    | some byte => if isDigit byte then skipDigits else failHere .invalidNumber
    | none => failHere .invalidNumber

/-- Passes over one value, keeping open containers on a stack. Every byte read takes at most
four steps (a value, the check after it, the next item, and its key), so four steps per byte left
are enough. -/
def skipValue : Scan Unit := do
  let fuel ← remaining
  start (4 * fuel + 4) []
where
  /-- Reads the value that begins under the reader, inside the containers `stack`. -/
  start : Nat → List UInt8 → Scan Unit
    | 0, _ => failHere .eofWhileParsingValue
    | fuel + 1, stack => do
        match ← skipBlanks with
        | none => failAhead .eofWhileParsingValue
        | some byte =>
            if byte == 0x6E then do eat; literal [0x75, 0x6C, 0x6C]; close fuel stack true
            else if byte == 0x74 then do eat; literal [0x72, 0x75, 0x65]; close fuel stack true
            else if byte == 0x66 then do eat; literal [0x61, 0x6C, 0x73, 0x65]; close fuel stack true
            else if byte == 0x2D then do eat; skipNumber; close fuel stack true
            else if isDigit byte then do skipNumber; close fuel stack true
            else if byte == 0x22 then do eat; skipString; close fuel stack true
            else if byte == 0x5B ∨ byte == 0x7B then do eat; close fuel (byte :: stack) false
            else failAhead .expectedSomeValue
  /-- After a value or an opening bracket: a comma, the closing bracket, or the next item. -/
  close : Nat → List UInt8 → Bool → Scan Unit
    | 0, _, _ => failHere .eofWhileParsingValue
    | fuel + 1, stack, afterValue => do
        match stack with
        | [] => pure ()
        | frame :: outer =>
            match ← skipBlanks with
            | some 0x2C =>
                if afterValue then do eat; item fuel stack
                else item fuel stack
            | some 0x5D =>
                if frame == 0x5B then do eat; close fuel outer true
                else if afterValue then failAhead .expectedObjectCommaOrEnd
                else item fuel stack
            | some 0x7D =>
                if frame == 0x7B then do eat; close fuel outer true
                else if afterValue then failAhead .expectedListCommaOrEnd
                else item fuel stack
            | some _ =>
                if afterValue then
                  failAhead (if frame == 0x5B then .expectedListCommaOrEnd else .expectedObjectCommaOrEnd)
                else item fuel stack
            | none =>
                failAhead (if frame == 0x5B then .eofWhileParsingList else .eofWhileParsingObject)
  /-- The next item of the innermost container: a value, or a key, a colon and a value. -/
  item : Nat → List UInt8 → Scan Unit
    | 0, _ => failHere .eofWhileParsingValue
    | fuel + 1, stack => do
        if stack.head? == some 0x7B then do
          match ← skipBlanks with
          | some 0x22 => eat
          | some _ => failAhead .keyMustBeAString
          | none => failAhead .eofWhileParsingObject
          skipString
          match ← skipBlanks with
          | some 0x3A => eat
          | some _ => failAhead .expectedColon
          | none => failAhead .eofWhileParsingObject
        start fuel stack

end Scan

instance : JsonSource Scan where
  scalar := Scan.scalarRequest
  value := Scan.valueRequest
  nextKey := Scan.nextKeyRequest
  entry := Scan.entryRequest
  nextElement := Scan.nextElementRequest
  skip := Scan.skipValue
  budget := Scan.remaining

namespace Json

/-- Decodes a whole text with `decoder`: the value, then nothing but white space. -/
def decodeText {α : Type} (bytes : ByteArray) (decoder : Scan α) : Except DecodeError α :=
  let run : Scan α := do
    let value ← decoder
    match ← Scan.skipBlanks with
    | none => pure value
    | some _ => Scan.failAhead .trailingCharacters
  (run.run.run { bytes, index := 0, depth := 128, first := true }).1

/-- Parses a text into a normalized value. -/
def parseBytes (bytes : ByteArray) : Except DecodeError Json :=
  decodeText bytes (JsonSource.json 130)

end Json
end Switchboard
