import Switchboard.Time.Duration
import Switchboard.Text.Blank
import Switchboard.Text.Quoted

/-!
# Durations for people

The human form of a duration is a list of items, each a number and a unit, such as `1h 30m` or
`2days 5s`. Reading accepts white space anywhere between items and between a number and its unit,
and many spellings of each unit; a lone `0` is the empty duration. A number may carry a decimal
fraction (`1.5s`): a fraction of a minute or less must come to whole nanoseconds, a fraction of
an hour or more to whole seconds, and a nanosecond takes none. The total keeps whole seconds and
nanoseconds apart, each in 64 bits, and carries nanoseconds past a second into the seconds.
Offsets in errors count bytes.

Writing splits a duration into years of 365.25 days, months of 30.44 days, days, hours, minutes,
seconds, milliseconds, microseconds and nanoseconds, and writes the nonzero ones, largest first,
separated by spaces; years, months and days take a plural `s` when more than one. The empty
duration is `0s`.
-/

namespace Switchboard
namespace Human

/-- Why a text is not a duration. -/
inductive ParseError where
  /-- A character that belongs neither to a number nor to a unit, at a byte offset. -/
  | invalidCharacter (offset : Nat)
  /-- Something other than a number where one must start; the offset is where the search began. -/
  | numberExpected (offset : Nat)
  /-- A unit that is not known; an empty unit means the number had none. -/
  | unknownUnit (unit : String) (value : Nat)
  /-- A number or a total too large, or an item finer than a nanosecond. -/
  | numberOverflow
  /-- Nothing but white space. -/
  | empty
  deriving DecidableEq, Repr

/-- The text of a parse error. -/
def ParseError.message : ParseError → String
  | .invalidCharacter offset => "invalid character at " ++ toString offset
  | .numberExpected offset => "expected number at " ++ toString offset
  | .unknownUnit unit value =>
      if unit.isEmpty then
        "time unit needed, for example " ++ toString value ++ "sec or " ++ toString value ++ "ms"
      else
        "unknown time unit " ++ Text.quote unit ++ ", supported units: ns, us/µs, ms, sec, min, " ++
          "hours, days, weeks, months, years (and few variations)"
  | .numberOverflow =>
      "number is too large or cannot be represented without a lack of precision " ++
        "(values below 1ns are not supported)"
  | .empty => "value was empty"

/-- Numbers, and the seconds and nanoseconds of a total, are held in unsigned 64 bits. -/
def numberLimit : Nat := Nat.pow 2 64

/-- The product of two numbers, when it fits in 64 bits. -/
def times (a b : Nat) : Except ParseError Nat :=
  if a * b < numberLimit then .ok (a * b) else .error .numberOverflow

/-- The sum of two numbers, when it fits in 64 bits. -/
def plus (a b : Nat) : Except ParseError Nat :=
  if a + b < numberLimit then .ok (a + b) else .error .numberOverflow

/-- The exact quotient of two numbers; a remainder means a part finer than the count can hold. -/
def exactly (a b : Nat) : Except ParseError Nat :=
  if b ≠ 0 ∧ a % b = 0 then .ok (a / b) else .error .numberOverflow

/-- How one of a unit is counted: a number of nanoseconds or a number of whole seconds. -/
inductive Scale where
  | nanos (factor : Nat)
  | seconds (factor : Nat)
  deriving DecidableEq, Repr

/-- A unit: how a whole number of it is counted, and how a fraction of it is, when it may have
one. A fraction of a minute or less is counted in nanoseconds; a fraction of an hour or more
must come to whole seconds; a nanosecond takes no fraction. -/
structure TimeUnit where
  whole : Scale
  part : Option Scale
  deriving DecidableEq, Repr

/-- The unit of a spelling. -/
def unitOf? (spelling : String) : Option TimeUnit :=
  let timed (seconds : Nat) : TimeUnit := ⟨.seconds seconds, some (.seconds seconds)⟩
  if ["nanos", "nsec", "ns"].contains spelling then some ⟨.nanos 1, none⟩
  else if ["usec", "us", "µs"].contains spelling then some ⟨.nanos 1000, some (.nanos 1000)⟩
  else if ["millis", "msec", "ms"].contains spelling then
    some ⟨.nanos 1000000, some (.nanos 1000000)⟩
  else if ["seconds", "second", "secs", "sec", "s"].contains spelling then
    some ⟨.seconds 1, some (.nanos Duration.perSecond)⟩
  else if ["minutes", "minute", "min", "mins", "m"].contains spelling then
    some ⟨.seconds 60, some (.nanos (60 * Duration.perSecond))⟩
  else if ["hours", "hour", "hr", "hrs", "h"].contains spelling then some (timed 3600)
  else if ["days", "day", "d"].contains spelling then some (timed 86400)
  else if ["weeks", "week", "wk", "wks", "w"].contains spelling then some (timed 604800)
  else if ["months", "month", "M"].contains spelling then some (timed 2630016)
  else if ["years", "year", "yr", "yrs", "y"].contains spelling then some (timed 31557600)
  else none

/-- Whether a character can be part of a unit. -/
def isUnitChar (c : Char) : Bool :=
  ('a' ≤ c && c ≤ 'z') || ('A' ≤ c && c ≤ 'Z') || c == 'µ'

/-- A decimal fraction: its digits as a numerator over ten to the number of digits. -/
structure Fraction where
  numerator : Nat := 0
  denominator : Nat := 1
  deriving DecidableEq, Repr

/-- Whether a fraction has any digits. -/
def Fraction.hasDigits (f : Fraction) : Bool := f.denominator != 1

/-- A total being read, in whole seconds and nanoseconds. -/
structure Total where
  seconds : Nat := 0
  nanos : Nat := 0
  deriving DecidableEq, Repr

/-- The seconds and nanoseconds of `count` of a scale. -/
def Scale.count (scale : Scale) (count : Nat) : Except ParseError Total :=
  match scale with
  | .nanos factor => do pure { nanos := ← times count factor }
  | .seconds factor => do pure { seconds := ← times count factor }

/-- The seconds and nanoseconds of a fraction of a scale, which must come out whole. -/
def Scale.share (scale : Scale) (f : Fraction) : Except ParseError Total :=
  match scale with
  | .nanos factor => do pure { nanos := ← exactly (← times f.numerator factor) f.denominator }
  | .seconds factor => do pure { seconds := ← exactly (← times f.numerator factor) f.denominator }

/-- Adds an item's seconds and nanoseconds to a total; nanoseconds past a second carry. -/
def Total.add (total item : Total) : Except ParseError Total := do
  let nanos ← plus total.nanos item.nanos
  let (carried, nanos) :=
    if nanos > Duration.perSecond then (nanos / Duration.perSecond, nanos % Duration.perSecond)
    else (0, nanos)
  let seconds ← plus item.seconds carried
  pure { seconds := ← plus total.seconds seconds, nanos }

/-- Adds the item `value.fraction unit` to `total`. A fraction without digits is refused at
`start`, where its unit begins. -/
def addItem (total : Total) (value : Nat) (fraction : Option Fraction) (start : Nat)
    (spelling : List Char) : Except ParseError Total := do
  if fraction.any (!·.hasDigits) then throw (.invalidCharacter start)
  let name := String.ofList spelling
  let some unit := unitOf? name | throw (.unknownUnit name value)
  let whole ← unit.whole.count value
  let item ← match fraction, unit.part with
    | none, _ => pure whole
    | some _, none => throw .numberOverflow
    | some f, some scale => do whole.add (← scale.share f)
  total.add item

/-- Appends a digit to a 64-bit number. -/
def pushDigit (value digit : Nat) : Except ParseError Nat := do
  plus (← times value 10) digit

/-- Where the reader stands. -/
inductive Phase where
  /-- Looking for the first digit of an item; `start` is where the search began. -/
  | first (start : Nat) (initial : Bool)
  /-- Reading an item's number; `mark` is the offset after the last character read, a decimal
  point apart. -/
  | number (value : Nat) (fraction : Option Fraction) (mark : Nat)
  /-- Reading an item's unit, which began at `start`. -/
  | unit (value : Nat) (fraction : Option Fraction) (start : Nat) (spelling : List Char)

/-- Reads one character at byte `offset`. -/
def step (phase : Phase) (total : Total) (offset : Nat) (c : Char) :
    Except ParseError (Phase × Total) :=
  let next := offset + c.utf8Size
  match phase with
  | .first start initial =>
      if c.isDigit then .ok (.number (c.toNat - 48) none next, total)
      else if Text.isBlank c then .ok (.first start initial, total)
      else .error (.numberExpected start)
  | .number value fraction mark =>
      if c.isDigit then
        match fraction with
        | none => do .ok (.number (← pushDigit value (c.toNat - 48)) none next, total)
        | some f => do
            let numerator ← pushDigit f.numerator (c.toNat - 48)
            let denominator ← times f.denominator 10
            .ok (.number value (some { numerator, denominator }) next, total)
      else if Text.isBlank c then .ok (.number value fraction next, total)
      else if isUnitChar c then .ok (.unit value fraction mark [c], total)
      else if c == '.' ∧ fraction.isNone then .ok (.number value (some {}) mark, total)
      else .error (.invalidCharacter mark)
  | .unit value fraction start spelling =>
      if c.isDigit then do
        let total ← addItem total value fraction start spelling
        .ok (.number (c.toNat - 48) none next, total)
      else if Text.isBlank c then do
        let total ← addItem total value fraction start spelling
        .ok (.first next false, total)
      else if isUnitChar c then .ok (.unit value fraction start (spelling ++ [c]), total)
      else .error (.invalidCharacter offset)

/-- Reads the characters from byte `offset` on. -/
def run (phase : Phase) (total : Total) (offset : Nat) : List Char → Except ParseError Total
  | [] =>
      match phase with
      | .first _ initial => if initial then .error .empty else .ok total
      | .number value fraction mark => addItem total value fraction mark []
      | .unit value fraction start spelling => addItem total value fraction start spelling
  | c :: rest => do
      let (phase, total) ← step phase total offset c
      run phase total (offset + c.utf8Size) rest

/-- The duration of a total, when its seconds still fit once the nanoseconds are carried. -/
def Total.toDuration (total : Total) : Except ParseError Duration := do
  let _ ← plus total.seconds (total.nanos / Duration.perSecond)
  pure ⟨total.seconds * Duration.perSecond + total.nanos⟩

/-- Reads a duration in human form; a lone `0` needs no unit. -/
def parse (text : String) : Except ParseError Duration :=
  if text = "0" then .ok Duration.zero
  else do (← run (.first 0 true) {} 0 text.toList).toDuration

/-- One item of the written form: the count and unit, or nothing when the count is zero. -/
def item (count : Nat) (unit : String) (plural : Bool) : List String :=
  if count = 0 then []
  else [toString count ++ unit ++ (if plural ∧ count > 1 then "s" else "")]

/-- The human form of a duration. -/
def format (d : Duration) : String :=
  if d.nanos = 0 then "0s"
  else
    let secs := d.seconds
    let nanos := d.subsecNanos
    let years := secs / 31557600
    let yearRest := secs % 31557600
    let months := yearRest / 2630016
    let monthRest := yearRest % 2630016
    let days := monthRest / 86400
    let daySecs := monthRest % 86400
    let items :=
      item years "year" true ++ item months "month" true ++ item days "day" true ++
      item (daySecs / 3600) "h" false ++ item (daySecs % 3600 / 60) "m" false ++
      item (daySecs % 60) "s" false ++ item (nanos / 1000000) "ms" false ++
      item (nanos / 1000 % 1000) "us" false ++ item (nanos % 1000) "ns" false
    " ".intercalate items

end Human
end Switchboard
