/-!
# Durations

A duration is a whole number of nanoseconds. Its debugging text names it in the largest unit
that keeps a nonzero whole part, seconds, milliseconds, microseconds or nanoseconds, with the
smaller units as a decimal fraction that has no trailing zeros: `1.5s`, `250ms`, `1.001ms`,
`0ns`.
-/

namespace Switchboard

/-- A span of time in nanoseconds. -/
structure Duration where
  nanos : Nat
  deriving DecidableEq, Repr, Inhabited

namespace Duration

/-- Nanoseconds in a microsecond. -/
def perMicro : Nat := 1000

/-- Nanoseconds in a millisecond. -/
def perMilli : Nat := 1000000

/-- Nanoseconds in a second. -/
def perSecond : Nat := 1000000000

/-- The empty duration. -/
def zero : Duration := ⟨0⟩

/-- A duration of whole milliseconds. -/
def ofMillis (millis : Nat) : Duration := ⟨millis * perMilli⟩

/-- A duration of whole seconds. -/
def ofSeconds (seconds : Nat) : Duration := ⟨seconds * perSecond⟩

/-- Whether the duration is empty. -/
def isZero (d : Duration) : Bool := d.nanos == 0

/-- The whole seconds of a duration. -/
def seconds (d : Duration) : Nat := d.nanos / perSecond

/-- The nanoseconds past the whole seconds. -/
def subsecNanos (d : Duration) : Nat := d.nanos % perSecond

instance : LE Duration := ⟨fun a b => a.nanos ≤ b.nanos⟩

instance (a b : Duration) : Decidable (a ≤ b) := inferInstanceAs (Decidable (a.nanos ≤ b.nanos))

instance : Add Duration := ⟨fun a b => ⟨a.nanos + b.nanos⟩⟩

/-- The digits of `fraction` written to `width` places, without trailing zeros. -/
def fractionDigits (fraction width : Nat) : String :=
  let digits := (Nat.toDigits 10 fraction)
  let padded := List.replicate (width - digits.length) '0' ++ digits
  String.ofList (padded.reverse.dropWhile (· == '0')).reverse

/-- A whole part, a fraction of `width` places, and a unit. -/
def decimal (whole fraction width : Nat) (unit : String) : String :=
  let digits := fractionDigits fraction width
  toString whole ++ (if digits.isEmpty then "" else "." ++ digits) ++ unit

/-- The debugging text of a duration. -/
def debug (d : Duration) : String :=
  if d.seconds > 0 then decimal d.seconds d.subsecNanos 9 "s"
  else if d.nanos ≥ perMilli then decimal (d.nanos / perMilli) (d.nanos % perMilli) 6 "ms"
  else if d.nanos ≥ perMicro then decimal (d.nanos / perMicro) (d.nanos % perMicro) 3 "µs"
  else toString d.nanos ++ "ns"

end Duration

end Switchboard
