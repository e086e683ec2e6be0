import Switchboard.Json.Record

/-!
# 64-bit integers on the wire

The engine writes 64-bit integers as decimal strings, so that readers with only double precision
keep every digit. A reader accepts both forms: an integer number within the signed 64-bit range,
or a string of an optional sign and at least one decimal digit whose value is in that range. A
writer always writes the string.
-/

namespace Switchboard
namespace Wide

/-- The least signed 64-bit value. -/
def least : Int := -9223372036854775808

/-- The greatest signed 64-bit value. -/
def greatest : Int := 9223372036854775807

/-- Reads a decimal integer: an optional `+` or `-`, then one or more digits, within 64 bits. -/
def parse? (text : String) : Option Int64 :=
  let (negative, digits) :=
    match text.toList with
    | '+' :: rest => (false, rest)
    | '-' :: rest => (true, rest)
    | chars => (false, chars)
  if digits.isEmpty || !digits.all Char.isDigit then none
  else
    let magnitude : Nat := digits.foldl (fun acc c => acc * 10 + (c.toNat - 48)) 0
    let value : Int := if negative then -(magnitude : Int) else magnitude
    if least ≤ value ∧ value ≤ greatest then some (Int64.ofInt value) else none

/-- What a reader wants where a 64-bit integer stands. -/
def expected : String := "a 64-bit integer as a string or number"

/-- Accepts a 64-bit integer given as a number or a string. -/
def accept : Scalar → Except DecodeError Int64
  | .number (.natural value) =>
      if (value.toNat : Int) ≤ greatest then .ok (Int64.ofInt value.toNat)
      else .error (DecodeError.data (toString value.toNat ++ " overflows i64"))
  | .number (.negative value) => .ok value
  | .string text =>
      match parse? text with
      | some value => .ok value
      | none => .error (DecodeError.data ("invalid int64 string: " ++ Text.quote text))
  | other => .error (DecodeError.invalidType other.unexpected expected)

/-- Reads a 64-bit integer; a container is entered before it is refused. -/
def read {m : Type → Type} [Monad m] [MonadExceptOf DecodeError m] [JsonSource m] : m Int64 :=
  JsonSource.value expected accept none none

/-- The wire form of a 64-bit integer. -/
def toJson (value : Int64) : Json :=
  .string (toString value.toInt)

/-- Reads a record whose one field `value` is a 64-bit integer. -/
def valueRecord {m : Type → Type} [Monad m] [MonadExceptOf DecodeError m] [JsonSource m]
    (record : String) : m Int64 :=
  JsonSource.single record "value" read none

/-- The record `{"value": "<digits>"}`. -/
def valueRecordJson (value : Int64) : Json :=
  .object [("value", toJson value)]

end Wide
end Switchboard
