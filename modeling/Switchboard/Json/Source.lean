import Switchboard.Json.Error

/-!
# Sources of JSON values

Typed decoders are written once and read from any `JsonSource`: a text read byte by byte, whose
errors carry places, or a value already parsed, whose errors have none. A decoder asks for one
value at a time:

* `scalar` wants a scalar; a container there is refused at once, without reading it;
* `value` reads whatever comes, entering a container and handing it to the decoder's map or
  sequence handler (a missing handler refuses the container after entering it);
* inside a map, `nextKey` gives the next key and `entry` reads its value; inside a sequence,
  `nextElement` says whether an item follows; `skip` passes over a value unread.

The difference between refusing a container at once and refusing it after entering matters for
where an error is placed, and both occur. The generic decoders below (strings, booleans, bounded
integers, whole values, records) only use these requests, so they behave alike on every source.
-/

namespace Switchboard

/-- A JSON value that is not a container. -/
inductive Scalar where
  | null
  | bool (value : Bool)
  | number (value : Number)
  | string (value : String)

namespace Scalar

/-- How an error names a scalar. -/
def unexpected : Scalar → Unexpected
  | .null => .null
  | .bool value => .bool value
  | .number (.natural value) => .integer value.toNat
  | .number (.negative value) => .integer value.toInt
  | .number (.float value) => .float value
  | .string value => .string value

/-- The scalar as a value. -/
def toJson : Scalar → Json
  | .null => .null
  | .bool value => .bool value
  | .number value => .number value
  | .string value => .string value

end Scalar

/-- A place typed decoders read JSON values from, one request at a time. -/
class JsonSource (m : Type → Type) where
  /-- Reads a scalar and hands it to `accept`; a container is refused as not `expected`. -/
  scalar {α : Type} (expected : String) (accept : Scalar → Except DecodeError α) : m α
  /-- Reads any value: scalars go to `onScalar`, containers are entered and handed to the
  handler for their kind, or refused as not `expected` when there is none. -/
  value {α : Type} (expected : String) (onScalar : Scalar → Except DecodeError α)
    (onMap : Option (m α)) (onSeq : Option (m α)) : m α
  /-- Inside a map: the next key, or none at the end of the map. -/
  nextKey : m (Option String)
  /-- Inside a map, after a key: reads that key's value with `read`. -/
  entry {α : Type} (read : m α) : m α
  /-- Inside a sequence: whether another item follows. -/
  nextElement : m Bool
  /-- Passes over the next value without decoding it. -/
  skip : m Unit
  /-- An upper bound on how many more requests can succeed. -/
  budget : m Nat

namespace JsonSource

variable {m : Type → Type} [Monad m] [MonadExceptOf DecodeError m] [JsonSource m]

/-- The error a decoder raises when its fuel runs out, which a sufficient budget never allows. -/
def exhausted : DecodeError := DecodeError.data "decoder budget exhausted"

/-- Folds `step` over the remaining entries of the current map, in order. -/
def foldEntries {σ : Type} (init : σ) (step : σ → String → m σ) : m σ := do
  let fuel ← budget
  go fuel init
where
  /-- Reads entries while fuel lasts. -/
  go : Nat → σ → m σ
    | 0, _ => throw exhausted
    | fuel + 1, acc => do
        match ← nextKey with
        | none => pure acc
        | some key => go fuel (← step acc key)

/-- Reads every remaining item of the current sequence with `read`. -/
def collectElements {α : Type} (read : m α) : m (List α) := do
  let fuel ← budget
  go fuel []
where
  /-- Reads items while fuel lasts; `acc` holds them in reverse. -/
  go : Nat → List α → m (List α)
    | 0, _ => throw exhausted
    | fuel + 1, acc => do
        if ← nextElement then go fuel ((← read) :: acc) else pure acc.reverse

/-- Reads the next item of the current sequence, or none at its end. -/
def element? {α : Type} (read : m α) : m (Option α) := do
  if ← nextElement then some <$> read else pure none

/-- Reads a record: a map with `onMap`, a sequence with `onSeq`; a scalar is refused. -/
def record {α : Type} (expected : String) (onMap : m α) (onSeq : m α) : m α :=
  value expected (fun found => .error (DecodeError.invalidType found.unexpected expected))
    (some onMap) (some onSeq)

/-- Reads a field's value once: a second occurrence of `name` is a duplicate. -/
def fieldOnce {α : Type} (current : Option α) (name : String) (read : m α) : m (Option α) := do
  if current.isSome then throw (DecodeError.duplicateField name)
  some <$> entry read

/-- A required field's value, or the missing-field error. -/
def required {α : Type} (current : Option α) (name : String) : m α :=
  match current with
  | some value => pure value
  | none => throw (DecodeError.missingField name)

/-- Accepts a string scalar. -/
def acceptString (expected : String) : Scalar → Except DecodeError String
  | .string text => .ok text
  | other => .error (DecodeError.invalidType other.unexpected expected)

/-- Reads a string. -/
def string : m String :=
  scalar "a string" (acceptString "a string")

/-- Reads a boolean. -/
def bool : m Bool :=
  scalar "a boolean" fun
    | .bool value => .ok value
    | other => .error (DecodeError.invalidType other.unexpected "a boolean")

/-- Accepts an integer within `[low, high]`; others of the right kind are out of range. -/
def acceptInteger (expected : String) (low high : Int) : Scalar → Except DecodeError Int
  | .number (.natural value) =>
      if (value.toNat : Int) ≤ high then .ok value.toNat
      else .error (DecodeError.invalidValue (.integer value.toNat) expected)
  | .number (.negative value) =>
      if low ≤ value.toInt then .ok value.toInt
      else .error (DecodeError.invalidValue (.integer value.toInt) expected)
  | other => .error (DecodeError.invalidType other.unexpected expected)

/-- Reads a 32-bit signed integer. -/
def int32 : m Int32 := do
  let value ← scalar "i32" (acceptInteger "i32" (-2147483648) 2147483647)
  pure (Int32.ofInt value)

/-- Reads a 64-bit unsigned count. -/
def count64 : m UInt64 := do
  let value ← scalar "usize" (acceptInteger "usize" 0 18446744073709551615)
  pure (UInt64.ofNat value.toNat)

/-- Reads a value keeping every object's entries as written, duplicates included; `fuel`
bounds the nesting. -/
def rawJson : Nat → m Json
  | 0 => throw exhausted
  | fuel + 1 =>
      value "any valid JSON value" (fun found => .ok found.toJson)
        (some do
          let entries ← foldEntries [] fun acc key => do
            let item ← entry (rawJson fuel)
            pure ((key, item) :: acc)
          pure (.object entries.reverse))
        (some (.array <$> collectElements (rawJson fuel)))

/-- Reads a value in normalized form: the last entry of a key wins, keys sorted. -/
def json (fuel : Nat) : m Json :=
  Json.normalize <$> rawJson fuel

/-- Reads an optional value: null is none. -/
def optionalJson (fuel : Nat) : m (Option Json) := do
  match ← json fuel with
  | .null => pure none
  | other => pure (some other)

end JsonSource

end Switchboard
