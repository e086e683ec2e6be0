import Switchboard.Bus.Policy
import Switchboard.Json.Record

/-!
# Client settings

The client's settings are four durations (how long one receive call waits, how long a request
waits for its reply, the pause after sign-in completes, and the pause before asking again for a
sign-in state that did not change), two counts (events queued per listener, replies queued for
correlation) and the overflow policy of listeners.

Settings come from named variables or from JSON. A variable that is set must read: durations in
human form, counts as unsigned decimal integers, both after trimming white space, the policy in
its text form. In JSON every field may be missing and takes its default. Valid settings have
nonzero timeouts, nonzero counts and, for a bounded wait, a nonzero bound; the checks run in
that order and the first failure is reported.
-/

namespace Switchboard

/-- The settings of a client. -/
structure Settings where
  receiveTimeout : Duration := Duration.ofSeconds 60
  sendTimeout : Duration := Duration.ofSeconds 60
  settleDelay : Duration := Duration.ofSeconds 1
  authRetryDelay : Duration := Duration.ofMillis 100
  listenerCapacity : Nat := 1024
  deliveryBuffer : Nat := 1024
  overflowPolicy : OverflowPolicy := .block
  deriving DecidableEq, Repr

/-- Why settings were refused. -/
inductive SettingsError where
  | invalidTimeout (reason : String)
  | invalidLimit (reason : String)
  | invalidValue (key reason : String)
  deriving DecidableEq, Repr

/-- The text of a settings error. -/
def SettingsError.message : SettingsError → String
  | .invalidTimeout reason => "invalid timeout: " ++ reason
  | .invalidLimit reason => "invalid limit: " ++ reason
  | .invalidValue key reason => "invalid value for " ++ key ++ ": " ++ reason

/-- Why a text is not an unsigned 64-bit count. -/
inductive CountError where
  | empty
  | invalidDigit
  | overflow
  deriving DecidableEq, Repr

/-- The text of a count error. -/
def CountError.message : CountError → String
  | .empty => "cannot parse integer from empty string"
  | .invalidDigit => "invalid digit found in string"
  | .overflow => "number too large to fit in target type"

/-- Reads digits left to right; the first bad digit or the first overflow is the error. -/
def CountError.digits (acc : Nat) : List Char → Except CountError Nat
  | [] => .ok acc
  | c :: rest =>
      if !c.isDigit then .error .invalidDigit
      else
        let next := acc * 10 + (c.toNat - 48)
        if next ≥ 2 ^ 64 then .error .overflow else CountError.digits next rest

/-- Reads an unsigned 64-bit count: an optional `+`, then decimal digits. -/
def parseCount (text : String) : Except CountError Nat :=
  match text.toList with
  | [] => .error .empty
  | ['+'] | ['-'] => .error .invalidDigit
  | '+' :: rest => CountError.digits 0 rest
  | chars => CountError.digits 0 chars

namespace Settings

/-- The default settings. -/
def default : Settings := {}

/-- Checks the settings; the first failing check is reported. -/
def validate (s : Settings) : Except SettingsError Unit :=
  if s.receiveTimeout.isZero then .error (.invalidTimeout "receive_timeout cannot be 0")
  else if s.sendTimeout.isZero then .error (.invalidTimeout "send_timeout cannot be 0")
  else if s.listenerCapacity = 0 then .error (.invalidLimit "listener_capacity cannot be 0")
  else if s.deliveryBuffer = 0 then .error (.invalidLimit "delivery_buffer cannot be 0")
  else match s.overflowPolicy with
    | .blockFor bound =>
        if bound.isZero then .error (.invalidTimeout "block_for bound cannot be 0; use disconnect")
        else .ok ()
    | _ => .ok ()

/-- Reads a duration variable. -/
def durationVar (key value : String) : Except SettingsError Duration :=
  match Human.parse (Text.trim value) with
  | .ok d => .ok d
  | .error e => .error (.invalidValue key e.message)

/-- Reads a count variable. -/
def countVar (key value : String) : Except SettingsError Nat :=
  match parseCount (Text.trim value) with
  | .ok n => .ok n
  | .error e => .error (.invalidValue key e.message)

/-- Reads the policy variable. -/
def policyVar (value : String) : Except SettingsError OverflowPolicy :=
  match OverflowPolicy.parse value with
  | .ok policy => .ok policy
  | .error e => .error (.invalidValue "TD_OVERFLOW_POLICY" e.message)

/-- Reads the variable `key` into one field of `s`: when it is set, its value read by `read`
replaces the field; when it is not, `s` stays as it is. -/
def readInto {α : Type} (lookup : String → Option String) (key : String)
    (read : String → Except SettingsError α) (set : Settings → α → Settings) (s : Settings) :
    Except SettingsError Settings :=
  match lookup key with
  | some value => do pure (set s (← read value))
  | none => pure s

/-- Settings from named variables: each one set replaces its default, then all are checked. -/
def fromLookup (lookup : String → Option String) : Except SettingsError Settings := do
  let s ← readInto lookup "TD_RECEIVE_TIMEOUT" (durationVar "TD_RECEIVE_TIMEOUT")
    (fun s d => { s with receiveTimeout := d }) default
  let s ← readInto lookup "TD_SEND_TIMEOUT" (durationVar "TD_SEND_TIMEOUT")
    (fun s d => { s with sendTimeout := d }) s
  let s ← readInto lookup "TD_SETTLE_DELAY" (durationVar "TD_SETTLE_DELAY")
    (fun s d => { s with settleDelay := d }) s
  let s ← readInto lookup "TD_AUTH_RETRY_DELAY" (durationVar "TD_AUTH_RETRY_DELAY")
    (fun s d => { s with authRetryDelay := d }) s
  let s ← readInto lookup "TD_LISTENER_CAPACITY" (countVar "TD_LISTENER_CAPACITY")
    (fun s n => { s with listenerCapacity := n }) s
  let s ← readInto lookup "TD_DELIVERY_BUFFER" (countVar "TD_DELIVERY_BUFFER")
    (fun s n => { s with deliveryBuffer := n }) s
  let s ← readInto lookup "TD_OVERFLOW_POLICY" policyVar
    (fun s policy => { s with overflowPolicy := policy }) s
  s.validate
  pure s

/-- The JSON form of settings: durations in human form, the policy in text form. -/
def toJson (s : Settings) : Json :=
  .object [
    ("receive_timeout", .string (Human.format s.receiveTimeout)),
    ("send_timeout", .string (Human.format s.sendTimeout)),
    ("settle_delay", .string (Human.format s.settleDelay)),
    ("auth_retry_delay", .string (Human.format s.authRetryDelay)),
    ("listener_capacity", .number (.natural (UInt64.ofNat s.listenerCapacity))),
    ("delivery_buffer", .number (.natural (UInt64.ofNat s.deliveryBuffer))),
    ("overflow_policy", .string s.overflowPolicy.text)]

section Reading

variable {m : Type → Type} [Monad m] [MonadExceptOf DecodeError m] [JsonSource m]

/-- Reads a duration in human form from a JSON string. -/
def readDuration : m Duration :=
  JsonSource.scalar "a duration" fun
    | .string text =>
        match Human.parse text with
        | .ok d => .ok d
        | .error _ => .error (DecodeError.invalidValue (.string text) "a duration")
    | other => .error (DecodeError.invalidType other.unexpected "a duration")

/-- Reads a count. -/
def readCount : m Nat := do
  pure (← JsonSource.count64).toNat

/-- The record's name in error messages. -/
def recordName : String := "struct ClientConfig"

/-- The field names, in declaration order. -/
def fieldNames : List String :=
  ["receive_timeout", "send_timeout", "settle_delay", "auth_retry_delay", "listener_capacity",
    "delivery_buffer", "overflow_policy"]

/-- Reads one entry of a settings map into `s`; `seen` lists the fields read so far. -/
def readEntry (acc : Settings × List String) (key : String) : m (Settings × List String) := do
  let (s, seen) := acc
  if fieldNames.contains key then
    if seen.contains key then throw (DecodeError.duplicateField key)
    let s ← JsonSource.entry do
      if key = "receive_timeout" then pure { s with receiveTimeout := ← readDuration }
      else if key = "send_timeout" then pure { s with sendTimeout := ← readDuration }
      else if key = "settle_delay" then pure { s with settleDelay := ← readDuration }
      else if key = "auth_retry_delay" then pure { s with authRetryDelay := ← readDuration }
      else if key = "listener_capacity" then pure { s with listenerCapacity := ← readCount }
      else if key = "delivery_buffer" then pure { s with deliveryBuffer := ← readCount }
      else pure { s with overflowPolicy := ← OverflowPolicy.read }
    pure (s, key :: seen)
  else do
    JsonSource.entry JsonSource.skip
    pure (s, seen)

/-- Reads settings given as a sequence; missing trailing fields keep their defaults. -/
def readSequence : m Settings := do
  let d := default
  let field {α : Type} (index : Nat) (read : m α) (fallback : α) : m α :=
    JsonSource.positional recordName 7 index read (some fallback)
  let receiveTimeout ← field 0 readDuration d.receiveTimeout
  let sendTimeout ← field 1 readDuration d.sendTimeout
  let settleDelay ← field 2 readDuration d.settleDelay
  let authRetryDelay ← field 3 readDuration d.authRetryDelay
  let listenerCapacity ← field 4 readCount d.listenerCapacity
  let deliveryBuffer ← field 5 readCount d.deliveryBuffer
  let overflowPolicy ← field 6 OverflowPolicy.read d.overflowPolicy
  pure ⟨receiveTimeout, sendTimeout, settleDelay, authRetryDelay, listenerCapacity,
    deliveryBuffer, overflowPolicy⟩

/-- Reads settings from JSON; every field is optional. -/
def read : m Settings :=
  JsonSource.record recordName
    (do pure (← JsonSource.foldEntries (default, []) readEntry).1)
    readSequence

end Reading

end Settings

end Switchboard
