import Switchboard.Time.Human
import Switchboard.Json.Source

/-!
# Overflow policies

What a broadcast does when a listener's queue is full: wait until there is room (`block`), wait
up to a bound and then disconnect the listener (`block_for:<duration>`), evict the oldest queued
event (`drop_oldest`), or disconnect at once (`disconnect`).

The text form is read after trimming white space. The bound after `block_for:` is trimmed again
and read in human form; the other three names are matched without regard to ASCII case. The text
form is also the form a policy takes inside JSON.
-/

namespace Switchboard

/-- Backpressure behaviour for a full listener queue. -/
inductive OverflowPolicy where
  | block
  | blockFor (bound : Duration)
  | dropOldest
  | disconnect
  deriving DecidableEq, Repr, Inhabited

/-- Why a text is not a policy. -/
inductive PolicyError where
  /-- Not one of the policy names. -/
  | unknown (text : String)
  /-- The bound of `block_for:` is not a duration. -/
  | duration (value reason : String)
  deriving DecidableEq, Repr

/-- The text of a policy error. -/
def PolicyError.message : PolicyError → String
  | .unknown text => "unknown overflow policy: " ++ text
  | .duration value reason => "invalid block_for duration " ++ value ++ ": " ++ reason

namespace OverflowPolicy

/-- The prefix of a bounded wait. -/
def boundPrefix : String := "block_for:"

/-- Reads a policy from its text form. -/
def parse (text : String) : Except PolicyError OverflowPolicy :=
  let trimmed := Text.trim text
  if trimmed.startsWith boundPrefix then
    let bound := String.ofList (trimmed.toList.drop boundPrefix.length)
    match Human.parse (Text.trim bound) with
    | .ok d => .ok (blockFor d)
    | .error e => .error (.duration bound e.message)
  else
    let lower := String.ofList (trimmed.toList.map Char.toLower)
    if lower = "block" then .ok block
    else if lower = "drop_oldest" then .ok dropOldest
    else if lower = "disconnect" then .ok disconnect
    else .error (.unknown trimmed)

/-- The text form of a policy. -/
def text : OverflowPolicy → String
  | block => "block"
  | blockFor bound => boundPrefix ++ Human.format bound
  | dropOldest => "drop_oldest"
  | disconnect => "disconnect"

/-- The debugging text of a policy. -/
def debug : OverflowPolicy → String
  | block => "Block"
  | blockFor bound => "BlockFor(" ++ bound.debug ++ ")"
  | dropOldest => "DropOldest"
  | disconnect => "Disconnect"

/-- Reads a policy from its text form inside JSON; a text that is no policy is a data error. -/
def read {m : Type → Type} [Monad m] [MonadExceptOf DecodeError m] [JsonSource m] :
    m OverflowPolicy := do
  match parse (← JsonSource.string) with
  | .ok policy => pure policy
  | .error e => throw (DecodeError.data e.message)

end OverflowPolicy

end Switchboard
