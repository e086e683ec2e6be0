import Switchboard.Client.Error

/-!
# Matching replies to requests

Every request a client sends carries a correlation token, and the engine copies the token into
its reply. The correlation table keeps the calls that still wait for a reply, by token, and hands
each reply to the caller that registered its token. A token can be pending for one call at a
time; registering it again while it is pending is refused, though the refusal still uses up a
registration number. Registration numbers tell apart two calls that used the same token at
different times, so that a caller who gives up only withdraws its own call.

A caller waits on the call it registered. A reply that has arrived is taken even when the wait
allows no time at all. Otherwise the wait runs out while the call is still pending, which withdraws
it and counts a timeout, or the call was cleared, which means the client stopped. A caller who
stops waiting before a reply came withdraws the call and counts a cancellation. A reply without a
token is not a reply; one whose token is not pending is counted as an orphan.
-/

namespace Switchboard

/-- The running counts of a correlation table. -/
structure CorrelationStats where
  registered : Nat := 0
  completed : Nat := 0
  timeouts : Nat := 0
  cancelled : Nat := 0
  orphaned : Nat := 0
  deriving DecidableEq, Repr

/-- The debugging text of the counts. -/
def CorrelationStats.debug (s : CorrelationStats) : String :=
  "CorrelationStats \x7b total_registered: " ++ toString s.registered ++
    ", total_completed: " ++ toString s.completed ++ ", total_timeouts: " ++ toString s.timeouts ++
    ", total_cancelled: " ++ toString s.cancelled ++ ", total_orphaned: " ++ toString s.orphaned ++
    " \x7d"

/-- A registered call: its token, the type of its request and its registration number. -/
structure Call where
  token : String
  typeName : String
  registration : Nat
  deriving DecidableEq, Repr

/-- The debugging text of a caller's hold on a call. -/
def Call.debug (call : Call) : String :=
  "PendingSlot \x7b token: " ++ Text.quote call.token ++ ", type_name: " ++
    Text.quote call.typeName ++ " \x7d"

/-- The calls waiting for replies, the replies handed over and not yet taken, and the counts. -/
structure CorrelationTable where
  pending : List Call := []
  nextRegistration : Nat := 0
  /-- Replies handed to their callers, by registration number. -/
  delivered : List (Nat × Envelope) := []
  stats : CorrelationStats := {}

namespace CorrelationTable

/-- Whether a call with this token waits for its reply. -/
def isPending (t : CorrelationTable) (token : String) : Bool :=
  t.pending.any (·.token == token)

/-- The number of calls waiting for replies. -/
def pendingCount (t : CorrelationTable) : Nat := t.pending.length

/-- Registers a call under `token`; a token already pending is refused. Either way a registration
number is used up. -/
def register (t : CorrelationTable) (token typeName : String) :
    CorrelationTable × Except ClientError Call :=
  let registration := t.nextRegistration
  let t := { t with nextRegistration := registration + 1 }
  if t.isPending token then (t, .error (.duplicateToken token))
  else
    let call : Call := { token, typeName, registration }
    ({ t with pending := t.pending ++ [call],
              stats := { t.stats with registered := t.stats.registered + 1 } }, .ok call)

/-- Hands a reply to the call pending under its token; says whether there was one. -/
def complete (t : CorrelationTable) (reply : Envelope) : CorrelationTable × Bool :=
  if reply.extra.isEmpty then (t, false)
  else
    match t.pending.find? (·.token == reply.extra) with
    | none => ({ t with stats := { t.stats with orphaned := t.stats.orphaned + 1 } }, false)
    | some call =>
        ({ t with pending := t.pending.filter (·.token != reply.extra),
                  delivered := t.delivered ++ [(call.registration, reply)],
                  stats := { t.stats with completed := t.stats.completed + 1 } }, true)

/-- Forgets every pending call; their callers learn that the client stopped. -/
def clear (t : CorrelationTable) : CorrelationTable := { t with pending := [] }

/-- Withdraws `call` if it is still pending; says whether it was. -/
def withdraw (t : CorrelationTable) (call : Call) : CorrelationTable × Bool :=
  if t.pending.contains call then ({ t with pending := t.pending.erase call }, true)
  else (t, false)

/-- Takes the reply handed to `call`, if one came. -/
def takeReply (t : CorrelationTable) (call : Call) : CorrelationTable × Option Envelope :=
  match t.delivered.find? (·.1 == call.registration) with
  | some (_, reply) =>
      ({ t with delivered := t.delivered.filter (·.1 != call.registration) }, some reply)
  | none => (t, none)

/-- Gives up waiting for `call` because its time ran out; a call still pending is withdrawn and
counts as a timeout. Says whether it was pending. -/
def expire (t : CorrelationTable) (call : Call) : CorrelationTable × Bool :=
  match t.withdraw call with
  | (t, true) => ({ t with stats := { t.stats with timeouts := t.stats.timeouts + 1 } }, true)
  | (t, false) => (t, false)

/-- Waits up to `after` for the reply to `call`, which the caller gives up. -/
def wait (t : CorrelationTable) (call : Call) (after : Duration) :
    CorrelationTable × Except ClientError Envelope :=
  match t.takeReply call with
  | (t, some reply) => (t, .ok reply)
  | (t, none) =>
      match t.expire call with
      | (t, true) => (t, .error (.timeout call.typeName after))
      | (t, false) => (t, .error .stopped)

/-- Gives up `call` without waiting; a call still pending counts as cancelled. -/
def cancel (t : CorrelationTable) (call : Call) : CorrelationTable :=
  let t := { t with delivered := t.delivered.filter (·.1 != call.registration) }
  match t.withdraw call with
  | (t, true) => { t with stats := { t.stats with cancelled := t.stats.cancelled + 1 } }
  | (t, false) => t

/-- The debugging text of a table. -/
def debug (t : CorrelationTable) : String :=
  "CorrelationTable \x7b pending: " ++ toString t.pendingCount ++ ", stats: " ++ t.stats.debug ++
    " \x7d"

end CorrelationTable

namespace Correlation

/-- One step of a script run against a correlation table; calls are named by the number of the
registration that made them, counting successful ones from zero. -/
inductive Op where
  | register (token typeName : String)
  | complete (raw : ByteArray)
  | wait (slot : Nat) (after : Duration)
  | cancel (slot : Nat)
  | token (slot : Nat)
  | debugSlot (slot : Nat)
  | clear
  | pendingCount
  | isPending (token : String)
  | stats
  | debug

/-- The answer to one step. -/
inductive Outcome where
  | registered (slot : Nat)
  | refused (error : ClientError)
  | unreadable (error : WireError)
  | flag (b : Bool)
  | reply (reply : Envelope)
  | done
  | count (n : Nat)
  | text (s : String)
  | stats (s : CorrelationStats)
  /-- No call held under this number: never made, or already waited on or given up. -/
  | noSlot (slot : Nat)

/-- A table and the calls held, by number; a call waited on or given up is gone. -/
structure Session where
  table : CorrelationTable := {}
  slots : List (Option Call) := []

namespace Session

/-- The call held under `slot`. -/
def held (s : Session) (slot : Nat) : Option Call :=
  (s.slots[slot]?).getD none

/-- Runs a step on the call held under `slot`, which it may give up. -/
def withSlot (s : Session) (slot : Nat) (f : Call → Session × Outcome) : Session × Outcome :=
  match s.held slot with
  | some call => f call
  | none => (s, .noSlot slot)

/-- Lets go of the call held under `slot`. -/
def release (s : Session) (slot : Nat) : Session :=
  { s with slots := s.slots.set slot none }

/-- Runs one step. -/
def step (s : Session) : Op → Session × Outcome
  | .register token typeName =>
      match s.table.register token typeName with
      | (table, .ok call) => ({ table, slots := s.slots ++ [some call] }, .registered s.slots.length)
      | (table, .error e) => ({ s with table }, .refused e)
  | .complete raw =>
      match Envelope.ofBytes raw with
      | .ok reply =>
          let (table, taken) := s.table.complete reply
          ({ s with table }, .flag taken)
      | .error e => (s, .unreadable e)
  | .wait slot after =>
      s.withSlot slot fun call =>
        match s.table.wait call after with
        | (table, .ok reply) => ({ s with table }.release slot, .reply reply)
        | (table, .error e) => ({ s with table }.release slot, .refused e)
  | .cancel slot =>
      s.withSlot slot fun call => ({ s with table := s.table.cancel call }.release slot, .done)
  | .token slot => s.withSlot slot fun call => (s, .text call.token)
  | .debugSlot slot => s.withSlot slot fun call => (s, .text call.debug)
  | .clear => ({ s with table := s.table.clear }, .done)
  | .pendingCount => (s, .count s.table.pendingCount)
  | .isPending token => (s, .flag (s.table.isPending token))
  | .stats => (s, .stats s.table.stats)
  | .debug => (s, .text s.table.debug)

/-- Runs the steps in order and collects their outcomes. -/
def run (s : Session) : List Op → List Outcome
  | [] => []
  | op :: rest =>
      let (s', outcome) := s.step op
      outcome :: run s' rest

end Session

end Correlation

end Switchboard
