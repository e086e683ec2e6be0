import Switchboard.Bus.Log

/-!
# A listener shared between threads

One listener is used at once by the thread that broadcasts (the pusher), the thread that holds it
and reads (the reader), and any thread that closes it. Their steps on the queue take the
listener's lock and are atomic; the wake-ups they send each other are steps of their own, sent
after the lock is let go (a push, a take) or while it is still held (a close).

The reader waits for an event on a notifier. A wait first makes a ticket, then registers it, then
looks at the queue: it takes an event, reports the end of the events, or parks on the ticket until
it is woken and starts over. The notifier either wakes the one registered ticket or, when none
waits, stores a single wake-up that the next registration takes; it can also wake every
registered ticket at once, storing nothing, and a ticket made before such a wake-up but
registered after it counts as woken. A ticket given up after a single wake-up passes it on.

A push to a full listener under `block` or `block_for` parks on a condition until a take or a
close wakes it; then it looks again under the lock. A `block_for` push whose time runs out before
anyone woke it closes the listener. Closing marks the queue closed and drops the flag that
`is_active` reads, both under the lock; the closing thread then owes three wake-ups: every pusher
waiting for room, every registered ticket, and one more single wake-up for a reader between its
registration and its look.

Only the wake-ups the code sends are modelled; which of the enabled steps happens next is left
open, so a run is any sequence of moves. A move that its thread cannot make now changes nothing.
-/

namespace Switchboard

namespace Listener

/-- How the reader's ticket on the notifier stands. -/
inductive Ticket where
  /-- Made when the notifier had woken every ticket `round` times; not registered yet. -/
  | fresh (round : Nat)
  /-- Registered, not woken yet. -/
  | waiting
  /-- Woken by a single wake-up, which it passes on if it is given up unused. -/
  | wokenOne
  /-- Woken by a wake-up of every ticket. -/
  | wokenAll
  /-- Ready without waiting: it took the stored wake-up, or every ticket was woken after it was
  made. -/
  | ready
  deriving DecidableEq, Repr

namespace Ticket

/-- Whether awaiting the ticket returns at once. -/
def isWoken : Ticket → Bool
  | .wokenOne | .wokenAll | .ready => true
  | .fresh _ | .waiting => false

end Ticket

/-- Where the reader is. -/
inductive Reader where
  /-- Not reading. -/
  | idle
  /-- Waiting for an event: the ticket is made and about to be registered. -/
  | arming
  /-- Waiting for an event: about to look at the queue. -/
  | looking
  /-- Waiting for an event: found the queue empty and open, and parked on the ticket. -/
  | parked
  /-- Took an event; about to wake a pusher waiting for room, then return the event. -/
  | telling
  deriving DecidableEq, Repr

/-- Where the broadcaster's push to this listener is. -/
inductive Pusher (α : Type) where
  /-- Not pushing; `last` is what the last push returned. -/
  | idle (last : Option Delivery)
  /-- Parked on the condition for room with `item`; `woken` once a wake-up reached it. -/
  | waiting (item : α) (woken : Bool)
  /-- Queued its event; about to wake the reader, then return `result`. -/
  | notifying (result : Delivery)
  deriving DecidableEq, Repr

/-- A wake-up that the closing thread still owes. -/
inductive Owed where
  /-- Wake every pusher waiting for room. -/
  | pushers
  /-- Wake every registered ticket, storing nothing. -/
  | tickets
  /-- Wake the registered ticket, or store a single wake-up. -/
  | single
  deriving DecidableEq, Repr

/-- A listener and the threads that use it. -/
structure Shared (α : Type) where
  log : Log α
  /-- The flag `is_active` reads without the lock. -/
  active : Bool
  /-- The notifier holds a stored wake-up. -/
  permit : Bool
  /-- How often the notifier has woken every ticket. -/
  round : Nat
  reader : Reader
  /-- The reader's ticket, while it waits for an event. -/
  ticket : Option Ticket
  pusher : Pusher α
  /-- The wake-ups the closing thread still owes, in the order it sends them. -/
  closing : List Owed

/-- One move of one thread. -/
inductive Move (α : Type) where
  /-- The reader starts waiting for an event and makes a ticket. -/
  | recv
  /-- The reader registers its ticket. -/
  | enable
  /-- The reader looks at the queue under the lock. -/
  | look
  /-- The reader, parked, finds its ticket woken and starts over. -/
  | wake
  /-- The reader gives up its wait while parked. -/
  | abandon
  /-- The reader takes an event without waiting. -/
  | tryRecv
  /-- The reader, having taken an event, wakes a pusher waiting for room. -/
  | tell
  /-- The broadcaster pushes `item`. -/
  | push (item : α)
  /-- The pusher, woken, looks at the queue again under the lock. -/
  | retry
  /-- The pusher's time for room runs out. -/
  | expire
  /-- The pusher, having queued its event, wakes the reader. -/
  | notify
  /-- Some thread closes the listener. -/
  | close
  /-- The closing thread sends the next wake-up it owes. -/
  | owe

namespace Shared

variable {α : Type}

/-- A listener that no thread has touched yet. -/
def new (l : Listener α) : Shared α :=
  { log := .start l, active := true, permit := false, round := 0, reader := .idle, ticket := none,
    pusher := .idle none, closing := [] }

/-- Whether the reader's ticket is woken, so that awaiting it returns at once. -/
def woken (s : Shared α) : Bool := (s.ticket.map Ticket.isWoken).getD false

/-- Wakes the registered ticket, or stores a single wake-up. -/
def notifyOne (s : Shared α) : Shared α :=
  { s with ticket := if s.ticket = some .waiting then some .wokenOne else s.ticket,
           permit := s.permit || s.ticket != some .waiting }

/-- Wakes every registered ticket and counts the round; stores nothing. -/
def notifyAll (s : Shared α) : Shared α :=
  { s with round := s.round + 1,
           ticket := if s.ticket = some .waiting then some .wokenAll else s.ticket }

/-- The reader gives up its ticket; a single wake-up it got and did not use is passed on. -/
def dropTicket (s : Shared α) : Shared α :=
  { s with ticket := none, permit := s.permit || s.ticket == some .wokenOne }

/-- Wakes the pusher if it waits for room (there is one pusher, so waking one wakes all). -/
def wakePusher (s : Shared α) : Shared α :=
  { s with pusher := match s.pusher with
      | .waiting item _ => .waiting item true
      | pusher => pusher }

/-- Closes the queue under the lock; the closing thread then owes its wake-ups. Closing a closed
listener does nothing. -/
def shut (s : Shared α) : Shared α :=
  if s.log.listener.closed then s
  else
    { s with log := s.log.perform .close, active := false,
             closing := [.pushers, .tickets, .single] }

/-- The pusher, holding the lock with `item`, finds room or a closed queue: it queues the event
or gives up. -/
def deliver (s : Shared α) (item : α) : Shared α :=
  if s.log.listener.closed then { s with pusher := .idle (some .inactive) }
  else { s with log := s.log.perform (.push item), pusher := .notifying .delivered }

/-- Runs one move. -/
def step (s : Shared α) : Move α → Shared α
  | .recv => if s.reader = .idle then { s with reader := .arming, ticket := some (.fresh s.round) }
      else s
  | .enable =>
      match s.reader, s.ticket with
      | .arming, some (.fresh round) =>
          if s.permit then { s with reader := .looking, ticket := some .ready, permit := false }
          else if round ≠ s.round then { s with reader := .looking, ticket := some .ready }
          else { s with reader := .looking, ticket := some .waiting }
      | _, _ => s
  | .look =>
      if s.reader = .looking then
        match s.log.listener.take.2 with
        | .item _ => { s with log := s.log.perform .take, reader := .telling }
        | .closed => { s.dropTicket with reader := .idle }
        | .empty => { s with reader := .parked }
      else s
  | .wake =>
      if s.reader = .parked ∧ s.woken then
        { s with reader := .arming, ticket := some (.fresh s.round) }
      else s
  | .abandon => if s.reader = .parked then { s.dropTicket with reader := .idle } else s
  | .tryRecv =>
      if s.reader = .idle then
        match s.log.listener.take.2 with
        | .item _ => { s with log := s.log.perform .take, reader := .telling }
        | .closed | .empty => s
      else s
  | .tell => if s.reader = .telling then { s.wakePusher.dropTicket with reader := .idle } else s
  | .push item =>
      match s.pusher with
      | .idle _ =>
          if s.log.listener.closed then { s with pusher := .idle (some .inactive) }
          else if s.log.listener.isFull then
            match s.log.listener.policy with
            | .block | .blockFor _ => { s with pusher := .waiting item false }
            | .dropOldest =>
                { s with log := s.log.perform (.push item), pusher := .notifying .droppedOldest }
            | .disconnect => { s.shut with pusher := .idle (some .disconnected) }
          else s.deliver item
      | _ => s
  | .retry =>
      match s.pusher with
      | .waiting item true =>
          if !s.log.listener.closed && s.log.listener.isFull then
            { s with pusher := .waiting item false }
          else s.deliver item
      | _ => s
  | .expire =>
      match s.pusher, s.log.listener.policy with
      | .waiting _ false, .blockFor _ =>
          if s.log.listener.closed then { s with pusher := .idle (some .inactive) }
          else { s.shut with pusher := .idle (some .disconnected) }
      | _, _ => s
  | .notify =>
      match s.pusher with
      | .notifying result => { s.notifyOne with pusher := .idle (some result) }
      | _ => s
  | .close => s.shut
  | .owe =>
      match s.closing with
      | .pushers :: rest => { s.wakePusher with closing := rest }
      | .tickets :: rest => { s.notifyAll with closing := rest }
      | .single :: rest => { s.notifyOne with closing := rest }
      | [] => s

/-- Runs moves in order. -/
def run (s : Shared α) (moves : List (Move α)) : Shared α := moves.foldl step s

/-- The wake-ups the other threads owe: the pusher's to the reader, the reader's to the pusher,
and the closing thread's. -/
def owed (s : Shared α) : List (Move α) :=
  (match s.pusher with
    | .notifying _ => [.notify]
    | _ => []) ++
  (if s.reader = .telling then [.tell] else []) ++
  s.closing.map fun _ => .owe

end Shared

end Listener

end Switchboard
