import Switchboard.Bus.Policy

/-!
# Listeners

A listener is a bounded queue of events with an overflow policy and an open or closed flag. Its
capacity is at least one. Pushing to a closed listener does nothing. Pushing to a full listener
follows the policy: the oldest event makes room (`drop_oldest`), the listener is closed
(`disconnect`, and `block_for` once its bound has passed with no room made), or the push waits
for room (`block`), which only a reader elsewhere can make and which this model reports as a
stall. A closed listener still yields what it queued before it closed; once that is drained it
reports that it is closed.
-/

namespace Switchboard

/-- What a push did. -/
inductive Delivery where
  | delivered
  | droppedOldest
  | disconnected
  | inactive
  deriving DecidableEq, Repr

/-- The state of one listener. -/
structure Listener (α : Type) where
  id : Nat
  /-- The most events queued at once; at least one. -/
  capacity : Nat
  policy : OverflowPolicy
  /-- The queued events, oldest first. -/
  items : List α
  closed : Bool

namespace Listener

variable {α : Type}

/-- A new, empty, open listener; a capacity of zero counts as one. -/
def new (id capacity : Nat) (policy : OverflowPolicy) : Listener α :=
  { id, capacity := max capacity 1, policy, items := [], closed := false }

/-- Whether the listener still takes events. -/
def isActive (l : Listener α) : Bool := !l.closed

/-- Whether the queue is full. -/
def isFull (l : Listener α) : Bool := l.items.length ≥ l.capacity

/-- Whether a push would wait for a reader that is not there. -/
def stalls (l : Listener α) : Bool :=
  l.isActive && l.isFull && l.policy == .block

/-- Closes the listener; its queue stays readable. -/
def close (l : Listener α) : Listener α := { l with closed := true }

/-- Pushes an event. A full listener under `block` would wait for room; a registry never pushes
to one (it reports the stall instead), and here it simply takes the event. -/
def push (l : Listener α) (item : α) : Listener α × Delivery :=
  if l.closed then (l, .inactive)
  else if l.isFull then
    match l.policy with
    | .dropOldest => ({ l with items := l.items.drop 1 ++ [item] }, .droppedOldest)
    | .block => ({ l with items := l.items ++ [item] }, .delivered)
    | .blockFor _ => (l.close, .disconnected)
    | .disconnect => (l.close, .disconnected)
  else ({ l with items := l.items ++ [item] }, .delivered)

/-- What taking from a listener found. -/
inductive Taken (α : Type) where
  | item (value : α)
  | empty
  | closed

/-- Takes the oldest event, if any. -/
def take (l : Listener α) : Listener α × Taken α :=
  match l.items with
  | item :: rest => ({ l with items := rest }, .item item)
  | [] => (l, if l.closed then .closed else .empty)

/-- Takes every queued event. -/
def drain (l : Listener α) : Listener α × List α :=
  ({ l with items := [] }, l.items)

end Listener

end Switchboard
