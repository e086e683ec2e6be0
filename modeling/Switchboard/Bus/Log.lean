import Switchboard.Bus.Listener

/-!
# Operations on one listener, in the order its lock takes them

Every push, read and close of a listener takes the listener's lock, whichever thread makes it, so
what happens to one listener is a sequence of these operations. A push that has to wait for room
takes effect when it has the lock again: it is then a push to a listener with room or a closed
one, and a `block_for` push whose time ran out is a close.

A log runs such a sequence and keeps what it did to the queue: the events that pushes queued, and
the events that left the queue in the order they left, each read by the holder or evicted by a
push to make room.
-/

namespace Switchboard

namespace Listener

/-- One operation on a listener's queue. -/
inductive Act (α : Type) where
  | push (item : α)
  | take
  | close

/-- How an event left a queue. -/
inductive Exit where
  /-- Read by the listener's holder. -/
  | read
  /-- Evicted by a push, to make room. -/
  | evicted
  deriving DecidableEq, Repr

variable {α : Type}

/-- The events a push of `item` queued: the item, unless the push found the listener closed or
closed it. -/
def accepts (l : Listener α) (item : α) : List α :=
  match (l.push item).2 with
  | .delivered | .droppedOldest => [item]
  | .disconnected | .inactive => []

/-- The events a push of `item` evicted: the oldest one, when the push made room. -/
def evicts (l : Listener α) (item : α) : List α :=
  match (l.push item).2 with
  | .droppedOldest => l.items.take 1
  | .delivered | .disconnected | .inactive => []

/-- The event a take read, if any. -/
def Taken.toList : Taken α → List α
  | .item value => [value]
  | .empty | .closed => []

/-- A listener with what its operations did to its queue. -/
structure Log (α : Type) where
  listener : Listener α
  /-- The events of the pushes that returned `delivered` or `droppedOldest`, in push order. -/
  accepted : List α := []
  /-- The events that left the queue, in the order they left. -/
  exits : List (Exit × α) := []

namespace Log

/-- A log that starts at `l`. -/
def start (l : Listener α) : Log α := { listener := l }

/-- Runs one operation. -/
def perform (g : Log α) : Act α → Log α
  | .push item =>
      { listener := (g.listener.push item).1,
        accepted := g.accepted ++ g.listener.accepts item,
        exits := g.exits ++ (g.listener.evicts item).map (.evicted, ·) }
  | .take =>
      { g with listener := g.listener.take.1,
               exits := g.exits ++ g.listener.take.2.toList.map (.read, ·) }
  | .close => { g with listener := g.listener.close }

/-- Runs operations in order. -/
def performAll (g : Log α) (acts : List (Act α)) : Log α := acts.foldl perform g

/-- The events the holder read, in the order read. -/
def reads (g : Log α) : List α := (g.exits.filter (·.1 == .read)).map Prod.snd

/-- The events pushes evicted, in the order evicted. -/
def evicted (g : Log α) : List α := (g.exits.filter (·.1 == .evicted)).map Prod.snd

/-- How many events had left the queue when the holder last read one; zero before any read. -/
def readMark (g : Log α) : Nat := (g.exits.reverse.dropWhile (·.1 == .evicted)).length

/-- The events queued after the last event the holder read. -/
def sinceRead (g : Log α) : List α := g.accepted.drop g.readMark

@[simp] theorem performAll_nil (g : Log α) : g.performAll [] = g := rfl

@[simp] theorem performAll_cons (g : Log α) (act : Act α) (acts : List (Act α)) :
    g.performAll (act :: acts) = (g.perform act).performAll acts := rfl

theorem performAll_append (g : Log α) (first second : List (Act α)) :
    g.performAll (first ++ second) = (g.performAll first).performAll second :=
  List.foldl_append

end Log

end Listener

end Switchboard
