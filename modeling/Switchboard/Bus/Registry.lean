import Switchboard.Bus.Listener

/-!
# Listener registries

A registry fans every broadcast event out to its listeners, in registration order, and counts the
broadcasts. Listener ids start at 1 and are never reused. Closing a listener keeps it in the
registry until a collection pass removes the inactive ones; closing all listeners empties the
registry at once. A broadcast reports how many listeners took the event (an eviction counts as a
delivery too), were disconnected by it, or were already inactive; inactive or disconnected
listeners mean a collection is due.

A broadcast that would reach an active, full listener under `block` waits for a reader to make
room. Nothing in a single thread can, so the registry refuses such a broadcast up front and names
the first listener that stalls it.
-/

namespace Switchboard

/-- The counts of a broadcast's outcomes. -/
structure BroadcastReport where
  delivered : Nat := 0
  droppedOldest : Nat := 0
  disconnected : Nat := 0
  inactive : Nat := 0
  deriving DecidableEq, Repr

namespace BroadcastReport

/-- Whether some listener is gone and a collection pass would remove it. -/
def needsCollection (r : BroadcastReport) : Bool :=
  r.disconnected > 0 || r.inactive > 0

/-- Counts one delivery outcome. -/
def add (r : BroadcastReport) : Delivery → BroadcastReport
  | .delivered => { r with delivered := r.delivered + 1 }
  | .droppedOldest => { r with delivered := r.delivered + 1, droppedOldest := r.droppedOldest + 1 }
  | .disconnected => { r with disconnected := r.disconnected + 1 }
  | .inactive => { r with inactive := r.inactive + 1 }

end BroadcastReport

/-- A registry of listeners of events of type `α`. -/
structure Registry (α : Type) where
  /-- Every listener made so far, in id order, whether or not still registered. -/
  listeners : List (Listener α) := []
  /-- The ids of the registered listeners, in registration order. -/
  members : List Nat := []
  nextId : Nat := 1
  /-- The capacity a listener gets when none is given. -/
  capacity : Nat
  /-- The policy a listener gets when none is given. -/
  policy : OverflowPolicy
  eventsBroadcast : Nat := 0

namespace Registry

variable {α : Type}

/-- The default capacity of a listener. -/
def defaultCapacity : Nat := 1024

/-- An empty registry with the given defaults. -/
def withPolicy (capacity : Nat) (policy : OverflowPolicy) : Registry α :=
  { capacity, policy }

/-- An empty registry with capacity 1024 and policy `block`. -/
def new : Registry α := withPolicy defaultCapacity .block

/-- The listener with id `id`. -/
def find? (r : Registry α) (id : Nat) : Option (Listener α) :=
  r.listeners.find? (·.id == id)

/-- Changes the listener with id `id`. -/
def modify (r : Registry α) (id : Nat) (f : Listener α → Listener α) : Registry α :=
  { r with listeners := r.listeners.map fun l => if l.id == id then f l else l }

/-- Registers a listener with the given capacity and policy; returns its id. -/
def registerWith (r : Registry α) (capacity : Nat) (policy : OverflowPolicy) : Registry α × Nat :=
  let id := r.nextId
  ({ r with listeners := r.listeners ++ [Listener.new id capacity policy],
            members := r.members ++ [id], nextId := id + 1 }, id)

/-- Registers a listener with the registry's defaults. -/
def register (r : Registry α) : Registry α × Nat :=
  r.registerWith r.capacity r.policy

/-- The registered listeners, in registration order. -/
def memberListeners (r : Registry α) : List (Listener α) :=
  r.members.filterMap r.find?

/-- The first registered listener that would stall a broadcast. -/
def stalled? (r : Registry α) : Option Nat :=
  (r.memberListeners.find? (·.stalls)).map (·.id)

/-- Pushes an event to the listener with id `id`, if there is one, and counts what the push did. -/
def pushTo (item : α) (acc : Registry α × BroadcastReport) (id : Nat) :
    Registry α × BroadcastReport :=
  match acc.1.find? id with
  | some l =>
      let (l', delivery) := l.push item
      (acc.1.modify id fun _ => l', acc.2.add delivery)
  | none => acc

/-- Pushes an event to every registered listener, a full one under `block` included, and counts
the broadcast. -/
def deliver (r : Registry α) (item : α) : Registry α × BroadcastReport :=
  let (r', report) := r.members.foldl (pushTo item) (r, {})
  ({ r' with eventsBroadcast := r.eventsBroadcast + 1 }, report)

/-- Broadcasts an event to every registered listener, or names the listener that stalls it. -/
def broadcast (r : Registry α) (item : α) : Except Nat (Registry α × BroadcastReport) :=
  match r.stalled? with
  | some id => .error id
  | none => .ok (r.deliver item)

/-- Closes a listener; it stays registered until collected. -/
def close (r : Registry α) (id : Nat) : Registry α :=
  r.modify id Listener.close

/-- Removes the inactive listeners; returns how many were removed. -/
def collect (r : Registry α) : Registry α × Nat :=
  let kept := r.members.filter fun id => (r.find? id).any (·.isActive)
  ({ r with members := kept }, r.members.length - kept.length)

/-- Pushes an event to every registered listener and, when that found a listener gone, collects
the registry at once. -/
def publish (r : Registry α) (item : α) : Registry α :=
  let (r', report) := r.deliver item
  if report.needsCollection then r'.collect.1 else r'

/-- Closes every registered listener and empties the registry. -/
def closeAll (r : Registry α) : Registry α :=
  { r.members.foldl (fun acc id => acc.close id) r with members := [] }

/-- The number of registered listeners. -/
def len (r : Registry α) : Nat := r.members.length

/-- The number of registered listeners still active. -/
def activeCount (r : Registry α) : Nat :=
  (r.memberListeners.filter (·.isActive)).length

/-- The registered listeners' ids and whether each is active. -/
def snapshot (r : Registry α) : List (Nat × Bool) :=
  r.memberListeners.map fun l => (l.id, l.isActive)

/-- Takes the oldest event of a listener. -/
def take (r : Registry α) (id : Nat) : Registry α × Listener.Taken α :=
  match r.find? id with
  | some l =>
      let (l', taken) := l.take
      (r.modify id fun _ => l', taken)
  | none => (r, .closed)

/-- Takes every queued event of a listener. -/
def drain (r : Registry α) (id : Nat) : Registry α × List α :=
  match r.find? id with
  | some l =>
      let (l', items) := l.drain
      (r.modify id fun _ => l', items)
  | none => (r, [])

/-- The debugging text of a registry. -/
def debug (r : Registry α) : String :=
  "ListenerRegistry \x7b listeners: " ++ toString r.len ++ ", capacity: " ++ toString r.capacity ++
    ", policy: " ++ r.policy.debug ++ " \x7d"

end Registry

end Switchboard
