import Switchboard.Bus.Registry

/-!
# Scripted use of a registry

A session is one holder's use of a registry: it registers listeners, keeps the ones it holds,
broadcasts, reads and closes. Dropping a held listener closes it and lets go of it; so does
turning it into a stream once the stream has yielded what it could. A listener that is not held
cannot be named again.

Reading a listener once gives an event, says that it is closed and drained, or, when it is open
and empty, that a reader would have to wait. Two steps stand for a broadcast that meets a full
waiting listener while the holder makes room in it or closes it: the holder's step comes first,
and the broadcast then finds room (or a closed listener).
-/

namespace Switchboard
namespace Bus

/-- One step of a session. -/
inductive Op (α : Type) where
  | register (capacity : Option Nat) (policy : Option OverflowPolicy)
  | broadcast (item : α)
  | close (id : Nat)
  | closeListener (id : Nat)
  | drop (id : Nat)
  | collect
  | closeAll
  | len
  | isEmpty
  | activeCount
  | eventsBroadcast
  | snapshot
  | tryRecv (id : Nat)
  | recv (id : Nat)
  | intoStream (id : Nat)
  | queued (id : Nat)
  | isActive (id : Nat)
  | debugRegistry
  | debugListener (id : Nat)
  | handle (id : Nat)
  | broadcastThenRecv (id : Nat) (item : α)
  | broadcastThenClose (id : Nat) (item : α)

/-- What one reading of a listener found. -/
inductive Poll (α : Type) where
  | item (value : α)
  | ended
  | pending

/-- The answer to one step. -/
inductive Outcome (α : Type) where
  | registered (id : Nat) (active : Bool)
  | report (report : BroadcastReport)
  | done
  | count (n : Nat)
  | flag (b : Bool)
  | snapshot (entries : List (Nat × Bool))
  | taken (result : Listener.Taken α)
  | polled (result : Poll α)
  | stream (items : List α) (ended : Bool)
  | text (s : String)
  | handle (id : Nat) (active : Bool) (debug : String)
  | reportAndTaken (report : BroadcastReport) (taken : Option (Listener.Taken α))
  /-- The broadcast would wait forever on this full listener. -/
  | stalled (id : Nat)
  /-- No held listener has this id. -/
  | unknownListener (id : Nat)
  /-- The step's outcome would depend on timing. -/
  | racy

/-- A registry and the listeners held. -/
structure Session (α : Type) where
  registry : Registry α
  held : List Nat := []

namespace Session

variable {α : Type}

/-- A session over an empty registry. -/
def start (registry : Registry α) : Session α := { registry }

/-- The debugging text of a listener. -/
def listenerDebug (id : Nat) (active : Bool) : String :=
  "Listener \x7b id: ListenerId(" ++ toString id ++ "), active: " ++ toString active ++ ", .. \x7d"

/-- The debugging text of a listener handle. -/
def handleDebug (id : Nat) (active : Bool) : String :=
  "ListenerHandle \x7b id: ListenerId(" ++ toString id ++ "), active: " ++ toString active ++ " \x7d"

/-- Broadcasts, unless a full listener under `block` would stall it. -/
def broadcast (s : Session α) (item : α) : Session α × Outcome α :=
  match s.registry.broadcast item with
  | .ok (registry, report) => ({ s with registry }, .report report)
  | .error id => (s, .stalled id)

/-- Whether a broadcast racing a reader of `l` has one outcome: `l` is closed, or full and
waiting for room. -/
def settled (l : Listener α) : Bool :=
  l.closed || (l.isFull && match l.policy with
    | .block | .blockFor _ => true
    | _ => false)

/-- A broadcast that meets `l` after the holder's step `first`. -/
def broadcastAfter (s : Session α) (l : Listener α) (item : α)
    (first : Registry α → Registry α × Option (Listener.Taken α)) : Session α × Outcome α :=
  if !settled l then (s, .racy)
  else
    let others := { s.registry with members := s.registry.members.filter (· != l.id) }
    match others.stalled? with
    | some id => (s, .stalled id)
    | none =>
        let (registry, taken) := first s.registry
        match registry.broadcast item with
        | .ok (registry, report) => ({ s with registry }, .reportAndTaken report taken)
        | .error id => (s, .stalled id)

/-- Runs a step on the held listener `id`. -/
def withListener (s : Session α) (id : Nat) (f : Listener α → Session α × Outcome α) :
    Session α × Outcome α :=
  if s.held.contains id then
    match s.registry.find? id with
    | some l => f l
    | none => (s, .unknownListener id)
  else (s, .unknownListener id)

/-- Lets go of a held listener, closing it. -/
def release (s : Session α) (id : Nat) : Session α :=
  { registry := s.registry.close id, held := s.held.filter (· != id) }

/-- Runs one step. -/
def step (s : Session α) : Op α → Session α × Outcome α
  | .register capacity policy =>
      let (registry, id) := s.registry.registerWith (capacity.getD s.registry.capacity)
        (policy.getD s.registry.policy)
      ({ registry, held := s.held ++ [id] }, .registered id true)
  | .broadcast item => s.broadcast item
  | .close id | .closeListener id =>
      s.withListener id fun _ => ({ s with registry := s.registry.close id }, .done)
  | .drop id => s.withListener id fun _ => (s.release id, .done)
  | .collect =>
      let (registry, removed) := s.registry.collect
      ({ s with registry }, .count removed)
  | .closeAll => ({ s with registry := s.registry.closeAll }, .done)
  | .len => (s, .count s.registry.len)
  | .isEmpty => (s, .flag (s.registry.len == 0))
  | .activeCount => (s, .count s.registry.activeCount)
  | .eventsBroadcast => (s, .count s.registry.eventsBroadcast)
  | .snapshot => (s, .snapshot s.registry.snapshot)
  | .tryRecv id =>
      s.withListener id fun _ =>
        let (registry, taken) := s.registry.take id
        ({ s with registry }, .taken taken)
  | .recv id =>
      s.withListener id fun _ =>
        let (registry, taken) := s.registry.take id
        let poll := match taken with
          | .item value => Poll.item value
          | .closed => .ended
          | .empty => .pending
        ({ s with registry }, .polled poll)
  | .intoStream id =>
      s.withListener id fun l =>
        let (registry, items) := s.registry.drain id
        ((({ s with registry } : Session α).release id), .stream items l.closed)
  | .queued id => s.withListener id fun l => (s, .count l.items.length)
  | .isActive id => s.withListener id fun l => (s, .flag l.isActive)
  | .debugRegistry => (s, .text s.registry.debug)
  | .debugListener id => s.withListener id fun l => (s, .text (listenerDebug id l.isActive))
  | .handle id => s.withListener id fun l => (s, .handle id l.isActive (handleDebug id l.isActive))
  | .broadcastThenRecv id item =>
      s.withListener id fun l =>
        s.broadcastAfter l item fun registry =>
          let (registry, taken) := registry.take id
          (registry, some taken)
  | .broadcastThenClose id item =>
      s.withListener id fun l =>
        s.broadcastAfter l item fun registry => (registry.close id, none)

/-- Runs the steps in order and collects their outcomes. -/
def run (s : Session α) : List (Op α) → List (Outcome α)
  | [] => []
  | op :: rest =>
      let (s', outcome) := s.step op
      outcome :: run s' rest

end Session

end Bus
end Switchboard
