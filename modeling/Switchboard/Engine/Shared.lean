import Switchboard.Engine.Handle

/-!
# An engine handle shared between threads

Any number of threads call one handle at once. Sending takes the lock on the destroyed flag
shared, reads the flag, and stays inside the engine's send while it holds the lock. Receiving,
running a request in place, taking a guard and destroying first wait for the turnstile. A receive
or a run in place then reads the flag (the shared lock again, for a moment) and, if the engine is
not destroyed, enters the engine; the engine's answer either becomes a message, which keeps the
turnstile until it is let go of, possibly on another thread, or ends the call, which lets the
turnstile go. A guard keeps the turnstile in the same way. Destroying takes the lock on the flag
exclusively, then enters the engine's destroy unless the flag is already set; the unsynchronized
destroy does the same without the turnstile. Letting go of the handle, which no call can overlap,
destroys the engine at once if the turnstile is free and leaves it alone otherwise.

The engine's text lies in a buffer that its next receive, run in place or destroy invalidates.
The engine itself is left open: what a receive or a run in place answers is chosen by the move
that ends it. Which enabled move comes next is left open too, so a run is any list of moves, and
a move its thread cannot make now changes nothing.
-/

namespace Switchboard

namespace Handle

/-- A call that waits for the turnstile. -/
inductive Call where
  | receive
  | execute (typeName : String)
  | lock
  | destroy
  deriving DecidableEq, Repr

/-- What holds the turnstile. -/
inductive Holder where
  | free
  /-- The call in progress on this thread. -/
  | call (thread : Nat)
  /-- A message, whose text lies in the engine's buffer. -/
  | message (text : String)
  /-- A guard that a lock returned. -/
  | guard
  deriving DecidableEq, Repr

/-- Where a thread is in its call on the handle. -/
inductive Phase where
  | idle
  /-- Sending: waiting for the shared lock on the destroyed flag. -/
  | sending
  /-- Sending: inside the engine's send, holding the shared lock. -/
  | inSend
  /-- Waiting for the turnstile. -/
  | queued (call : Call)
  /-- Receiving or running in place: holding the turnstile, about to read the destroyed flag. -/
  | checking (call : Call)
  /-- Inside the engine's receive or run in place, holding the turnstile. -/
  | inEngine (call : Call)
  /-- Destroying: waiting for the exclusive lock on the flag; `synced` when the turnstile is
  held, that is, for a destroy and not for an unsynchronized one. -/
  | destroying (synced : Bool)
  /-- Inside the engine's destroy, holding the exclusive lock. -/
  | inDestroy (synced : Bool)
  deriving DecidableEq, Repr

/-- What a call returned. -/
inductive Answer where
  | sent
  | message (text : String)
  /-- A receive that waited in vain. -/
  | timedOut
  | guarded
  /-- A destroy, synchronized or not, returned. -/
  | done
  | refused (error : EngineError)
  deriving DecidableEq, Repr

/-- A handle and the threads that call it. -/
structure Shared where
  /-- The threads are `0, …, threads - 1`. -/
  threads : Nat
  phase : Nat → Phase
  /-- What each thread's last call returned. -/
  last : Nat → Option Answer
  turnstile : Holder
  /-- The flag behind the lock that sends share and destroying takes exclusively. -/
  destroyed : Bool
  /-- The text the engine's last answer points at, until the engine invalidates it. -/
  buffer : Option String
  /-- How often the engine's destroy was entered. -/
  destroyCount : Nat
  /-- The handle has been let go of. -/
  dropped : Bool

/-- One move of one thread, or of the engine's answer, or of whoever lets go of a message, a
guard or the handle. -/
inductive Move where
  | send (thread : Nat)
  | receive (thread : Nat)
  | execute (thread : Nat) (typeName : String)
  | lock (thread : Nat)
  | destroy (thread : Nat)
  | destroyUnsynchronized (thread : Nat)
  /-- The thread takes the next step of its call. -/
  | advance (thread : Nat)
  /-- The engine's receive or run in place returns on this thread, with a text or none. -/
  | answer (thread : Nat) (result : Option String)
  /-- The message or guard that holds the turnstile is let go of. -/
  | release
  /-- The handle is let go of. -/
  | drop
  deriving DecidableEq, Repr

namespace Shared

/-- A handle that no thread has called yet. -/
def new (threads : Nat) : Shared :=
  { threads, phase := fun _ => .idle, last := fun _ => none, turnstile := .free,
    destroyed := false, buffer := none, destroyCount := 0, dropped := false }

/-- Moves thread `t` to phase `p`. -/
def set (s : Shared) (t : Nat) (p : Phase) : Shared :=
  { s with phase := fun u => if u = t then p else s.phase u }

/-- Thread `t` returns `a` from its call. -/
def finish (s : Shared) (t : Nat) (a : Answer) : Shared :=
  { s.set t .idle with last := fun u => if u = t then some a else s.last u }

/-- Whether some thread is inside the engine's send, holding the flag's lock shared. -/
def reading (s : Shared) : Bool := (List.range s.threads).any fun u => s.phase u == .inSend

/-- Whether some thread is inside the engine's destroy, holding the flag's lock exclusively. -/
def writing (s : Shared) : Bool :=
  (List.range s.threads).any fun u => s.phase u == .inDestroy true || s.phase u == .inDestroy false

/-- Whether no call is in progress. -/
def quiet (s : Shared) : Bool := (List.range s.threads).all fun u => s.phase u == .idle

/-- Thread `t` starts a call in phase `p`, if it is idle and the handle is still there. -/
def start (s : Shared) (t : Nat) (p : Phase) : Shared :=
  if t < s.threads ∧ s.phase t = .idle ∧ s.dropped = false then s.set t p else s

/-- Thread `t` takes the next step of its call. -/
def advance (s : Shared) (t : Nat) : Shared :=
  match s.phase t with
  | .sending =>
      if s.writing then s
      else if s.destroyed then s.finish t (.refused .destroyed)
      else s.set t .inSend
  | .inSend => s.finish t .sent
  | .queued call =>
      if s.turnstile = .free then
        match call with
        | .lock => { s.finish t .guarded with turnstile := .guard }
        | .destroy => { s.set t (.destroying true) with turnstile := .call t }
        | call => { s.set t (.checking call) with turnstile := .call t }
      else s
  | .checking call =>
      if s.writing then s
      else if s.destroyed then { s.finish t (.refused .destroyed) with turnstile := .free }
      else { s.set t (.inEngine call) with buffer := none }
  | .destroying synced =>
      if s.reading || s.writing then s
      else if s.destroyed then
        { s.finish t .done with turnstile := (if synced then .free else s.turnstile) }
      else
        { s.set t (.inDestroy synced) with
          destroyed := true, destroyCount := s.destroyCount + 1, buffer := none }
  | .inDestroy synced =>
      { s.finish t .done with turnstile := (if synced then .free else s.turnstile) }
  | .idle | .inEngine _ => s

/-- The engine's receive or run in place returns on thread `t`. -/
def answer (s : Shared) (t : Nat) (result : Option String) : Shared :=
  match s.phase t, result with
  | .inEngine _, some text =>
      { s.finish t (.message text) with turnstile := .message text, buffer := some text }
  | .inEngine (.execute typeName), none =>
      { s.finish t (.refused (.rejected typeName)) with turnstile := .free }
  | .inEngine _, none => { s.finish t .timedOut with turnstile := .free }
  | _, _ => s

/-- Runs one move. -/
def step (s : Shared) : Move → Shared
  | .send t => s.start t .sending
  | .receive t => s.start t (.queued .receive)
  | .execute t typeName => s.start t (.queued (.execute typeName))
  | .lock t => s.start t (.queued .lock)
  | .destroy t => s.start t (.queued .destroy)
  | .destroyUnsynchronized t => s.start t (.destroying false)
  | .advance t => s.advance t
  | .answer t result => s.answer t result
  | .release =>
      match s.turnstile with
      | .message _ | .guard => { s with turnstile := .free }
      | .free | .call _ => s
  | .drop =>
      if s.dropped = false ∧ s.quiet then
        if s.destroyed = false ∧ s.turnstile = .free then
          { s with
            dropped := true, destroyed := true, destroyCount := s.destroyCount + 1, buffer := none }
        else { s with dropped := true }
      else s

/-- Runs moves in order. -/
def run (s : Shared) (moves : List Move) : Shared := moves.foldl step s

end Shared

end Handle

end Switchboard
