import Switchboard.Client.Error
import Switchboard.Wire.Authorization

/-!
# Handing values to an authorizer

An interactive authorizer gets each input it needs (parameters, phone number, code, names,
password) through a slot that holds one value at a time. The supplier puts a value in; a second
one has to wait until the first is taken. The authorizer takes values out and, when it is done,
closes its slots: after that nothing can be supplied, though a value already in a slot can still
be taken. A slot whose supplier is gone and that is empty will never be filled.

Authorizers also keep a history of the states they saw, for whoever reads it: at most ten states
wait to be read, and later ones are dropped while the history is full. Closing the authorizer ends
the history; a reader then gets what was left and learns that it ended.
-/

namespace Switchboard

/-- A slot that hands one value at a time from a supplier to a taker. -/
structure Handoff (α : Type) where
  /-- The input's name in errors. -/
  name : String
  value : Option α := none
  /-- Whether the taker has closed the slot. -/
  closed : Bool := false
  /-- Whether the supplier is gone. -/
  abandoned : Bool := false

namespace Handoff

variable {α : Type}

/-- What taking from a slot found. -/
inductive Taken (α : Type) where
  | value (value : α)
  /-- Empty, and nothing more can come. -/
  | shut
  /-- Empty, and a taker would wait. -/
  | empty

/-- What supplying a value did. -/
inductive Supplied where
  | stored
  /-- The slot is closed. -/
  | shut
  /-- The slot already holds a value; a supplier would wait. -/
  | full
  deriving DecidableEq, Repr

/-- Takes the value out of the slot. -/
def take (s : Handoff α) : Handoff α × Taken α :=
  match s.value with
  | some value => ({ s with value := none }, .value value)
  | none => (s, if s.closed || s.abandoned then .shut else .empty)

/-- Puts a value into the slot. -/
def supply (s : Handoff α) (value : α) : Handoff α × Supplied :=
  if s.closed then (s, .shut)
  else if s.value.isSome then (s, .full)
  else ({ s with value := some value }, .stored)

/-- Closes the slot on the taker's side. -/
def close (s : Handoff α) : Handoff α := { s with closed := true }

/-- Marks the supplier as gone. -/
def abandon (s : Handoff α) : Handoff α := { s with abandoned := true }

end Handoff

/-- The states an authorizer saw and that are still to be read. -/
structure History where
  states : List AuthState := []
  /-- Whether states are still recorded; closing the authorizer ends the history. -/
  recording : Bool := true
  /-- Whether anyone still reads the history. -/
  watched : Bool := true

namespace History

/-- The most states that wait to be read. -/
def capacity : Nat := 10

/-- Records a state, unless the history has ended, has no reader or is full. -/
def record (h : History) (state : AuthState) : History :=
  if h.recording && h.watched && h.states.length < capacity then
    { h with states := h.states ++ [state] }
  else h

/-- Ends the history. -/
def close (h : History) : History := { h with recording := false }

/-- Reads every waiting state. -/
def drain (h : History) : History × List AuthState := ({ h with states := [] }, h.states)

/-- Reads the oldest waiting state. With none waiting, a reader of an ended history learns that
it ended; one of a history still recorded would wait. -/
def read (h : History) : History × Handoff.Taken AuthState :=
  match h.states with
  | state :: later => ({ h with states := later }, .value state)
  | [] => (h, if h.recording then .empty else .shut)

/-- Whether the history has ended and everything in it has been read. -/
def ended (h : History) : Bool := !h.recording && h.states.isEmpty

/-- Marks the reader as gone; what was waiting is dropped. -/
def abandon (h : History) : History := { h with watched := false, states := [] }

end History

/-- How a step of sign-in ended: with a value, with an error, or waiting for ever. -/
inductive Run (α : Type) where
  | done (value : α)
  | failed (error : AuthError)
  | stuck

end Switchboard
