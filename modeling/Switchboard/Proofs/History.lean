import Switchboard.Auth.Handoff

/-!
# A history keeps the states it has room for, in order

An authorizer records every state it handles in its history, without ever waiting; the history's
reader takes the states one at a time, and closing the authorizer ends the history. In whatever
order these reach the history, it is a queue of at most `History.capacity` states that, when
full, drops the state being recorded and keeps the queued ones:

* the reader gets, once each and in order, exactly the states recorded before the close that
  found fewer than `capacity` states waiting, less those that still wait
  (`Watch.received_append_states`). Which states those are is said by `admitted`, which counts
  how many states wait along the operations and never looks at the queue itself;
* once the history has ended, recording changes nothing, and reads give what still waits, in
  order, and then only the end (`Watch.reads_of_ended`).

`History.reader_gets_admitted_states` puts the two together for a history as it is created.
-/

namespace Switchboard

namespace History

/-- One operation on a history, in the order its queue takes them: a record by the authorizer,
a read by the reader, or the authorizer's close. -/
inductive Act where
  | record (state : AuthState)
  | read
  | close

/-- Whether an operation is a read. -/
def Act.isRead : Act → Bool
  | .read => true
  | _ => false

@[simp] theorem Act.isRead_record (state : AuthState) : (Act.record state).isRead = false := rfl

@[simp] theorem Act.isRead_read : Act.read.isRead = true := rfl

@[simp] theorem Act.isRead_close : Act.close.isRead = false := rfl

/-- The states of `acts` that get into a history where `waiting` states wait to be read: each
one recorded before the first close that finds fewer than `capacity` states waiting. -/
def admitted : Nat → List Act → List AuthState
  | _, [] => []
  | waiting, .record state :: acts =>
      if waiting < capacity then state :: admitted (waiting + 1) acts else admitted waiting acts
  | waiting, .read :: acts => admitted (waiting - 1) acts
  | _, .close :: _ => []

variable {h : History} {state : AuthState}

/-! ## One operation -/

@[simp] theorem record_recording : (h.record state).recording = h.recording := by
  unfold record
  split <;> rfl

@[simp] theorem record_watched : (h.record state).watched = h.watched := by
  unfold record
  split <;> rfl

/-- A watched history that is still recorded queues a state when it has room, and otherwise
drops it, keeping what it holds. -/
theorem record_states (watched : h.watched = true) :
    (h.record state).states =
      if h.recording = true ∧ h.states.length < capacity then h.states ++ [state] else h.states := by
  unfold record
  by_cases room : h.recording = true ∧ h.states.length < capacity
  · simp [room, watched]
  · rw [if_neg room, if_neg (by simpa [watched] using room)]

/-- An ended history records nothing. -/
theorem record_of_ended (ended : h.recording = false) : h.record state = h := by
  simp [record, ended]

@[simp] theorem read_recording : h.read.1.recording = h.recording := by
  unfold read
  split <;> rfl

@[simp] theorem read_watched : h.read.1.watched = h.watched := by
  unfold read
  split <;> rfl

/-- A read leaves one state fewer waiting, or none. -/
@[simp] theorem read_states_length : h.read.1.states.length = h.states.length - 1 := by
  unfold read
  split <;> simp_all

@[simp] theorem close_states : h.close.states = h.states := rfl

@[simp] theorem close_watched : h.close.watched = h.watched := rfl

@[simp] theorem close_recording : h.close.recording = false := rfl

/-- Closing an ended history changes nothing. -/
theorem close_of_ended (ended : h.recording = false) : h.close = h := by
  cases h
  simp_all [close]

end History

/-- The value a read took, if any. -/
def Handoff.Taken.toList {α : Type} : Handoff.Taken α → List α
  | .value taken => [taken]
  | .shut | .empty => []

namespace History

/-- A read takes the oldest waiting state: what it took, followed by what still waits, is what
waited before. -/
theorem read_toList_append_states {h : History} : h.read.2.toList ++ h.read.1.states = h.states := by
  unfold read
  split
  · simp_all [Handoff.Taken.toList]
  · rename_i empty
    cases h.recording <;> simp [empty, Handoff.Taken.toList]

/-- A history, with what its reader's reads returned, in order. -/
structure Watch where
  history : History
  reads : List (Handoff.Taken AuthState) := []

namespace Watch

/-- Runs one operation. -/
def perform (w : Watch) : Act → Watch
  | .record state => { w with history := w.history.record state }
  | .read => { history := w.history.read.1, reads := w.reads ++ [w.history.read.2] }
  | .close => { w with history := w.history.close }

/-- Runs operations in order. -/
def performAll (w : Watch) (acts : List Act) : Watch := acts.foldl perform w

/-- The states the reader got, in the order it got them. -/
def received (w : Watch) : List AuthState := w.reads.flatMap Handoff.Taken.toList

@[simp] theorem performAll_nil (w : Watch) : w.performAll [] = w := rfl

@[simp] theorem performAll_cons (w : Watch) (act : Act) (acts : List Act) :
    w.performAll (act :: acts) = (w.perform act).performAll acts := rfl

theorem performAll_append (w : Watch) (first second : List Act) :
    w.performAll (first ++ second) = (w.performAll first).performAll second :=
  List.foldl_append

@[simp] theorem perform_watched (w : Watch) (act : Act) :
    (w.perform act).history.watched = w.history.watched := by
  cases act <;> simp [perform]

/-! ## The reader gets what was let in -/

/-- What the reader got, followed by what waits, followed by what later operations `acts` let in
while the history is recorded. -/
def Outlook (w : Watch) (acts : List Act) : List AuthState :=
  w.received ++ w.history.states ++
    (if w.history.recording then admitted w.history.states.length acts else [])

/-- One operation moves states along the outlook and never changes it: the count that `admitted`
keeps is the number of states waiting. -/
theorem outlook_perform (w : Watch) (watched : w.history.watched = true) (act : Act)
    (acts : List Act) : (w.perform act).Outlook acts = w.Outlook (act :: acts) := by
  unfold Outlook
  cases act with
  | record state =>
    cases recording : w.history.recording
    · simp [perform, received, History.record_of_ended recording, recording]
    · by_cases room : w.history.states.length < capacity
      · simp [perform, received, History.record_states watched, recording, room, admitted]
      · simp [perform, received, History.record_states watched, recording, room, admitted]
  | read =>
    have step := w.history.read_toList_append_states
    simp only [perform, received, List.flatMap_append, List.flatMap_cons, List.flatMap_nil,
      List.append_nil, List.append_assoc, History.read_recording, History.read_states_length,
      admitted]
    rw [← List.append_assoc w.history.read.2.toList, step]
  | close => simp [perform, received, admitted]

/-- What the reader got, followed by what still waits, is what it had got and what waited at the
start, followed by what the operations let in while the history was recorded. -/
theorem received_append_states (w : Watch) (watched : w.history.watched = true) (acts : List Act) :
    (w.performAll acts).received ++ (w.performAll acts).history.states = w.Outlook acts := by
  induction acts generalizing w with
  | nil => cases recording : w.history.recording <;> simp [Outlook, recording, admitted]
  | cons act acts ih =>
    rw [performAll_cons, ih _ (by simpa using watched), outlook_perform w watched]

/-- Once a history has ended, every further read gives the next state that still waits, in order,
and then the end. -/
theorem reads_of_ended (w : Watch) (ended : w.history.recording = false) (acts : List Act) :
    (w.performAll acts).reads =
      w.reads ++ ((w.history.states.map .value).take (acts.countP Act.isRead) ++
        List.replicate (acts.countP Act.isRead - w.history.states.length) .shut) := by
  induction acts generalizing w with
  | nil => simp
  | cons act acts ih =>
    rw [performAll_cons]
    cases act with
    | record state =>
      simpa [perform, History.record_of_ended ended, Act.isRead] using
        ih { w with history := w.history.record state } (by simpa using ended)
    | close =>
      simpa [perform, History.close_of_ended ended, Act.isRead] using
        ih { w with history := w.history.close } rfl
    | read =>
      rw [ih _ (by simpa [perform] using ended)]
      cases waiting : w.history.states with
      | nil =>
        simp [perform, History.read, waiting, ended, List.countP_cons, List.replicate_succ]
      | cons state later =>
        simp [perform, History.read, waiting, List.countP_cons, List.take_succ_cons]

end Watch

/-- A history as it is created, watched by its reader. Whatever order records, reads and the close
come in, the reader gets, in order and once each, the states recorded before the close that
found fewer than `capacity` states waiting, except those that still wait; and after the close
its reads give what still waits, in order, and then only the end. -/
theorem reader_gets_admitted_states (acts : List Act) :
    let run := ({ history := {} } : Watch).performAll acts
    run.received ++ run.history.states = admitted 0 acts ∧
      ∀ before after, acts = before ++ .close :: after →
        let closing := ({ history := {} } : Watch).performAll before
        run.reads = closing.reads ++
          ((closing.history.states.map .value).take (after.countP Act.isRead) ++
            List.replicate (after.countP Act.isRead - closing.history.states.length) .shut) := by
  refine ⟨?_, ?_⟩
  · simpa [Watch.Outlook, Watch.received] using Watch.received_append_states { history := {} } rfl acts
  · intro before after split
    rw [split, Watch.performAll_append, Watch.performAll_cons]
    exact Watch.reads_of_ended _ rfl after

end History

end Switchboard
