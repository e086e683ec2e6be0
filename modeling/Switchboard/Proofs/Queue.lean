import Switchboard.Bus.Log
import Switchboard.Bus.Session

/-!
# A listener's queue is first in, first out

Whatever order the threads that push to, read and close one listener take its lock in, its queue
keeps the order of the pushes: events enter only at the back and leave only from the front, read
by the holder or evicted by a push to make room. So what left the queue, in the order it left,
followed by what is still queued, is exactly what the pushes queued (`performAll_balanced`). A
listener that never evicts yields every queued event, once and in order; one that evicts keeps
the newest events that came after its last read, as many as fit (`performAll_window`). Reading
once without waiting, polling a wait once, and draining into a stream agree on the next event and
on the end of the events (`Bus.Session.reads_agree`).
-/

namespace Switchboard

namespace Listener

variable {α : Type} {l : Listener α} {item : α}

/-! ## One push, one take -/

@[simp] theorem push_capacity : (l.push item).1.capacity = l.capacity := by
  unfold push
  split
  · rfl
  · split
    · split <;> rfl
    · rfl

@[simp] theorem push_policy : (l.push item).1.policy = l.policy := by
  unfold push
  split
  · rfl
  · split
    · split <;> rfl
    · rfl

@[simp] theorem take_capacity : l.take.1.capacity = l.capacity := by
  unfold take
  split <;> rfl

@[simp] theorem take_policy : l.take.1.policy = l.policy := by
  unfold take
  split <;> rfl

@[simp] theorem close_items : l.close.items = l.items := rfl

@[simp] theorem close_capacity : l.close.capacity = l.capacity := rfl

@[simp] theorem close_policy : l.close.policy = l.policy := rfl

/-- A push moves the queue on by at most one place: what it evicted, followed by the queue after
it, is the queue before it followed by what it queued. -/
theorem evicts_append_push_items :
    l.evicts item ++ (l.push item).1.items = l.items ++ l.accepts item := by
  unfold evicts accepts push
  by_cases closed : l.closed
  · simp [closed]
  by_cases full : l.isFull
  · cases policy : l.policy with
    | block => simp [closed, full]
    | blockFor bound => simp [closed, full, close]
    | dropOldest =>
        simp only [closed, full, Bool.false_eq_true, if_false, if_true, List.drop_one]
        rw [← List.append_assoc, ← List.drop_one, List.take_append_drop]
    | disconnect => simp [closed, full, close]
  · simp [closed, full]

/-- Only an evicting listener evicts. -/
theorem evicts_of_policy (keeps : l.policy ≠ .dropOldest) : l.evicts item = [] := by
  unfold evicts push
  by_cases closed : l.closed
  · simp [closed]
  by_cases full : l.isFull
  · cases policy : l.policy with
    | block => simp [closed, full]
    | blockFor bound => simp [closed, full]
    | dropOldest => exact absurd policy keeps
    | disconnect => simp [closed, full]
  · simp [closed, full]

/-- A take reads the head of the queue, if there is one. -/
theorem take_toList_append_items : l.take.2.toList ++ l.take.1.items = l.items := by
  unfold take
  split
  · simp_all [Taken.toList]
  · rename_i empty
    by_cases closed : l.closed <;> simp [closed, empty, Taken.toList]

/-- A take that reads nothing leaves the listener as it was. -/
theorem take_fst_of_toList (nothing : l.take.2.toList = []) : l.take.1 = l := by
  unfold take at nothing ⊢
  cases queued : l.items with
  | nil => rfl
  | cons item rest => simp [queued, Taken.toList] at nothing

/-- A take reports the end of the events exactly when the listener is closed and drained. -/
theorem take_eq_closed_iff : l.take.2 = .closed ↔ l.closed = true ∧ l.items = [] := by
  unfold take
  split
  · simp_all
  · rename_i empty
    by_cases closed : l.closed <;> simp [closed, empty]

/-- A take reads the head of the queue. -/
theorem take_eq_item_iff {value : α} : l.take.2 = .item value ↔ l.items.head? = some value := by
  unfold take
  split
  · simp_all
  · rename_i empty
    by_cases closed : l.closed <;> simp [closed, empty]

namespace Log

variable {g : Log α}

@[simp] theorem perform_capacity (act : Act α) :
    (g.perform act).listener.capacity = g.listener.capacity := by
  cases act <;> simp [perform]

@[simp] theorem perform_policy (act : Act α) :
    (g.perform act).listener.policy = g.listener.policy := by
  cases act <;> simp [perform]

@[simp] theorem performAll_capacity (acts : List (Act α)) :
    (g.performAll acts).listener.capacity = g.listener.capacity := by
  induction acts generalizing g with
  | nil => rfl
  | cons act rest ih => rw [performAll_cons, ih, perform_capacity]

@[simp] theorem performAll_policy (acts : List (Act α)) :
    (g.performAll acts).listener.policy = g.listener.policy := by
  induction acts generalizing g with
  | nil => rfl
  | cons act rest ih => rw [performAll_cons, ih, perform_policy]

/-! ## The queue keeps the order of the pushes -/

/-- What left the queue, in order, followed by what is queued, is `queued` (the queue at the start)
followed by what the pushes queued. -/
def Balanced (queued : List α) (g : Log α) : Prop :=
  g.exits.map Prod.snd ++ g.listener.items = queued ++ g.accepted

theorem balanced_start (l : Listener α) : (start l).Balanced l.items := by
  simp [Balanced, start]

theorem Balanced.perform {queued : List α} (balanced : g.Balanced queued) (act : Act α) :
    (g.perform act).Balanced queued := by
  unfold Balanced at balanced ⊢
  cases act with
  | push item =>
      have step : g.listener.evicts item ++ (g.listener.push item).1.items =
          g.listener.items ++ g.listener.accepts item := evicts_append_push_items
      simp only [Log.perform, List.map_append, List.map_map]
      calc g.exits.map Prod.snd ++ (g.listener.evicts item).map (Prod.snd ∘ (Exit.evicted, ·)) ++
              (g.listener.push item).1.items
          = g.exits.map Prod.snd ++ (g.listener.evicts item ++ (g.listener.push item).1.items) := by
            simp [Function.comp_def]
        _ = queued ++ (g.accepted ++ g.listener.accepts item) := by
            rw [step, ← List.append_assoc, balanced, List.append_assoc]
  | take =>
      have step := g.listener.take_toList_append_items
      simp only [Log.perform, List.map_append, List.map_map]
      calc g.exits.map Prod.snd ++ g.listener.take.2.toList.map (Prod.snd ∘ (Exit.read, ·)) ++
              g.listener.take.1.items
          = g.exits.map Prod.snd ++ (g.listener.take.2.toList ++ g.listener.take.1.items) := by
            simp [Function.comp_def]
        _ = queued ++ g.accepted := by rw [step, balanced]
  | close => simpa [Log.perform] using balanced

theorem Balanced.performAll {queued : List α} (balanced : g.Balanced queued)
    (acts : List (Act α)) : (g.performAll acts).Balanced queued := by
  induction acts generalizing g with
  | nil => exact balanced
  | cons act rest ih => exact ih (balanced.perform act)

/-- Every run from a listener balances. -/
theorem performAll_balanced (l : Listener α) (acts : List (Act α)) :
    ((start l).performAll acts).Balanced l.items :=
  (balanced_start l).performAll acts

/-! ## A listener that never evicts -/

/-- Every event that left the queue was read. -/
def AllRead (g : Log α) : Prop := ∀ e ∈ g.exits, e.1 = .read

theorem AllRead.perform (allRead : g.AllRead) (keeps : g.listener.policy ≠ .dropOldest)
    (act : Act α) : (g.perform act).AllRead := by
  intro e member
  cases act with
  | push item =>
      simp only [Log.perform, evicts_of_policy keeps, List.map_nil, List.append_nil] at member
      exact allRead e member
  | take =>
      simp only [Log.perform, List.mem_append, List.mem_map] at member
      rcases member with old | ⟨value, -, rfl⟩
      · exact allRead e old
      · rfl
  | close => exact allRead e member

theorem AllRead.performAll (allRead : g.AllRead) (keeps : g.listener.policy ≠ .dropOldest)
    (acts : List (Act α)) : (g.performAll acts).AllRead := by
  induction acts generalizing g with
  | nil => exact allRead
  | cons act rest ih => exact ih (allRead.perform keeps act) (by simpa using keeps)

theorem AllRead.reads_eq (allRead : g.AllRead) : g.reads = g.exits.map Prod.snd := by
  unfold reads
  rw [List.filter_eq_self.mpr]
  intro e member
  simp [allRead e member]

/-! ## A listener that evicts keeps a window -/

/-- An eviction leaves the mark of the last read where it was. -/
theorem readMark_of_evicted {h : Log α} {events : List α}
    (exits : h.exits = g.exits ++ events.map (.evicted, ·)) : h.readMark = g.readMark := by
  simp only [readMark, exits, List.reverse_append]
  rw [List.dropWhile_append_of_pos]
  simp

/-- A read moves the mark to the end of what left the queue. -/
theorem readMark_of_read {h : Log α} (value : α) (exits : h.exits = g.exits ++ [(.read, value)]) :
    h.readMark = g.exits.length + 1 := by
  simp [readMark, exits]

/-- The events that left the queue are at most the events queued. -/
theorem Balanced.exits_length_le (balanced : g.Balanced []) :
    g.exits.length ≤ g.accepted.length := by
  have lengths := congrArg List.length balanced
  simp only [List.length_append, List.length_map, List.nil_append] at lengths
  omega

theorem readMark_le_exits_length : g.readMark ≤ g.exits.length := by
  unfold readMark
  calc (g.exits.reverse.dropWhile (·.1 == .evicted)).length ≤ g.exits.reverse.length :=
        (List.dropWhile_sublist _).length_le
    _ = g.exits.length := List.length_reverse

/-- The queue holds the last events queued after the last read, as many as fit. -/
def Window (g : Log α) : Prop :=
  g.listener.items = g.sinceRead.drop (g.sinceRead.length - g.listener.capacity)

theorem window_start (l : Listener α) (empty : l.items = []) : (start l).Window := by
  simp [Window, start, sinceRead, readMark, empty]

/-- Pushing onto a window of the last `capacity` events keeps a window. -/
private theorem window_push {window events : List α} {capacity : Nat} (positive : 0 < capacity)
    (holds : window = events.drop (events.length - capacity)) (item : α) :
    (if window.length ≥ capacity then window.drop 1 else window) ++ [item] =
      (events ++ [item]).drop ((events ++ [item]).length - capacity) := by
  subst holds
  simp only [List.length_drop, List.length_append, List.length_singleton]
  split
  · rename_i full
    rw [List.drop_drop, List.drop_append_of_le_length (by omega),
      show events.length - capacity + 1 = events.length + 1 - capacity by omega]
  · rename_i room
    rw [Nat.sub_eq_zero_of_le (by omega), Nat.sub_eq_zero_of_le (by omega)]
    simp

theorem Window.perform (window : g.Window) (balanced : g.Balanced [])
    (positive : 0 < g.listener.capacity) (evicting : g.listener.policy = .dropOldest)
    (act : Act α) : (g.perform act).Window := by
  unfold Window sinceRead at window ⊢
  have marked : g.readMark ≤ g.accepted.length :=
    Nat.le_trans readMark_le_exits_length balanced.exits_length_le
  cases act with
  | push item =>
      have mark : (g.perform (.push item)).readMark = g.readMark := readMark_of_evicted rfl
      rw [mark]
      simp only [Log.perform, push_capacity]
      by_cases closed : g.listener.closed
      · simp only [accepts, push, closed, if_true, List.append_nil]
        exact window
      · have taken := window_push positive window item
        rw [List.drop_append_of_le_length marked] at ⊢
        by_cases full : g.listener.isFull
        · simp only [isFull, decide_eq_true_eq] at full
          simp only [accepts, push, closed, isFull, evicting, Bool.false_eq_true, if_false,
            decide_eq_true_eq, full, if_true]
          simpa [full] using taken
        · simp only [isFull, decide_eq_true_eq] at full
          simp only [accepts, push, closed, isFull, Bool.false_eq_true, if_false,
            decide_eq_true_eq, full]
          simpa [full] using taken
  | take =>
      cases read : g.listener.take.2 with
      | item value =>
          -- a read empties the window of what came before it: the queue after it is exactly
          -- what was queued after the event read
          have head := take_toList_append_items (l := g.listener)
          rw [read] at head
          have mark : (g.perform .take).readMark = g.exits.length + 1 :=
            readMark_of_read value (by simp [Log.perform, read, Taken.toList])
          have queued : g.accepted.drop g.exits.length = g.listener.items := by
            simpa using (congrArg (List.drop g.exits.length) balanced).symm
          have rest : g.accepted.drop (g.exits.length + 1) = g.listener.take.1.items := by
            rw [← List.drop_drop, queued, ← head]
            rfl
          have fits : g.listener.take.1.items.length ≤ g.listener.capacity := by
            have bound := congrArg List.length window
            simp only [List.length_drop] at bound
            have longer := congrArg List.length head
            simp only [Taken.toList, List.singleton_append, List.length_cons] at longer
            omega
          rw [mark]
          simp only [Log.perform, take_capacity]
          rw [rest, Nat.sub_eq_zero_of_le fits, List.drop_zero]
      | empty | closed =>
          have same : g.listener.take.1 = g.listener :=
            take_fst_of_toList (by simp [read, Taken.toList])
          simpa [Log.perform, read, Taken.toList, same] using window
  | close => simpa [Log.perform, readMark] using window

/-- What the holder read, followed by the queue, came in that order from what the pushes queued. -/
theorem Balanced.reads_append_items_sublist {queued : List α} (balanced : g.Balanced queued) :
    (g.reads ++ g.listener.items).Sublist (queued ++ g.accepted) := by
  rw [← balanced]
  exact (List.filter_sublist.map Prod.snd).append (List.Sublist.refl _)

theorem Window.performAll (window : g.Window) (balanced : g.Balanced [])
    (positive : 0 < g.listener.capacity) (evicting : g.listener.policy = .dropOldest)
    (acts : List (Act α)) : (g.performAll acts).Window := by
  induction acts generalizing g with
  | nil => exact window
  | cons act rest ih =>
      exact ih (window.perform balanced positive evicting act) (balanced.perform act)
        (by simpa using positive) (by simpa using evicting)

end Log

end Listener

end Switchboard

namespace Switchboard

namespace Bus.Session

variable {α : Type} {s : Session α} {id : Nat}

theorem withListener_eq_unknown {f : Listener α → Session α × Outcome α}
    (missing : ¬ ∃ l, id ∈ s.held ∧ s.registry.find? id = some l) :
    s.withListener id f = (s, .unknownListener id) := by
  unfold withListener
  by_cases held : id ∈ s.held
  · cases found : s.registry.find? id with
    | none => simp [held]
    | some l => exact absurd ⟨l, held, found⟩ missing
  · simp [held]

theorem withListener_eq {f : Listener α → Session α × Outcome α} {l : Listener α}
    (held : id ∈ s.held) (found : s.registry.find? id = some l) :
    s.withListener id f = f l := by
  simp [withListener, held, found]

theorem step_tryRecv_outcome {l : Listener α} (held : id ∈ s.held)
    (found : s.registry.find? id = some l) : (s.step (.tryRecv id)).2 = .taken l.take.2 := by
  simp [step, withListener_eq held found, Registry.take, found]

theorem step_recv_item {l : Listener α} (held : id ∈ s.held)
    (found : s.registry.find? id = some l) (value : α) :
    (s.step (.recv id)).2 = .polled (.item value) ↔ l.take.2 = .item value := by
  simp only [step, withListener_eq held found, Registry.take, found]
  cases l.take.2 <;> simp

theorem step_recv_ended {l : Listener α} (held : id ∈ s.held)
    (found : s.registry.find? id = some l) :
    (s.step (.recv id)).2 = .polled .ended ↔ l.take.2 = .closed := by
  simp only [step, withListener_eq held found, Registry.take, found]
  cases l.take.2 <;> simp

theorem step_intoStream_outcome {l : Listener α} (held : id ∈ s.held)
    (found : s.registry.find? id = some l) :
    (s.step (.intoStream id)).2 = .stream l.items l.closed := by
  simp [step, withListener_eq held found, Registry.drain, found, Listener.drain]

/-- Reading once without waiting, polling a wait once and draining into a stream all start at the
head of the listener's queue. -/
theorem next_event_agrees (value : α) :
    ((s.step (.tryRecv id)).2 = .taken (.item value) ↔
      ∃ l, id ∈ s.held ∧ s.registry.find? id = some l ∧ l.items.head? = some value) ∧
    ((s.step (.recv id)).2 = .polled (.item value) ↔
      ∃ l, id ∈ s.held ∧ s.registry.find? id = some l ∧ l.items.head? = some value) ∧
    ((∃ rest ended, (s.step (.intoStream id)).2 = .stream (value :: rest) ended) ↔
      ∃ l, id ∈ s.held ∧ s.registry.find? id = some l ∧ l.items.head? = some value) := by
  by_cases known : ∃ l, id ∈ s.held ∧ s.registry.find? id = some l
  · obtain ⟨l, held, found⟩ := known
    have head : l.take.2 = .item value ↔ l.items.head? = some value := Listener.take_eq_item_iff
    rw [step_tryRecv_outcome held found, step_recv_item held found,
      step_intoStream_outcome held found]
    refine ⟨?_, ?_, ?_⟩
    · simp [held, found, ← head]
    · simp [held, found, ← head]
    · cases queued : l.items <;> simp [held, found, queued]
  · simp only [step, withListener_eq_unknown known]
    refine ⟨?_, ?_, ?_⟩ <;> simp only [reduceCtorEq, exists_false, false_iff] <;>
      exact fun ⟨l, held, found, _⟩ => known ⟨l, held, found⟩

/-- Reading once without waiting, polling a wait once and draining into a stream all report the
end of the events exactly when the listener is closed and its queue is empty. -/
theorem end_agrees :
    ((s.step (.tryRecv id)).2 = .taken .closed ↔
      ∃ l, id ∈ s.held ∧ s.registry.find? id = some l ∧ l.closed = true ∧
        l.items = []) ∧
    ((s.step (.recv id)).2 = .polled .ended ↔
      ∃ l, id ∈ s.held ∧ s.registry.find? id = some l ∧ l.closed = true ∧
        l.items = []) ∧
    ((s.step (.intoStream id)).2 = .stream [] true ↔
      ∃ l, id ∈ s.held ∧ s.registry.find? id = some l ∧ l.closed = true ∧
        l.items = []) := by
  by_cases known : ∃ l, id ∈ s.held ∧ s.registry.find? id = some l
  · obtain ⟨l, held, found⟩ := known
    have ended := Listener.take_eq_closed_iff (l := l)
    rw [step_tryRecv_outcome held found, step_recv_ended held found,
      step_intoStream_outcome held found]
    refine ⟨?_, ?_, ?_⟩
    · simp [held, found, ← ended]
    · simp [held, found, ← ended]
    · simp [held, found, and_comm]
  · simp only [step, withListener_eq_unknown known]
    refine ⟨?_, ?_, ?_⟩ <;> simp only [reduceCtorEq, false_iff] <;>
      exact fun ⟨l, held, found, _⟩ => known ⟨l, held, found⟩

end Bus.Session

end Switchboard

namespace Switchboard

namespace Listener

variable {α : Type}

/-- Whatever order pushes, reads and closes reach a new listener in, its queue is first in, first
out: what left the queue, in the order it left, followed by what is still queued, is exactly the
events of the pushes that returned `delivered` or `droppedOldest`, in push order. So the events read
followed by the queue are those events with the evicted ones taken out, and none is read twice or
out of order. A listener that never evicts reads exactly the queued events; one that evicts holds
the last events queued after its last read event, as many as its capacity (at least one) allows.
Reading once, polling a wait once and draining into a stream agree on the next event and on the end
of the events, which comes exactly when the listener is closed and its queue is empty. -/
theorem yields_pushed_events_in_order (id capacity : Nat) (policy : OverflowPolicy)
    (acts : List (Act α)) :
    let g := (Log.start (Listener.new id capacity policy)).performAll acts
    g.exits.map Prod.snd ++ g.listener.items = g.accepted ∧
    (g.reads ++ g.listener.items).Sublist g.accepted ∧
    (policy ≠ .dropOldest → g.reads ++ g.listener.items = g.accepted) ∧
    (policy = .dropOldest →
      g.listener.items = g.sinceRead.drop (g.sinceRead.length - max capacity 1)) ∧
    ∀ (s : Bus.Session α) (listener : Nat) (value : α),
      ((s.step (.tryRecv listener)).2 = .taken (.item value) ↔
        (s.step (.recv listener)).2 = .polled (.item value)) ∧
      ((s.step (.recv listener)).2 = .polled (.item value) ↔
        ∃ rest ended, (s.step (.intoStream listener)).2 = .stream (value :: rest) ended) ∧
      ((s.step (.tryRecv listener)).2 = .taken .closed ↔
        (s.step (.recv listener)).2 = .polled .ended) ∧
      ((s.step (.recv listener)).2 = .polled .ended ↔
        (s.step (.intoStream listener)).2 = .stream [] true) ∧
      ((s.step (.tryRecv listener)).2 = .taken .closed ↔
        ∃ l, listener ∈ s.held ∧ s.registry.find? listener = some l ∧ l.closed = true ∧
          l.items = []) := by
  intro g
  have balanced : g.Balanced [] := Log.performAll_balanced (Listener.new id capacity policy) acts
  have capacity_eq : g.listener.capacity = max capacity 1 := by
    simp only [g, Log.performAll_capacity]
    rfl
  refine ⟨by simpa [Log.Balanced] using balanced,
    by simpa using balanced.reads_append_items_sublist, ?_, ?_, ?_⟩
  · intro keeps
    -- nothing was evicted, so every event that left the queue was read
    have allRead : g.AllRead :=
      Log.AllRead.performAll (fun _ none => by simp [Log.start] at none) keeps acts
    rw [allRead.reads_eq]
    simpa [Log.Balanced] using balanced
  · intro evicting
    have start : (Log.start (Listener.new id capacity policy) : Log α).Window :=
      Log.window_start _ rfl
    have window : g.Window :=
      start.performAll (Log.balanced_start _) (by simp only [Log.start, Listener.new]; omega)
        evicting acts
    unfold Log.Window at window
    rwa [capacity_eq] at window
  · intro s listener value
    obtain ⟨tried, polled, streamed⟩ := @Bus.Session.next_event_agrees _ s listener value
    obtain ⟨triedEnd, polledEnd, streamedEnd⟩ := @Bus.Session.end_agrees _ s listener
    exact ⟨tried.trans polled.symm, polled.trans streamed.symm, triedEnd.trans polledEnd.symm,
      polledEnd.trans streamedEnd.symm, triedEnd⟩

/-- A listener under `block` with room for two that is given two events, read once and closed
yields the first event and still holds the second. -/
theorem yields_pushed_events_in_order_of_blocking_listener :
    let g := (Log.start (Listener.new (α := Nat) 1 2 .block)).performAll
      [.push 1, .push 2, .take, .close]
    OverflowPolicy.block ≠ .dropOldest ∧ g.reads ++ g.listener.items = g.accepted :=
  ⟨by decide,
    (yields_pushed_events_in_order 1 2 .block [.push 1, .push 2, .take, .close]).2.2.1
      (by decide)⟩

/-- An evicting listener counts what it keeps from the last event read, not from the last read:
with room for two, after two events are queued and the older one is read, a third event leaves
two events queued, though only one was queued after that read. -/
theorem evicting_listener_keeps_events_queued_before_last_read :
    let read := (Log.start (Listener.new (α := Nat) 1 2 .dropOldest)).performAll
      [.push 1, .push 2, .take]
    let after := read.perform (.push 3)
    let sinceLastRead := after.accepted.drop read.accepted.length
    sinceLastRead = [3] ∧ after.listener.items = [2, 3] ∧
      after.listener.items ≠ sinceLastRead.drop (sinceLastRead.length - max 2 1) := by
  decide

end Listener

end Switchboard
