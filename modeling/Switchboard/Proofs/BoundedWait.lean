import Switchboard.Proofs.Lifecycle

/-!
# A bounded wait for room

A push under `block_for` that finds the queue full and the listener open parks until a wake-up
reaches it or its time runs out. Woken, it looks at the queue again under the lock: with room it
queues its event and returns `delivered`, with the listener closed it returns `inactive`, and with
the queue still full it parks again. When its time runs out first, it looks only at whether the
listener is closed: it then returns `inactive`, and otherwise closes the listener and returns
`disconnected`, whatever room the queue has by then.

So a parked `block_for` push returns `disconnected` only when its time ran out with no wake-up
and the listener open, and at that moment the queue is full or a reader has taken an event whose
wake-up it has not yet sent (`bounded_push_outcomes`): the invariant of `Proofs.Wakeup` leaves a
parked pusher no other way to miss the room. The second case does occur. A read that lands after
the time ran out and before the pusher has the lock again makes room that the pusher never looks
at, and the listener is disconnected with room in its queue (`read_before_expiry_is_missed`).
-/

namespace Switchboard

namespace Listener

namespace Shared

variable {α : Type} {s : Shared α} {item : α}

/-! ## The closing thread owes wake-ups only once the listener is closed -/

theorem shut_closing (s : Shared α) : s.shut.closing = s.closing ∨ s.shut.log.listener.closed = true := by
  unfold shut
  split
  · exact .inl rfl
  · exact .inr rfl

theorem deliver_closing (item : α) : (s.deliver item).closing = s.closing := by
  unfold Shared.deliver
  split <;> rfl

/-- A move leaves the wake-ups the closing thread owes as they were, sends the first of them, or
closes the listener. -/
theorem closing_step (s : Shared α) : ∀ move : Move α,
    (s.step move).closing = s.closing ∨ (s.step move).closing = s.closing.tail ∨
      (s.step move).log.listener.closed = true
  | .close => (shut_closing s).imp_right .inr
  | .owe => by
      simp only [step]
      split <;> simp_all
  | .push item => by
      simp only [step]
      split
      · split
        · exact .inl rfl
        · split
          · split
            · exact .inl rfl
            · exact .inl rfl
            · exact .inl rfl
            · exact (shut_closing s).imp_right .inr
          · exact .inl (deliver_closing item)
      · exact .inl rfl
  | .retry => by
      simp only [step]
      split
      · split
        · exact .inl rfl
        · exact .inl (deliver_closing _)
      · exact .inl rfl
  | .expire => by
      simp only [step]
      split
      · split
        · exact .inl rfl
        · exact (shut_closing s).imp_right .inr
      · exact .inl rfl
  | .recv | .enable | .look | .wake | .abandon | .tryRecv | .tell | .notify => by
      -- the reader's moves and the pusher's wake-up of the reader leave the closing thread alone
      left
      simp only [step]
      repeat' split
      all_goals rfl

/-- No move opens a closed listener. -/
theorem closed_step (closed : s.log.listener.closed = true) (move : Move α) :
    (s.step move).log.listener.closed = true := by
  obtain ⟨acts, stepped⟩ := step_log (s := s) move
  rw [stepped]
  exact (Log.performAll_of_closed closed acts).1

/-- The closing thread owes wake-ups only after it closed the listener. -/
def OwesWhenClosed (s : Shared α) : Prop := s.closing ≠ [] → s.log.listener.closed = true

theorem OwesWhenClosed.step (owes : s.OwesWhenClosed) (move : Move α) :
    (s.step move).OwesWhenClosed := by
  intro owing
  rcases closing_step s move with same | sent | closed
  · exact closed_step (owes (same ▸ owing)) move
  · exact closed_step (owes fun none => owing (by rw [sent, none]; rfl)) move
  · exact closed

theorem OwesWhenClosed.run (owes : s.OwesWhenClosed) (moves : List (Move α)) :
    (s.run moves).OwesWhenClosed := by
  induction moves generalizing s with
  | nil => exact owes
  | cons move rest ih => exact ih (owes.step move)

/-! ## How a parked push ends -/

/-- A parked pusher stays parked until it looks again after a wake-up or its time runs out. -/
theorem step_of_waiting {woken : Bool} (waiting : s.pusher = .waiting item woken) {move : Move α}
    {last : Option Delivery} (ends : (s.step move).pusher = .idle last) :
    (move = .retry ∧ woken = true) ∨ (move = .expire ∧ woken = false) := by
  cases move with
  | retry =>
      cases woken
      · simp [step, waiting] at ends
      · exact .inl ⟨rfl, rfl⟩
  | expire =>
      cases woken
      · exact .inr ⟨rfl, rfl⟩
      · simp [step, waiting] at ends
  | push pushed => simp [step, waiting] at ends
  | tell =>
      simp only [step] at ends
      split at ends <;> simp_all [wakePusher, dropTicket]
  | owe =>
      simp only [step] at ends
      split at ends <;> simp_all [wakePusher, notifyAll, notifyOne]
  | close =>
      simp only [step, shut] at ends
      split at ends <;> simp_all
  | recv | enable | look | wake | abandon | tryRecv | notify =>
      simp only [step] at ends
      repeat' split at ends
      all_goals simp_all [dropTicket]

theorem step_retry_of_woken (woken : s.pusher = .waiting item true) :
    s.step .retry =
      if !s.log.listener.closed && s.log.listener.isFull then { s with pusher := .waiting item false }
      else s.deliver item := by
  simp [step, woken]

theorem step_expire_of_waiting {bound : Duration} (waiting : s.pusher = .waiting item false)
    (policy : s.log.listener.policy = .blockFor bound) :
    s.step .expire =
      if s.log.listener.closed then { s with pusher := .idle (some .inactive) }
      else { s.shut with pusher := .idle (some .disconnected) } := by
  simp [step, waiting, policy]

@[simp] theorem run_policy (moves : List (Move α)) :
    (s.run moves).log.listener.policy = s.log.listener.policy := by
  obtain ⟨acts, ran⟩ := run_log (s := s) moves
  rw [ran, Log.performAll_policy]

/-- Every run of a new listener keeps the policy it was made with. -/
theorem run_new_policy (id capacity : Nat) (policy : OverflowPolicy) (moves : List (Move α)) :
    ((new (Listener.new id capacity policy)).run moves).log.listener.policy = policy := by
  simp [new, Log.start, Listener.new]

/-- Every run of a new listener keeps its capacity, which is at least one. -/
theorem run_new_capacity (id capacity : Nat) (policy : OverflowPolicy) (moves : List (Move α)) :
    ((new (Listener.new id capacity policy)).run moves).log.listener.capacity = max capacity 1 := by
  simp [new, Log.start, Listener.new]

/-- How a `block_for` push that finds the queue full ends, over every schedule of the threads
sharing a new listener.

A push that finds the listener open and full parks. A parked push returns `disconnected` only
when its time runs out before any wake-up reached it and the listener is still open; it then
closes the listener, and at that moment the queue holds `max capacity 1` events or a reader has
taken an event and not yet sent its wake-up. It returns `inactive` exactly when the listener was
closed meanwhile. Woken while the listener is open and has room, it queues its event at the back
and returns `delivered`. -/
theorem bounded_push_outcomes (id capacity : Nat) (bound : Duration) (moves : List (Move α)) :
    let t := (new (Listener.new id capacity (.blockFor bound))).run moves
    (∀ last item, t.pusher = .idle last → t.log.listener.closed = false →
      t.log.listener.isFull = true → (t.step (.push item)).pusher = .waiting item false) ∧
    (∀ item woken move, t.pusher = .waiting item woken →
      (t.step move).pusher = .idle (some .disconnected) →
      move = .expire ∧ woken = false ∧ t.log.listener.closed = false ∧
        (t.step move).log.listener.closed = true ∧
        (t.log.listener.items.length = max capacity 1 ∨ t.reader = .telling)) ∧
    (∀ item woken move result, t.pusher = .waiting item woken →
      (t.step move).pusher = .idle (some result) →
      (result = .inactive ↔ t.log.listener.closed = true)) ∧
    (∀ item, t.pusher = .waiting item true → t.log.listener.closed = false →
      t.log.listener.isFull = false →
      (t.step .retry).log.listener.items = t.log.listener.items ++ [item] ∧
      (t.step .retry).pusher = .notifying .delivered ∧
      ((t.step .retry).step .notify).pusher = .idle (some .delivered)) := by
  intro t
  have inv : t.Inv := inv_run_new id capacity (.blockFor bound) moves
  have owes : t.OwesWhenClosed := OwesWhenClosed.run (fun owing => absurd rfl owing) moves
  have policy : t.log.listener.policy = .blockFor bound := run_new_policy id capacity _ moves
  have capacity' : t.log.listener.capacity = max capacity 1 := run_new_capacity id capacity _ moves
  refine ⟨fun last item idle live full => by simp [step, idle, live, full, policy],
    fun item woken move waiting ends => ?_, fun item woken move result waiting ends => ?_,
    fun item woken live room => ?_⟩
  · obtain ⟨rfl, rfl⟩ | ⟨rfl, rfl⟩ := step_of_waiting waiting ends
    · -- looking again never disconnects
      rw [step_retry_of_woken waiting] at ends
      split at ends
      · cases ends
      · unfold Shared.deliver at ends
        split at ends <;> cases ends
    · rw [step_expire_of_waiting waiting policy] at ends ⊢
      by_cases closed : t.log.listener.closed
      · simp [closed] at ends
      have live : t.log.listener.closed = false := by simpa using closed
      refine ⟨rfl, rfl, live, by simp [live, shut, Log.perform, close], ?_⟩
      by_cases full : t.log.listener.isFull
      · -- a full queue holds exactly its capacity
        left
        have bounded := inv.bounded
        simp only [isFull, decide_eq_true_eq] at full
        omega
      · -- room with the pusher parked and unwoken: the reader still owes it the take's wake-up
        right
        rcases inv.pusherAwaited item waiting (.inl (by simpa using full)) with telling | owed
        · exact telling
        · exact absurd (owes (List.ne_nil_of_mem owed)) closed
  · obtain ⟨rfl, rfl⟩ | ⟨rfl, rfl⟩ := step_of_waiting waiting ends
    · rw [step_retry_of_woken waiting] at ends
      split at ends
      · cases ends
      · unfold Shared.deliver at ends
        split at ends
        · rename_i closed
          cases ends
          simpa using closed
        · cases ends
    · rw [step_expire_of_waiting waiting policy] at ends
      by_cases closed : t.log.listener.closed
      · simp only [closed, if_true, Pusher.idle.injEq, Option.some.injEq] at ends
        simp [← ends, closed]
      · simp only [closed, Bool.false_eq_true, if_false, Pusher.idle.injEq, Option.some.injEq] at ends
        simp [← ends, closed]
  · have open_room : (!t.log.listener.closed && t.log.listener.isFull) = false := by simp [room]
    have pushed : (t.log.listener.push item).1 = { t.log.listener with items := t.log.listener.items ++ [item] } :=
      push_of_room live room
    rw [step_retry_of_woken woken, open_room]
    simp [Shared.deliver, live, Log.perform, pushed, step]

/-- A read that lands after a parked `block_for` push's time ran out, and before the push has the
lock again, is never seen: over every schedule that parks the push with events queued and the
reader idle, the push then disconnects the listener with the room the read made left unused. -/
theorem read_before_expiry_is_missed (id capacity : Nat) (bound : Duration)
    (moves : List (Move α)) (item : α) :
    let t := (new (Listener.new id capacity (.blockFor bound))).run moves
    t.pusher = .waiting item false → t.reader = .idle → t.log.listener.closed = false →
    t.log.listener.items ≠ [] →
    let u := (t.step .tryRecv).step .expire
    u.pusher = .idle (some .disconnected) ∧ u.log.listener.closed = true ∧
      u.log.listener.items = t.log.listener.items.tail ∧
      u.log.listener.items.length < max capacity 1 := by
  intro t waiting idle live queued
  obtain ⟨first, rest, items⟩ := List.exists_cons_of_ne_nil queued
  have inv : t.Inv := inv_run_new id capacity (.blockFor bound) moves
  have policy : t.log.listener.policy = .blockFor bound := run_new_policy id capacity _ moves
  have capacity' : t.log.listener.capacity = max capacity 1 := run_new_capacity id capacity _ moves
  -- the read takes the head under the lock and still owes the pusher its wake-up
  have taken : t.log.listener.take = ({ t.log.listener with items := rest }, .item first) := by
    simp [Listener.take, items]
  have took : t.step .tryRecv = { t with log := t.log.perform .take, reader := .telling } := by
    simp [step, idle, taken]
  have still : (t.step .tryRecv).pusher = .waiting item false := by rw [took]; exact waiting
  have policy' : (t.step .tryRecv).log.listener.policy = .blockFor bound := by
    simp [took, Log.perform, taken, policy]
  rw [step_expire_of_waiting still policy', took]
  have bounded : t.log.listener.items.length ≤ max capacity 1 := capacity' ▸ inv.bounded
  rw [items, List.length_cons] at bounded
  refine ⟨by simp [Log.perform, taken, live], by simp [shut, Log.perform, taken, live, close], ?_, ?_⟩
  · simp [shut, Log.perform, taken, live, close, items]
  · have shorter : rest.length < max capacity 1 := by omega
    simpa [shut, Log.perform, taken, live, close] using shorter

/-- One event queued, a second push parked behind it: a read of the first just before the time
runs out leaves the queue empty and the listener disconnected. -/
theorem read_before_expiry_is_missed_behind_one_event :
    let t := (new (Listener.new 1 1 (.blockFor (Duration.ofMillis 1)) : Listener Nat)).run
      [.push 1, .notify, .push 2]
    (t.pusher = .waiting 2 false ∧ t.reader = .idle ∧ t.log.listener.closed = false ∧
      t.log.listener.items ≠ []) ∧
    let u := (t.step .tryRecv).step .expire
    u.pusher = .idle (some .disconnected) ∧ u.log.listener.closed = true ∧
      u.log.listener.items = t.log.listener.items.tail ∧ u.log.listener.items.length < max 1 1 :=
  ⟨⟨by decide, by decide, by decide, by decide⟩,
    read_before_expiry_is_missed 1 1 (Duration.ofMillis 1) [.push 1, .notify, .push 2] 2
      (by decide) (by decide) (by decide) (by decide)⟩

end Shared

end Listener

end Switchboard
