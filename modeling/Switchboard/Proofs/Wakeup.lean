import Switchboard.Bus.Shared
import Switchboard.Proofs.Queue

/-!
# No wake-up is lost

A reader that parks on its ticket and a pusher that parks on the condition for room each rely on
another thread to wake them. The invariant `Shared.Inv` says that they always can: a reader parked
while the queue has an event or is closed has a woken ticket, or the pusher that queued the event
or the thread that closed the listener still owes it a wake-up (`ReaderAwaited`); a pusher parked
while the queue has room or is closed has a take's wake-up still owed by the reader, or a close's
by the closing thread (`PusherAwaited`). The other fields are what the two need: a reader that
looks at the queue or is parked has a registered or woken ticket, and the closing thread owes its
wake-ups in the order it sends them. The invariant also keeps the queue within its capacity and
the flag `is_active` reads equal to the queue being open.

Each move keeps the invariant (`Inv.step`, one lemma per move), so every run does (`Inv.run`).
Sending the wake-ups still owed changes neither the queue nor a parked thread and leaves none owed
(`run_owed`); read again after them, the invariant says that the parked reader holds a woken
ticket and the parked pusher is woken (`no_wakeup_is_lost`).
-/

namespace Switchboard

namespace Listener

variable {α : Type} {l : Listener α} {item : α}

@[simp] theorem take_closed : l.take.1.closed = l.closed := by
  unfold take
  split <;> rfl

@[simp] theorem take_items_length_le : l.take.1.items.length ≤ l.items.length := by
  unfold take
  split <;> simp_all

theorem take_eq_empty_iff : l.take.2 = .empty ↔ l.items = [] ∧ l.closed = false := by
  unfold take
  split
  · simp_all
  · rename_i empty
    by_cases closed : l.closed <;> simp [closed, empty]

/-- A push to an open listener with room queues the event at the back. -/
theorem push_of_room (live : l.closed = false) (room : l.isFull = false) :
    (l.push item).1 = { l with items := l.items ++ [item] } := by
  simp [push, live, room]

/-- A push to a full, open, evicting listener drops the oldest event and queues the new one. -/
theorem push_of_evicting (live : l.closed = false) (full : l.isFull = true)
    (evicting : l.policy = .dropOldest) :
    (l.push item).1 = { l with items := l.items.drop 1 ++ [item] } := by
  simp [push, live, full, evicting]

theorem isFull_eq_false_iff : l.isFull = false ↔ l.items.length < l.capacity := by
  simp [isFull]

namespace Shared

variable {s : Shared α}

/-! ## The invariant -/

/-- A reader parked while the queue has an event or is closed has a wake-up coming: its ticket is
woken, or the pusher that queued an event or the closing thread still owes it one. -/
def ReaderAwaited (s : Shared α) : Prop :=
  s.reader = .parked → (s.log.listener.items ≠ [] ∨ s.log.listener.closed = true) →
    s.woken = true ∨ (∃ result, s.pusher = .notifying result) ∨
      .tickets ∈ s.closing ∨ .single ∈ s.closing

/-- A pusher parked, not yet woken, while the queue has room or is closed has a wake-up coming:
the reader that took an event or the closing thread still owes it one. -/
def PusherAwaited (s : Shared α) : Prop :=
  ∀ item, s.pusher = .waiting item false →
    (s.log.listener.isFull = false ∨ s.log.listener.closed = true) →
      s.reader = .telling ∨ .pushers ∈ s.closing

/-- What every run keeps (module doc). -/
structure Inv (s : Shared α) : Prop where
  positive : 0 < s.log.listener.capacity
  bounded : s.log.listener.items.length ≤ s.log.listener.capacity
  active : s.active = !s.log.listener.closed
  owing : s.closing <:+ [.pushers, .tickets, .single]
  registered : s.reader = .looking ∨ s.reader = .parked → s.ticket = some .waiting ∨ s.woken = true
  readerAwaited : s.ReaderAwaited
  pusherAwaited : s.PusherAwaited

/-- The wake-ups a closing thread owes come in one order: pushers, then tickets, then one more. -/
theorem owed_cases {closing : List Owed} (owing : closing <:+ [.pushers, .tickets, .single]) :
    closing = [] ∨ closing = [.single] ∨ closing = [.tickets, .single] ∨
      closing = [.pushers, .tickets, .single] := by
  rcases List.suffix_cons_iff.mp owing with whole | owing
  · exact .inr (.inr (.inr whole))
  rcases List.suffix_cons_iff.mp owing with two | owing
  · exact .inr (.inr (.inl two))
  rcases List.suffix_cons_iff.mp owing with one | owing
  · exact .inr (.inl one)
  · exact .inl (List.suffix_nil.mp owing)

theorem inv_new (l : Listener α) (positive : 0 < l.capacity) (empty : l.items = [])
    (live : l.closed = false) : (new l).Inv where
  positive := positive
  bounded := by simp [new, Log.start, empty]
  active := by simp [new, Log.start, live]
  owing := List.nil_suffix
  registered := by simp [new]
  readerAwaited := by simp [ReaderAwaited, new]
  pusherAwaited := by simp [PusherAwaited, new]

/-! ## Moves of the reader -/

/-- A pusher's wake-up does not depend on a reader that is not about to tell it. -/
theorem PusherAwaited.of_reader {s' : Shared α} (awaited : s.PusherAwaited)
    (pusher : s'.pusher = s.pusher) (queue : s'.log.listener = s.log.listener)
    (closing : s'.closing = s.closing) (reader : s.reader ≠ .telling) : s'.PusherAwaited := by
  intro item waiting room
  rw [pusher] at waiting
  rw [queue] at room
  rcases awaited item waiting room with telling | owed
  · exact absurd telling reader
  · exact .inr (closing ▸ owed)

/-- The reader leaves its wait, or starts a new one with a fresh ticket: it neither looks at the
queue nor is parked, and it owes no wake-up. -/
theorem Inv.leave (inv : s.Inv) (reader : Reader) (ticket : Option Ticket) (permit : Bool)
    (away : reader = .idle ∨ reader = .arming) (notTelling : s.reader ≠ .telling) :
    ({ s with reader, ticket, permit } : Shared α).Inv :=
  { inv with
    registered := fun registering => by rcases away with rfl | rfl <;> simp at registering
    readerAwaited := fun parked => by rcases away with rfl | rfl <;> simp at parked
    pusherAwaited := inv.pusherAwaited.of_reader rfl rfl rfl notTelling }

theorem Inv.recv (inv : s.Inv) : (s.step .recv).Inv := by
  simp only [step]
  split
  · rename_i idle
    exact inv.leave .arming (some (.fresh s.round)) s.permit (.inr rfl) (by simp [idle])
  · exact inv

theorem Inv.enable (inv : s.Inv) : (s.step .enable).Inv := by
  simp only [step]
  split
  · rename_i arming _
    have awaited : PusherAwaited { s with reader := .looking } :=
      inv.pusherAwaited.of_reader rfl rfl rfl (by simp [arming])
    split
    · exact { inv with
        registered := by simp [woken, Ticket.isWoken]
        readerAwaited := by simp [ReaderAwaited]
        pusherAwaited := awaited }
    · split
      · exact { inv with
          registered := by simp [woken, Ticket.isWoken]
          readerAwaited := by simp [ReaderAwaited]
          pusherAwaited := awaited }
      · exact { inv with
          registered := by simp
          readerAwaited := by simp [ReaderAwaited]
          pusherAwaited := awaited }
  · exact inv

/-- A take under the lock keeps the queue within its capacity and open as it was, and leaves
room for a pusher, whom the reader now owes a wake-up. -/
theorem Inv.take (inv : s.Inv) :
    ({ s with log := s.log.perform .take, reader := .telling } : Shared α).Inv where
  positive := by simpa [Log.perform] using inv.positive
  bounded := by
    simp only [Log.perform, take_capacity]
    exact Nat.le_trans take_items_length_le inv.bounded
  active := by simpa [Log.perform] using inv.active
  owing := inv.owing
  registered := by simp
  readerAwaited := by simp [ReaderAwaited]
  pusherAwaited := fun _ _ _ => .inl rfl

theorem Inv.look (inv : s.Inv) : (s.step .look).Inv := by
  simp only [step]
  split
  · rename_i looking
    split
    · exact inv.take
    · exact inv.leave .idle none (s.permit || s.ticket == some .wokenOne) (.inl rfl)
        (by simp [looking])
    · rename_i read
      -- the queue is empty and open: parking is safe
      obtain ⟨empty, live⟩ := take_eq_empty_iff.mp read
      exact { inv with
        registered := fun _ => inv.registered (.inl looking)
        readerAwaited := by simp [ReaderAwaited, empty, live]
        pusherAwaited := inv.pusherAwaited.of_reader rfl rfl rfl (by simp [looking]) }
  · exact inv

theorem Inv.wake (inv : s.Inv) : (s.step .wake).Inv := by
  simp only [step]
  split
  · rename_i parked
    exact inv.leave .arming (some (.fresh s.round)) s.permit (.inr rfl) (by simp [parked.1])
  · exact inv

theorem Inv.abandon (inv : s.Inv) : (s.step .abandon).Inv := by
  simp only [step]
  split
  · rename_i parked
    exact inv.leave .idle none (s.permit || s.ticket == some .wokenOne) (.inl rfl)
      (by simp [parked])
  · exact inv

theorem Inv.tryRecv (inv : s.Inv) : (s.step .tryRecv).Inv := by
  simp only [step]
  split
  · split
    · exact inv.take
    · exact inv
    · exact inv
  · exact inv

/-- A pusher that was waiting for room is woken. -/
theorem wakePusher_ne_waiting (item : α) : s.wakePusher.pusher ≠ .waiting item false := by
  simp only [wakePusher]
  split <;> simp_all

theorem Inv.tell (inv : s.Inv) : (s.step .tell).Inv := by
  simp only [step]
  split
  · exact { inv with
      registered := by simp
      readerAwaited := by simp [ReaderAwaited]
      pusherAwaited := fun item waiting => absurd waiting (wakePusher_ne_waiting item) }
  · exact inv

/-! ## Moves of the pusher and the closing thread -/

/-- A reader's wake-up does not depend on a pusher that is not about to notify it. -/
theorem ReaderAwaited.of_pusher {s' : Shared α} (awaited : s.ReaderAwaited)
    (reader : s'.reader = s.reader) (ticket : s'.ticket = s.ticket)
    (queue : s'.log.listener = s.log.listener) (closing : s'.closing = s.closing)
    (pusher : ∀ result, s.pusher ≠ .notifying result) : s'.ReaderAwaited := by
  intro parked ready
  rw [reader] at parked
  rw [queue] at ready
  rcases awaited parked ready with woken | ⟨result, notifying⟩ | owed
  · exact .inl (by simpa [Shared.woken, ticket] using woken)
  · exact absurd notifying (pusher result)
  · exact .inr (.inr (closing ▸ owed))

/-- Closing an open listener: the closing thread owes every wake-up, so whoever is parked has one
coming; a pusher's move that closes it then goes back to idle. -/
theorem Inv.shut (inv : s.Inv) (live : s.log.listener.closed = false) (last : Option Delivery) :
    ({ s.shut with pusher := .idle last } : Shared α).Inv where
  positive := by simpa [Shared.shut, live, Log.perform] using inv.positive
  bounded := by simpa [Shared.shut, live, Log.perform] using inv.bounded
  active := by simp [Shared.shut, live, Log.perform, close]
  owing := by simp [Shared.shut, live]
  registered := by simpa [Shared.shut, live, woken] using inv.registered
  readerAwaited := fun _ _ => .inr (.inr (.inl (by simp [Shared.shut, live])))
  pusherAwaited := by simp [PusherAwaited]

theorem Inv.close (inv : s.Inv) : (s.step .close).Inv := by
  simp only [step]
  by_cases live : s.log.listener.closed
  · simpa [Shared.shut, live] using inv
  · have shut := inv.shut (by simpa using live) none
    exact { shut with
      pusherAwaited := fun item waiting _ => .inr (by simp [Shared.shut, live])
      readerAwaited := fun _ _ => .inr (.inr (.inl (by simp [Shared.shut, live]))) }

/-- A pusher that goes back to idle without queueing anything keeps the invariant, unless it was
about to notify the reader. -/
theorem Inv.giveUp (inv : s.Inv) (pusher : ∀ result, s.pusher ≠ .notifying result)
    (last : Option Delivery) : ({ s with pusher := .idle last } : Shared α).Inv :=
  { inv with
    readerAwaited := inv.readerAwaited.of_pusher rfl rfl rfl rfl pusher
    pusherAwaited := by simp [PusherAwaited] }

/-- A pusher that parks finds the queue full and open. -/
theorem Inv.park (inv : s.Inv) (pusher : ∀ result, s.pusher ≠ .notifying result)
    (live : s.log.listener.closed = false) (full : s.log.listener.isFull = true) (item : α) :
    ({ s with pusher := .waiting item false } : Shared α).Inv :=
  { inv with
    readerAwaited := inv.readerAwaited.of_pusher rfl rfl rfl rfl pusher
    pusherAwaited := fun _ _ room => by simp [full, live] at room }

/-- A pusher that queues an event owes the reader a wake-up. -/
theorem Inv.queue (inv : s.Inv) {l : Listener α}
    (capacity : l.capacity = s.log.listener.capacity) (closed : l.closed = s.log.listener.closed)
    (bounded : l.items.length ≤ l.capacity) (g : Log α) (listener : g.listener = l)
    (result : Delivery) :
    ({ s with log := g, pusher := .notifying result } : Shared α).Inv where
  positive := by simpa [listener, capacity] using inv.positive
  bounded := by simpa [listener] using bounded
  active := by simpa [listener, closed] using inv.active
  owing := inv.owing
  registered := inv.registered
  readerAwaited := fun _ _ => .inr (.inl ⟨result, rfl⟩)
  pusherAwaited := by simp [PusherAwaited]

theorem Inv.deliver (inv : s.Inv) (pusher : ∀ result, s.pusher ≠ .notifying result) (item : α)
    (room : s.log.listener.isFull = false ∨ s.log.listener.closed = true) :
    (s.deliver item).Inv := by
  unfold Shared.deliver
  split
  · exact inv.giveUp pusher _
  · rename_i live
    have live : s.log.listener.closed = false := by simpa using live
    have room : s.log.listener.items.length < s.log.listener.capacity := by
      simpa [live, isFull_eq_false_iff] using room
    have pushed : (s.log.listener.push item).1 =
        { s.log.listener with items := s.log.listener.items ++ [item] } :=
      push_of_room live (by simpa [isFull_eq_false_iff] using room)
    exact inv.queue (l := (s.log.listener.push item).1) (by simp) (by simp [pushed])
      (by simp only [pushed, List.length_append, List.length_singleton]; omega) _ rfl .delivered

theorem Inv.push (inv : s.Inv) (item : α) : (s.step (.push item)).Inv := by
  simp only [step]
  split
  · rename_i last idle
    have idle : ∀ result, s.pusher ≠ .notifying result := by simp [idle]
    split
    · exact inv.giveUp idle _
    · rename_i live
      have live : s.log.listener.closed = false := by simpa using live
      split
      · rename_i full
        split
        · exact inv.park idle live full item
        · exact inv.park idle live full item
        · rename_i evicting
          -- the oldest event makes room: the queue stays as long as it was
          have pushed : (s.log.listener.push item).1 =
              { s.log.listener with items := s.log.listener.items.drop 1 ++ [item] } :=
            push_of_evicting live full evicting
          have nonempty : 0 < s.log.listener.items.length := by
            simp only [isFull, decide_eq_true_eq] at full
            exact Nat.lt_of_lt_of_le inv.positive full
          exact inv.queue (l := (s.log.listener.push item).1)
            (by simp) (by simp [pushed])
            (by simp only [pushed, List.length_append, List.length_drop, List.length_singleton]
                have := inv.bounded; omega) _ rfl .droppedOldest
        · exact inv.shut live _
      · rename_i room
        exact inv.deliver idle item (.inl (by simpa using room))
  · exact inv

theorem Inv.retry (inv : s.Inv) : (s.step .retry).Inv := by
  simp only [step]
  split
  · rename_i item waiting
    have waiting : ∀ result, s.pusher ≠ .notifying result := by simp [waiting]
    split
    · rename_i full
      simp only [Bool.and_eq_true, Bool.not_eq_eq_eq_not, Bool.not_true] at full
      exact inv.park waiting full.1 full.2 item
    · rename_i room
      simp only [Bool.and_eq_true, Bool.not_eq_eq_eq_not, Bool.not_true, not_and] at room
      apply inv.deliver waiting item
      cases closed : s.log.listener.closed
      · exact .inl (by simpa using room closed)
      · exact .inr rfl
  · exact inv

theorem Inv.expire (inv : s.Inv) : (s.step .expire).Inv := by
  simp only [step]
  split
  · rename_i waiting _
    have waiting : ∀ result, s.pusher ≠ .notifying result := by simp [waiting]
    split
    · exact inv.giveUp waiting _
    · rename_i live
      exact inv.shut (by simpa using live) _
  · exact inv

/-- A woken ticket is no longer waiting, so no wake-up changes it. -/
theorem ticket_ne_waiting (woken : s.woken = true) : s.ticket ≠ some .waiting := by
  intro waiting
  simp [Shared.woken, waiting, Ticket.isWoken] at woken

/-- The notifier's single wake-up wakes a registered ticket and leaves a woken one woken. -/
theorem woken_notifyOne (registered : s.ticket = some .waiting ∨ s.woken = true) :
    s.notifyOne.woken = true := by
  rcases registered with waiting | woken
  · simp [notifyOne, Shared.woken, waiting, Ticket.isWoken]
  · simpa [notifyOne, Shared.woken, ticket_ne_waiting woken] using woken

theorem woken_notifyAll (registered : s.ticket = some .waiting ∨ s.woken = true) :
    s.notifyAll.woken = true := by
  rcases registered with waiting | woken
  · simp [notifyAll, Shared.woken, waiting, Ticket.isWoken]
  · simpa [notifyAll, Shared.woken, ticket_ne_waiting woken] using woken

/-- A wake-up of the notifier keeps a registered or woken ticket registered or woken. -/
theorem registered_notifyOne (registered : s.ticket = some .waiting ∨ s.woken = true) :
    s.notifyOne.ticket = some .waiting ∨ s.notifyOne.woken = true :=
  .inr (woken_notifyOne registered)

theorem Inv.notify (inv : s.Inv) : (s.step .notify).Inv := by
  simp only [step]
  split
  · rename_i result notifying
    exact { inv with
      registered := fun looking => registered_notifyOne (inv.registered looking)
      readerAwaited := fun parked _ => .inl (woken_notifyOne (inv.registered (.inr parked)))
      pusherAwaited := by simp [PusherAwaited] }
  · exact inv

/-- A closing thread that no longer owes the pushers their wake-up leaves a parked pusher to the
reader. -/
theorem PusherAwaited.of_owed {s' : Shared α} (awaited : s.PusherAwaited)
    (pusher : s'.pusher = s.pusher) (queue : s'.log.listener = s.log.listener)
    (reader : s'.reader = s.reader) (sent : .pushers ∉ s.closing) : s'.PusherAwaited := by
  intro item waiting room
  rw [pusher] at waiting
  rw [queue] at room
  rcases awaited item waiting room with telling | owed
  · exact .inl (reader ▸ telling)
  · exact absurd owed sent

theorem Inv.owe (inv : s.Inv) : (s.step .owe).Inv := by
  simp only [step]
  -- the wake-ups come in one order, so the one sent is the first still owed
  rcases owed_cases inv.owing with none | single | tickets | pushers
  · simpa [none] using inv
  · simp only [single]
    exact { inv with
      owing := List.nil_suffix
      registered := fun looking => registered_notifyOne (inv.registered looking)
      readerAwaited := fun parked _ => .inl (woken_notifyOne (inv.registered (.inr parked)))
      pusherAwaited := inv.pusherAwaited.of_owed rfl rfl rfl (by simp [single]) }
  · simp only [tickets]
    exact { inv with
      owing := ⟨[.pushers, .tickets], rfl⟩
      registered := fun looking => .inr (woken_notifyAll (inv.registered looking))
      readerAwaited := fun parked _ => .inl (woken_notifyAll (inv.registered (.inr parked)))
      pusherAwaited := inv.pusherAwaited.of_owed rfl rfl rfl (by simp [tickets]) }
  · simp only [pushers]
    exact { inv with
      owing := ⟨[.pushers], rfl⟩
      readerAwaited := fun _ _ => .inr (.inr (.inl (by simp)))
      pusherAwaited := fun item waiting => absurd waiting (wakePusher_ne_waiting item) }

/-! ## Every run -/

theorem Inv.step (inv : s.Inv) : ∀ move : Move α, (s.step move).Inv
  | .recv => inv.recv
  | .enable => inv.enable
  | .look => inv.look
  | .wake => inv.wake
  | .abandon => inv.abandon
  | .tryRecv => inv.tryRecv
  | .tell => inv.tell
  | .push item => inv.push item
  | .retry => inv.retry
  | .expire => inv.expire
  | .notify => inv.notify
  | .close => inv.close
  | .owe => inv.owe

@[simp] theorem run_nil : s.run [] = s := rfl

@[simp] theorem run_cons (move : Move α) (moves : List (Move α)) :
    s.run (move :: moves) = (s.step move).run moves := rfl

theorem Inv.run (inv : s.Inv) (moves : List (Move α)) : (s.run moves).Inv := by
  induction moves generalizing s with
  | nil => exact inv
  | cons move rest ih => exact ih (inv.step move)

/-- Every run from a new listener keeps the invariant. -/
theorem inv_run_new (id capacity : Nat) (policy : OverflowPolicy) (moves : List (Move α)) :
    ((new (Listener.new id capacity policy)).run moves).Inv :=
  (inv_new _ (by simp only [Listener.new]; omega) rfl rfl).run moves

/-! ## The owed wake-ups -/

/-- What sending owed wake-ups leaves alone: the queue, a reader that is not telling, and a
waiting pusher, which may be woken; it makes no thread owe a wake-up it did not owe. -/
structure Sends (s s' : Shared α) : Prop where
  log : s'.log = s.log
  reader : s.reader ≠ .telling → s'.reader = s.reader
  closing : s'.closing <:+ s.closing
  pusher : ∀ item woken, s.pusher = .waiting item woken → ∃ woken', s'.pusher = .waiting item woken'
  notifying : ∀ result, s'.pusher = .notifying result → s.pusher = .notifying result
  telling : s'.reader = .telling → s.reader = .telling

theorem Sends.refl (s : Shared α) : Sends s s :=
  ⟨rfl, fun _ => rfl, List.suffix_refl _, fun _ woken same => ⟨woken, same⟩, fun _ same => same,
    fun same => same⟩

theorem Sends.trans {s' s'' : Shared α} (first : Sends s s') (second : Sends s' s'') :
    Sends s s'' where
  log := second.log.trans first.log
  reader := fun notTelling => by
    rw [second.reader (fun telling => notTelling (first.telling telling)), first.reader notTelling]
  closing := second.closing.trans first.closing
  pusher := fun item woken waiting => by
    obtain ⟨woken', waiting'⟩ := first.pusher item woken waiting
    exact second.pusher item woken' waiting'
  notifying := fun result notifying => first.notifying result (second.notifying result notifying)
  telling := fun telling => first.telling (second.telling telling)

theorem sends_wakePusher (s : Shared α) : Sends s s.wakePusher where
  log := rfl
  reader := fun _ => rfl
  closing := List.suffix_refl _
  pusher := fun item _ waiting => ⟨true, by simp [wakePusher, waiting]⟩
  notifying := fun result notifying => by
    simp only [wakePusher] at notifying
    split at notifying <;> simp_all
  telling := fun same => same

theorem sends_notify (s : Shared α) : Sends s (s.step .notify) := by
  simp only [step]
  split
  · exact ⟨rfl, fun _ => rfl, List.suffix_refl _, fun _ _ waiting => by simp_all,
      fun _ idle => by simp at idle, fun same => same⟩
  · exact Sends.refl s

theorem sends_tell (s : Shared α) : Sends s (s.step .tell) := by
  simp only [step]
  split
  · rename_i telling
    have woken := sends_wakePusher s
    exact ⟨rfl, fun notTelling => absurd telling notTelling, List.suffix_refl _, woken.pusher,
      woken.notifying, fun idle => by simp at idle⟩
  · exact Sends.refl s

theorem sends_owe (s : Shared α) : Sends s (s.step .owe) := by
  simp only [step]
  split
  · rename_i rest owed
    have woken := sends_wakePusher s
    exact ⟨rfl, fun _ => rfl, by simp [owed], woken.pusher, woken.notifying, fun same => same⟩
  all_goals first
    | exact Sends.refl s
    | rename_i rest owed
      exact ⟨rfl, fun _ => rfl, by simp [owed], fun _ _ waiting => ⟨_, waiting⟩,
        fun _ same => same, fun same => same⟩

/-- Sending every wake-up the closing thread owes leaves it owing none. -/
theorem run_owe_closing (s : Shared α) :
    Sends s (s.run (s.closing.map fun _ => .owe)) ∧
      (s.run (s.closing.map fun _ => .owe)).closing = [] := by
  generalize known : s.closing = closing
  induction closing generalizing s with
  | nil => exact ⟨Sends.refl s, known⟩
  | cons owed rest ih =>
      have sent : (s.step .owe).closing = rest := by
        simp only [step, known]
        cases owed <;> rfl
      obtain ⟨sends, none⟩ := ih (s.step .owe) sent
      exact ⟨(sends_owe s).trans sends, none⟩

/-- Sending the wake-ups owed leaves none owed: the pusher is not about to notify, the reader is
not about to tell, and the closing thread owes nothing. -/
theorem run_owed (s : Shared α) :
    Sends s (s.run s.owed) ∧ (s.run s.owed).closing = [] ∧
      (∀ result, (s.run s.owed).pusher ≠ .notifying result) ∧
      (s.run s.owed).reader ≠ .telling := by
  -- the pusher's wake-up first, then the reader's, then the closing thread's
  obtain ⟨s₁, sends₁, reader₁, closing₁, quiet₁, owed₁⟩ : ∃ s₁ : Shared α, Sends s s₁ ∧
      s₁.reader = s.reader ∧ s₁.closing = s.closing ∧
      (∀ result, s₁.pusher ≠ .notifying result) ∧
      s.run s.owed = s₁.run ((if s.reader = .telling then [.tell] else []) ++
        s.closing.map fun _ => .owe) := by
    cases pusher : s.pusher with
    | notifying result =>
        exact ⟨s.step .notify, sends_notify s, by simp [step, pusher, notifyOne],
          by simp [step, pusher, notifyOne], by simp [step, pusher], by simp [owed, pusher]⟩
    | idle last => exact ⟨s, .refl s, rfl, rfl, by simp [pusher], by simp [owed, pusher]⟩
    | waiting item woken => exact ⟨s, .refl s, rfl, rfl, by simp [pusher], by simp [owed, pusher]⟩
  obtain ⟨s₂, sends₂, told₂, owed₂⟩ : ∃ s₂ : Shared α, Sends s₁ s₂ ∧ s₂.reader ≠ .telling ∧
      s.run s.owed = s₂.run (s₂.closing.map fun _ => .owe) := by
    by_cases telling : s.reader = .telling
    · refine ⟨s₁.step .tell, sends_tell s₁, by simp [step, reader₁, telling], ?_⟩
      simp [owed₁, telling, step, reader₁, dropTicket, wakePusher, closing₁]
    · exact ⟨s₁, .refl s₁, reader₁ ▸ telling, by simp [owed₁, telling, closing₁]⟩
  obtain ⟨sends₃, none₃⟩ := run_owe_closing s₂
  rw [owed₂]
  exact ⟨sends₁.trans (sends₂.trans sends₃), none₃,
    fun result notifying =>
      quiet₁ result (sends₂.notifying result (sends₃.notifying result notifying)),
    fun telling => told₂ (sends₃.telling telling)⟩

/-- Once the owed wake-ups are sent, a reader parked while there is something to read is still
parked, on a woken ticket: its next move looks at the queue again. -/
theorem Inv.reader_woken_after_owed (inv : s.Inv) (parked : s.reader = .parked)
    (ready : s.log.listener.items ≠ [] ∨ s.log.listener.closed = true) :
    (s.run s.owed).reader = .parked ∧ (s.run s.owed).woken = true := by
  obtain ⟨sends, none, quiet, _⟩ := run_owed s
  have still : (s.run s.owed).reader = .parked := by
    rw [sends.reader (by simp [parked]), parked]
  refine ⟨still, ?_⟩
  -- the invariant holds again after the wake-ups, and now nothing else is owed to the reader
  have awaited := (inv.run s.owed).readerAwaited still (by rwa [sends.log])
  rw [none] at awaited
  simpa [quiet] using awaited

/-- Once the owed wake-ups are sent, a pusher parked unwoken while the queue has room or is
closed is woken: its next move looks at the queue again. -/
theorem Inv.pusher_woken_after_owed (inv : s.Inv) (waiting : s.pusher = .waiting item false)
    (ready : s.log.listener.isFull = false ∨ s.log.listener.closed = true) :
    (s.run s.owed).pusher = .waiting item true := by
  obtain ⟨sends, none, _, told⟩ := run_owed s
  obtain ⟨woken, still⟩ := sends.pusher item false waiting
  cases woken with
  | true => exact still
  | false =>
      have awaited := (inv.run s.owed).pusherAwaited item still (by rwa [sends.log])
      rw [none] at awaited
      simp [told] at awaited

/-- No wake-up is lost. In every state a run from a new listener reaches: a reader parked on its
ticket while the queue has an event or is closed holds a woken ticket, or the pusher that queued
the event is about to notify it, or the thread that closed the listener still owes it a wake-up;
a pusher parked, unwoken, while the queue has room or is closed is owed a wake-up by the reader
that took an event or by the closing thread. So once the owed wake-ups are sent, the parked
reader holds a woken ticket and looks at the queue again, and the parked pusher is woken and
looks again. -/
theorem no_wakeup_is_lost (id capacity : Nat) (policy : OverflowPolicy) (moves : List (Move α)) :
    let s := (new (Listener.new id capacity policy)).run moves
    s.ReaderAwaited ∧ s.PusherAwaited ∧
    (s.reader = .parked → (s.log.listener.items ≠ [] ∨ s.log.listener.closed = true) →
      (s.run s.owed).reader = .parked ∧ (s.run s.owed).woken = true) ∧
    (∀ item, s.pusher = .waiting item false →
      (s.log.listener.isFull = false ∨ s.log.listener.closed = true) →
      (s.run s.owed).pusher = .waiting item true) := by
  intro s
  have inv : s.Inv := inv_run_new id capacity policy moves
  exact ⟨inv.readerAwaited, inv.pusherAwaited, inv.reader_woken_after_owed,
    fun _ => inv.pusher_woken_after_owed⟩

/-- A reader parks on an empty queue and a push then queues an event: the push's wake-up reaches
the parked reader. A pusher parks on a full queue of capacity one and a read then makes room: the
read's wake-up reaches the parked pusher. -/
theorem no_wakeup_is_lost_of_push_and_take :
    let parked := (new (Listener.new 1 4 .block)).run [.recv, .enable, .look, .push (5 : Nat)]
    let blocked := (new (Listener.new 2 1 .block)).run
      [.push (1 : Nat), .notify, .push 2, .tryRecv]
    parked.reader = .parked ∧ parked.log.listener.items = [5] ∧
      (parked.run parked.owed).woken = true ∧
    blocked.pusher = .waiting 2 false ∧ blocked.log.listener.items = [] ∧
      (blocked.run blocked.owed).pusher = .waiting 2 true :=
  ⟨by decide, by decide,
    ((no_wakeup_is_lost 1 4 .block [.recv, .enable, .look, .push 5]).2.2.1 (by decide)
      (.inl (by decide))).2,
    by decide, by decide,
    (no_wakeup_is_lost 2 1 .block [.push 1, .notify, .push 2, .tryRecv]).2.2.2 2 (by decide)
      (.inl (by decide))⟩

end Shared

end Listener

end Switchboard
