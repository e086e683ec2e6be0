import Switchboard.Bus.Session
import Switchboard.Proofs.Registry
import Switchboard.Proofs.Wakeup

/-!
# The life of a listener

Ids, capacities and closing, over every sequence of registry operations and over every schedule
of the threads that share one listener.

A registry hands out ids 1, 2, 3, … in the order of registration and never hands one out again,
whatever was collected or closed in between; its list of registered ids increases. Every queue
stays within its capacity, which is at least one. A closed listener stays closed, and its queue
only loses events from the front: no push adds to it (`Listener.Evolves`, one lemma per listener
operation). Every step of a session either registers a listener under the next id or changes
the registry only as `Registry.Keeps` allows, one case per operation; the shape every reachable
registry has (`Registry.Ordered`) follows for every run.

For one listener shared by a reader, a pusher and closing threads (`Listener.Shared`), the same
holds at the level of threads: the flag `is_active` reads without the lock equals the queue being
open, a closed queue only shrinks and queues nothing more, and a push that finds the listener
closed, at once or after waiting for room, returns `inactive`.
-/

namespace Switchboard

namespace Listener

variable {α : Type} {l l' l'' : Listener α} {item : α}

/-- A queue within its capacity, which is at least one. -/
structure Fits (l : Listener α) : Prop where
  positive : 0 < l.capacity
  bounded : l.items.length ≤ l.capacity

theorem fits_new (id capacity : Nat) (policy : OverflowPolicy) :
    (Listener.new id capacity policy : Listener α).Fits :=
  ⟨by simp only [Listener.new]; omega, by simp [Listener.new]⟩

/-- How a listener may change: it keeps its id and capacity, a queue within its capacity stays
within it, and a closed listener stays closed while its queue only loses events from the
front. -/
structure Evolves (l l' : Listener α) : Prop where
  id : l'.id = l.id
  capacity : l'.capacity = l.capacity
  fits : l.Fits → l'.Fits
  closed : l.closed = true → l'.closed = true ∧ l'.items <:+ l.items

theorem Evolves.refl (l : Listener α) : l.Evolves l :=
  ⟨rfl, rfl, fun fits => fits, fun closed => ⟨closed, List.suffix_refl _⟩⟩

theorem Evolves.trans (first : l.Evolves l') (second : l'.Evolves l'') : l.Evolves l'' where
  id := second.id.trans first.id
  capacity := second.capacity.trans first.capacity
  fits := fun fits => second.fits (first.fits fits)
  closed := fun closed =>
    ⟨(second.closed (first.closed closed).1).1,
      (second.closed (first.closed closed).1).2.trans (first.closed closed).2⟩

theorem evolves_close (l : Listener α) : l.Evolves l.close :=
  ⟨rfl, rfl, fun fits => ⟨fits.positive, fits.bounded⟩, fun _ => ⟨rfl, List.suffix_refl _⟩⟩

theorem evolves_take (l : Listener α) : l.Evolves l.take.1 where
  id := by unfold take; split <;> rfl
  capacity := take_capacity
  fits := fun fits => by
    constructor
    · rw [take_capacity]
      exact fits.positive
    · rw [take_capacity]
      exact Nat.le_trans take_items_length_le fits.bounded
  closed := fun closed => by
    refine ⟨by rw [take_closed]; exact closed, ?_⟩
    have whole : l.take.2.toList ++ l.take.1.items = l.items := take_toList_append_items
    exact ⟨_, whole⟩

theorem evolves_drain (l : Listener α) : l.Evolves l.drain.1 :=
  ⟨rfl, rfl, fun fits => ⟨fits.positive, by simp [drain]⟩,
    fun closed => ⟨closed, ⟨l.items, by simp [drain]⟩⟩⟩

/-- A push that does not stall keeps the queue within its capacity: a full listener evicts, or
is closed, unless it is a `block` listener, which is what stalling means. A push to a closed
listener changes nothing. -/
theorem evolves_push (notStalled : l.stalls = false) : l.Evolves (l.push item).1 where
  id := push_id
  capacity := push_capacity
  fits := fun fits => by
    have positive := fits.positive
    refine ⟨by rw [push_capacity]; exact positive, ?_⟩
    rw [push_capacity]
    unfold push
    split
    · exact fits.bounded
    · rename_i live
      split
      · rename_i full
        -- a full listener that did not stall evicts or is closed
        have bound := fits.bounded
        simp only [isFull, decide_eq_true_eq] at full
        split
        · simp only [List.length_append, List.length_drop, List.length_singleton]
          omega
        · simp [stalls, isActive, live, isFull, full] at notStalled
          simp_all
        · exact fits.bounded
        · exact fits.bounded
      · rename_i room
        simp only [isFull, decide_eq_true_eq] at room
        simp only [List.length_append, List.length_singleton]
        omega
  closed := fun closed => by
    rw [push_of_closed closed]
    exact ⟨closed, List.suffix_refl _⟩

namespace Log

variable {g : Log α}

/-- An operation on a closed log keeps it closed, queues nothing, and only takes from the front
of the queue. -/
theorem perform_of_closed (closed : g.listener.closed = true) (act : Act α) :
    (g.perform act).listener.closed = true ∧ (g.perform act).accepted = g.accepted ∧
      (g.perform act).listener.items <:+ g.listener.items := by
  cases act with
  | push item => simp [Log.perform, accepts, push_of_closed closed, closed]
  | take =>
      obtain ⟨stays, shorter⟩ := g.listener.evolves_take.closed closed
      exact ⟨stays, rfl, shorter⟩
  | close => exact ⟨rfl, rfl, List.suffix_refl _⟩

theorem performAll_of_closed (closed : g.listener.closed = true) (acts : List (Act α)) :
    (g.performAll acts).listener.closed = true ∧ (g.performAll acts).accepted = g.accepted ∧
      (g.performAll acts).listener.items <:+ g.listener.items := by
  induction acts generalizing g with
  | nil => exact ⟨closed, rfl, List.suffix_refl _⟩
  | cons act rest ih =>
      obtain ⟨stays, same, shorter⟩ := perform_of_closed closed act
      obtain ⟨stays', same', shorter'⟩ := ih stays
      exact ⟨stays', same'.trans same, shorter'.trans shorter⟩

end Log

namespace Shared

variable {s : Shared α}

/-! ### One listener among threads -/

theorem shut_log : ∃ acts : List (Act α), s.shut.log = s.log.performAll acts := by
  unfold shut
  split
  · exact ⟨[], rfl⟩
  · exact ⟨[.close], rfl⟩

theorem deliver_log (item : α) :
    ∃ acts : List (Act α), (s.deliver item).log = s.log.performAll acts := by
  unfold Shared.deliver
  split
  · exact ⟨[], rfl⟩
  · exact ⟨[.push item], rfl⟩

/-- Threads change the queue only by the listener's own operations, each under its lock: every
move runs some pushes, takes and closes on the log. -/
theorem step_log (move : Move α) :
    ∃ acts : List (Act α), (s.step move).log = s.log.performAll acts := by
  cases move with
  | look | tryRecv =>
      -- the reader takes an event under the lock, or changes nothing
      simp only [step]
      split
      · split
        all_goals first
          | exact ⟨[.take], rfl⟩
          | exact ⟨[], rfl⟩
      · exact ⟨[], rfl⟩
  | push item =>
      simp only [step]
      split
      · split
        · exact ⟨[], rfl⟩
        · split
          · split
            · exact ⟨[], rfl⟩
            · exact ⟨[], rfl⟩
            · exact ⟨[.push item], rfl⟩
            · exact shut_log
          · exact deliver_log item
      · exact ⟨[], rfl⟩
  | retry =>
      simp only [step]
      split
      · split
        · exact ⟨[], rfl⟩
        · exact deliver_log _
      · exact ⟨[], rfl⟩
  | expire =>
      simp only [step]
      split
      · split
        · exact ⟨[], rfl⟩
        · exact shut_log
      · exact ⟨[], rfl⟩
  | close => exact shut_log
  | recv | enable | wake | abandon | tell | notify | owe =>
      -- the moves that only wait or wake leave the queue alone
      refine ⟨[], ?_⟩
      simp only [step]
      repeat' split
      all_goals rfl

theorem run_log (moves : List (Move α)) :
    ∃ acts : List (Act α), (s.run moves).log = s.log.performAll acts := by
  induction moves generalizing s with
  | nil => exact ⟨[], rfl⟩
  | cons move rest ih =>
      obtain ⟨first, stepped⟩ := step_log (s := s) move
      obtain ⟨second, ran⟩ := ih (s := s.step move)
      exact ⟨first ++ second, by rw [run_cons, ran, stepped, Log.performAll_append]⟩

@[simp] theorem run_capacity (moves : List (Move α)) :
    (s.run moves).log.listener.capacity = s.log.listener.capacity := by
  obtain ⟨acts, ran⟩ := run_log (s := s) moves
  rw [ran, Log.performAll_capacity]

/-- Once closed, a listener stays closed whatever its threads do, queues no event, and its queue
only loses events from the front. -/
theorem run_of_closed (closed : s.log.listener.closed = true) (moves : List (Move α)) :
    (s.run moves).log.listener.closed = true ∧ (s.run moves).log.accepted = s.log.accepted ∧
      (s.run moves).log.listener.items <:+ s.log.listener.items := by
  obtain ⟨acts, ran⟩ := run_log (s := s) moves
  rw [ran]
  exact Log.performAll_of_closed closed acts

/-- A push that finds the listener closed returns `inactive`. -/
theorem step_push_of_closed (closed : s.log.listener.closed = true) {last : Option Delivery}
    (idle : s.pusher = .idle last) (item : α) :
    (s.step (.push item)).pusher = .idle (some .inactive) := by
  simp [step, idle, closed]

/-- A push woken while waiting for room that finds the listener closed returns `inactive`. -/
theorem step_retry_of_closed (closed : s.log.listener.closed = true) {item : α}
    (woken : s.pusher = .waiting item true) :
    (s.step .retry).pusher = .idle (some .inactive) := by
  simp [step, woken, closed, Shared.deliver]

end Shared

end Listener

namespace Registry

variable {α : Type} {r r' r'' : Registry α}

/-- Every listener the registry holds is still held under its id, changed only as a listener may
change. -/
def Evolves (r r' : Registry α) : Prop :=
  ∀ id l, r.find? id = some l → ∃ l', r'.find? id = some l' ∧ l.Evolves l'

theorem Evolves.refl (r : Registry α) : r.Evolves r :=
  fun _ l found => ⟨l, found, .refl l⟩

theorem Evolves.trans (first : r.Evolves r') (second : r'.Evolves r'') : r.Evolves r'' := by
  intro id l found
  obtain ⟨l', found', evolves⟩ := first id l found
  obtain ⟨l'', found'', evolves'⟩ := second id l' found'
  exact ⟨l'', found'', evolves.trans evolves'⟩

/-- What a registry operation other than a registration may do: keep the next id, make no
listener, change the listeners it holds only as a listener may change, and drop registered
ids. -/
structure Keeps (r r' : Registry α) : Prop where
  nextId : r'.nextId = r.nextId
  absent : ∀ id, r.find? id = none → r'.find? id = none
  evolves : r.Evolves r'
  members : r'.members.Sublist r.members

theorem Keeps.refl (r : Registry α) : r.Keeps r :=
  ⟨rfl, fun _ none => none, .refl r, List.Sublist.refl _⟩

theorem Keeps.trans (first : r.Keeps r') (second : r'.Keeps r'') : r.Keeps r'' :=
  ⟨second.nextId.trans first.nextId, fun id none => second.absent id (first.absent id none),
    first.evolves.trans second.evolves, second.members.trans first.members⟩

/-- Changing the listener with id `id`, as a listener may change, keeps the registry. -/
theorem keeps_modify (id : Nat) (f : Listener α → Listener α)
    (keeps : ∀ l : Listener α, l.id = id → (f l).id = id)
    (evolves : ∀ l, r.find? id = some l → l.Evolves (f l)) : r.Keeps (r.modify id f) where
  nextId := rfl
  absent := fun j none => by
    rw [find?_modify id j f keeps]
    split <;> simp_all
  evolves := fun j l found => by
    rw [find?_modify id j f keeps]
    by_cases same : j = id
    · subst same
      exact ⟨f l, by simp [found], evolves l found⟩
    · exact ⟨l, by simp [same, found], .refl l⟩
  members := List.Sublist.refl _

theorem keeps_close (id : Nat) : r.Keeps (r.close id) :=
  keeps_modify id _ (fun _ same => same) fun l _ => Listener.evolves_close l

/-- Putting a changed copy of the listener found under `id` in its place keeps the registry. -/
theorem keeps_replace {id : Nat} {l l' : Listener α} (found : r.find? id = some l)
    (evolves : l.Evolves l') : r.Keeps (r.modify id fun _ => l') :=
  keeps_modify id _ (fun _ _ => evolves.id.trans (id_of_find? found)) fun other found' => by
    rw [found] at found'
    cases found'
    exact evolves

theorem keeps_take (id : Nat) : r.Keeps (r.take id).1 := by
  unfold Registry.take
  split
  · rename_i l found
    exact keeps_replace found l.evolves_take
  · exact .refl r

theorem keeps_drain (id : Nat) : r.Keeps (r.drain id).1 := by
  unfold Registry.drain
  split
  · rename_i l found
    exact keeps_replace found l.evolves_drain
  · exact .refl r

theorem keeps_collect : r.Keeps r.collect.1 :=
  ⟨rfl, fun _ none => none, .refl r, collect_members_sublist⟩

theorem keeps_foldl_close (ids : List Nat) :
    r.Keeps (ids.foldl (fun acc id => acc.close id) r) := by
  induction ids generalizing r with
  | nil => exact .refl r
  | cons id rest ih => exact (keeps_close id).trans ih

theorem keeps_closeAll : r.Keeps r.closeAll := by
  have closed := keeps_foldl_close (r := r) r.members
  exact ⟨closed.nextId, closed.absent, closed.evolves, List.nil_sublist _⟩

/-- No registered listener stalls the registry. -/
theorem stalls_of_stalled? (none : r.stalled? = none) {id : Nat} {l : Listener α}
    (member : id ∈ r.members) (found : r.find? id = some l) : l.stalls = false := by
  have listed : l ∈ r.memberListeners := List.mem_filterMap.mpr ⟨id, member, found⟩
  simp only [stalled?, Option.map_eq_none_iff, List.find?_eq_none] at none
  simpa using none l listed

/-- A broadcast that no registered listener stalls pushes once to each registered listener. -/
theorem keeps_deliver (distinct : r.members.Nodup) (none : r.stalled? = none) (item : α) :
    r.Keeps (r.deliver item).1 where
  nextId := deliver_nextId
  absent := fun id absent => by
    rw [deliver_find? distinct]
    split <;> simp [absent]
  evolves := fun id l found => by
    rw [deliver_find? distinct]
    split
    · rename_i member
      exact ⟨(l.push item).1, by simp [found],
        Listener.evolves_push (stalls_of_stalled? none member found)⟩
    · exact ⟨l, found, .refl l⟩
  members := by simp

theorem keeps_broadcast (distinct : r.members.Nodup) {item : α} {r' : Registry α}
    {report : BroadcastReport} (ok : r.broadcast item = .ok (r', report)) : r.Keeps r' := by
  unfold broadcast at ok
  split at ok
  · cases ok
  · rename_i none
    cases ok
    exact keeps_deliver distinct none item

/-! ### The shape every reachable registry has -/

/-- Listeners are made under ids below the next one, the registered ids increase and stay below
the next one, and every queue fits its capacity. -/
structure Ordered (r : Registry α) : Prop where
  fresh : ∀ id, r.nextId ≤ id → r.find? id = none
  members_lt : ∀ id ∈ r.members, id < r.nextId
  increasing : r.members.Pairwise (· < ·)
  fits : ∀ id l, r.find? id = some l → l.Fits

theorem ordered_withPolicy (capacity : Nat) (policy : OverflowPolicy) :
    (withPolicy capacity policy : Registry α).Ordered :=
  ⟨fun _ _ => rfl, fun _ member => absurd member List.not_mem_nil, List.Pairwise.nil,
    fun _ _ found => by simp [find?, withPolicy] at found⟩

theorem Ordered.nodup (ordered : r.Ordered) : r.members.Nodup :=
  ordered.increasing.imp Nat.ne_of_lt

theorem Ordered.keeps (ordered : r.Ordered) (keeps : r.Keeps r') : r'.Ordered where
  fresh := fun id above => keeps.absent id (ordered.fresh id (keeps.nextId ▸ above))
  members_lt := fun id member => keeps.nextId ▸ ordered.members_lt id (keeps.members.subset member)
  increasing := ordered.increasing.sublist keeps.members
  fits := fun id l found => by
    cases old : r.find? id with
    | none => simp [keeps.absent id old] at found
    | some before =>
        obtain ⟨after, found', evolves⟩ := keeps.evolves id before old
        rw [found'] at found
        cases found
        exact evolves.fits (ordered.fits id before old)

/-- A registration finds every listener it found before, and the new one under the next id. -/
theorem registerWith_find? (ordered : r.Ordered) (capacity : Nat) (policy : OverflowPolicy)
    (id : Nat) :
    (r.registerWith capacity policy).1.find? id =
      if id = r.nextId then some (Listener.new r.nextId capacity policy) else r.find? id := by
  simp only [registerWith, find?, List.find?_append]
  by_cases same : id = r.nextId
  · subst same
    have none : r.find? r.nextId = none := ordered.fresh _ (Nat.le_refl _)
    simp only [find?] at none
    simp [none, Listener.new]
  · have other : (Listener.new r.nextId capacity policy : Listener α).id ≠ id :=
      fun equal => same equal.symm
    cases r.listeners.find? (·.id == id) <;> simp [same, other]

theorem Ordered.registerWith (ordered : r.Ordered) (capacity : Nat) (policy : OverflowPolicy) :
    (r.registerWith capacity policy).1.Ordered where
  fresh := fun id above => by
    have below : id ≠ r.nextId := by
      simp only [Registry.registerWith] at above
      omega
    rw [registerWith_find? ordered, if_neg below]
    exact ordered.fresh id (by simp only [Registry.registerWith] at above; omega)
  members_lt := (Wf.registerWith ⟨ordered.nodup, ordered.members_lt⟩ capacity policy).members_lt
  increasing := by
    simp only [Registry.registerWith]
    refine List.pairwise_append.mpr ⟨ordered.increasing, List.pairwise_singleton _ _, ?_⟩
    intro old member new added
    rw [List.mem_singleton.mp added]
    exact ordered.members_lt old member
  fits := fun id l found => by
    rw [registerWith_find? ordered] at found
    split at found
    · cases found
      exact Listener.fits_new _ _ _
    · exact ordered.fits id l found

theorem evolves_registerWith (ordered : r.Ordered) (capacity : Nat) (policy : OverflowPolicy) :
    r.Evolves (r.registerWith capacity policy).1 := by
  intro id l found
  have old : id ≠ r.nextId := by
    rintro rfl
    simp [ordered.fresh _ (Nat.le_refl _)] at found
  exact ⟨l, by rw [registerWith_find? ordered, if_neg old, found], .refl l⟩

end Registry

namespace Bus

namespace Outcome

variable {α : Type}

/-- The id a registration answered with. -/
def registeredId : Outcome α → Option Nat
  | .registered id _ => some id
  | _ => none

end Outcome

namespace Session

variable {α : Type} {s : Session α}

/-- The session after running the steps in order. -/
def exec (s : Session α) : List (Op α) → Session α
  | [] => s
  | op :: rest => (s.step op).1.exec rest

@[simp] theorem run_nil : s.run [] = [] := rfl

@[simp] theorem run_cons (op : Op α) (rest : List (Op α)) :
    s.run (op :: rest) = (s.step op).2 :: (s.step op).1.run rest := rfl

@[simp] theorem exec_nil : s.exec [] = s := rfl

@[simp] theorem exec_cons (op : Op α) (rest : List (Op α)) :
    s.exec (op :: rest) = (s.step op).1.exec rest := rfl

/-- A step that registers nothing: the registry changes only as `Registry.Keeps` allows, and the
answer carries no id. -/
def Quiet (s : Session α) (result : Session α × Outcome α) : Prop :=
  s.registry.Keeps result.1.registry ∧ result.2.registeredId = none

theorem quiet_answer (outcome : Outcome α) (none : outcome.registeredId = none) :
    Quiet s (s, outcome) :=
  ⟨.refl _, none⟩

theorem quiet_registry (registry : Registry α) (keeps : s.registry.Keeps registry)
    (outcome : Outcome α) (none : outcome.registeredId = none) :
    Quiet s ({ s with registry }, outcome) :=
  ⟨keeps, none⟩

theorem quiet_withListener (id : Nat) {f : Listener α → Session α × Outcome α}
    (quiet : ∀ l, s.registry.find? id = some l → Quiet s (f l)) :
    Quiet s (s.withListener id f) := by
  unfold withListener
  split
  · split
    · rename_i l found
      exact quiet l found
    · exact quiet_answer _ rfl
  · exact quiet_answer _ rfl

theorem quiet_release (id : Nat) (outcome : Outcome α) (none : outcome.registeredId = none) :
    Quiet s (s.release id, outcome) :=
  ⟨Registry.keeps_close id, none⟩

theorem quiet_broadcast (ordered : s.registry.Ordered) (item : α) : Quiet s (s.broadcast item) := by
  unfold Session.broadcast
  split
  · rename_i registry report ok
    exact quiet_registry registry (Registry.keeps_broadcast ordered.nodup ok) _ rfl
  · exact quiet_answer _ rfl

/-- A broadcast after the holder's step keeps the registry when the holder's step does. -/
theorem quiet_broadcastAfter (ordered : s.registry.Ordered) (l : Listener α) (item : α)
    {first : Registry α → Registry α × Option (Listener.Taken α)}
    (keeps : s.registry.Keeps (first s.registry).1) :
    Quiet s (s.broadcastAfter l item first) := by
  unfold broadcastAfter
  generalize first s.registry = result at keeps ⊢
  obtain ⟨registry, taken⟩ := result
  split
  · exact quiet_answer _ rfl
  · dsimp only
    split
    · exact quiet_answer _ rfl
    · split
      · rename_i registry' report ok
        exact quiet_registry registry'
          (keeps.trans (Registry.keeps_broadcast (ordered.keeps keeps).nodup ok)) _ rfl
      · exact quiet_answer _ rfl

/-- Every step but a registration is quiet. -/
theorem quiet_step (ordered : s.registry.Ordered) :
    ∀ op : Op α, (∀ capacity policy, op ≠ .register capacity policy) → Quiet s (s.step op)
  | .register capacity policy, other => absurd rfl (other capacity policy)
  | .broadcast item, _ => quiet_broadcast ordered item
  | .close id, _ | .closeListener id, _ =>
      quiet_withListener id fun _ _ => quiet_registry _ (Registry.keeps_close id) _ rfl
  | .drop id, _ => quiet_withListener id fun _ _ => quiet_release id _ rfl
  | .collect, _ => quiet_registry _ Registry.keeps_collect _ rfl
  | .closeAll, _ => quiet_registry _ Registry.keeps_closeAll _ rfl
  | .len, _ | .isEmpty, _ | .activeCount, _ | .eventsBroadcast, _ | .snapshot, _
  | .debugRegistry, _ => quiet_answer _ rfl
  | .tryRecv id, _ | .recv id, _ =>
      quiet_withListener id fun _ _ => quiet_registry _ (Registry.keeps_take id) _ rfl
  | .intoStream id, _ =>
      quiet_withListener id fun _ _ =>
        ⟨(Registry.keeps_drain id).trans (Registry.keeps_close id), rfl⟩
  | .queued id, _ | .isActive id, _ | .debugListener id, _ | .handle id, _ =>
      quiet_withListener id fun _ _ => quiet_answer _ rfl
  | .broadcastThenRecv id item, _ =>
      quiet_withListener id fun l _ => quiet_broadcastAfter ordered l item (Registry.keeps_take id)
  | .broadcastThenClose id item, _ =>
      quiet_withListener id fun l _ => quiet_broadcastAfter ordered l item (Registry.keeps_close id)

/-- A registration registers a new listener under the next id and answers with that id. -/
theorem step_register (capacity : Option Nat) (policy : Option OverflowPolicy) :
    (s.step (.register capacity policy)).1.registry =
        (s.registry.registerWith (capacity.getD s.registry.capacity)
          (policy.getD s.registry.policy)).1 ∧
      (s.step (.register capacity policy)).2.registeredId = some s.registry.nextId :=
  ⟨rfl, rfl⟩

/-- Over any run from an ordered registry, registrations answer with consecutive ids from the
next one, the registry stays ordered, and every listener it held is still held, changed only as
a listener may change. -/
theorem exec_ordered (ordered : s.registry.Ordered) (ops : List (Op α)) :
    (∃ n, (s.run ops).filterMap Outcome.registeredId = List.range' s.registry.nextId n ∧
      (s.exec ops).registry.nextId = s.registry.nextId + n) ∧
    (s.exec ops).registry.Ordered ∧ s.registry.Evolves (s.exec ops).registry := by
  induction ops generalizing s with
  | nil => exact ⟨⟨0, rfl, rfl⟩, ordered, .refl _⟩
  | cons op rest ih =>
      by_cases registers : ∃ capacity policy, op = .register capacity policy
      · -- the next id goes to the new listener, and the rest of the run counts on from it
        obtain ⟨capacity, policy, rfl⟩ := registers
        obtain ⟨registered, answer⟩ := step_register (s := s) capacity policy
        have ordered' : (s.step (.register capacity policy)).1.registry.Ordered := by
          rw [registered]
          exact ordered.registerWith _ _
        obtain ⟨⟨n, ids, next⟩, orderedAfter, evolves⟩ := ih ordered'
        have grows : s.registry.Evolves (s.step (.register capacity policy)).1.registry := by
          rw [registered]
          exact Registry.evolves_registerWith ordered _ _
        have bumped : (s.step (.register capacity policy)).1.registry.nextId =
            s.registry.nextId + 1 := by
          rw [registered]
          rfl
        refine ⟨⟨n + 1, ?_, ?_⟩, orderedAfter, grows.trans evolves⟩
        · rw [bumped] at ids
          simp [answer, ids, List.range'_succ]
        · rw [exec_cons, next, bumped]
          omega
      · simp only [not_exists] at registers
        obtain ⟨keeps, none⟩ := quiet_step ordered op registers
        obtain ⟨⟨n, ids, next⟩, orderedAfter, evolves⟩ := ih (ordered.keeps keeps)
        refine ⟨⟨n, ?_, ?_⟩, orderedAfter, keeps.evolves.trans evolves⟩
        · rw [keeps.nextId] at ids
          simp [none, ids]
        · rw [exec_cons, next, keeps.nextId]

end Session

end Bus

end Switchboard
