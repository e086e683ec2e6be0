import Switchboard.Proofs.Lifecycle

/-!
# What a broadcast reports

A broadcast pushes its event to each registered listener once and tallies what each push did.
What a push does is fixed by the listener's state before it (`Listener.push_cases`): a closed
listener is inactive; a full one evicts its oldest event, is disconnected, or, under `block`,
takes the event as a listener with room does. So the report of a broadcast counts the registered
listeners by their state before it (`Registry.deliver_inactive` and its siblings), and after it
the active listeners are exactly those that took the event (`Registry.activeCount_deliver`).
Both need the registry's shape that every run of operations keeps: distinct registered ids, each
naming a listener the registry made (`Registry.Listed`).

A collection keeps the active listeners in registration order and removes the others, and a
second collection finds nothing more to remove. Closing all listeners closes each registered one
and empties the registry; no other operation but a registration or a collection changes which
listeners are registered, whatever it closes.

The main statement, `broadcast_report_counts_every_listener`, gathers these for every registry
that a run of operations reaches.
-/

namespace Switchboard

namespace OverflowPolicy

/-- Whether a push that finds the queue full closes the listener when no reader makes room:
`disconnect` at once, `block_for` once its bound has passed. -/
def disconnectsWhenFull : OverflowPolicy → Bool
  | .blockFor _ | .disconnect => true
  | .block | .dropOldest => false

end OverflowPolicy

namespace Delivery

/-- Whether a push queued its event, after evicting an older one or not. -/
def queued : Delivery → Bool
  | .delivered | .droppedOldest => true
  | .disconnected | .inactive => false

end Delivery

namespace Listener

variable {α : Type} {l : Listener α} {item : α}

/-- What a push does, by the listener's state before it: a closed listener turns the event away
and stays as it is; a full one evicts under `drop_oldest` and is closed under `disconnect` and
`block_for`; any other takes the event and stays open. -/
theorem push_cases (l : Listener α) (item : α) :
    (l.closed = true ∧ l.push item = (l, .inactive)) ∨
    (l.closed = false ∧ l.isFull = true ∧ l.policy = .dropOldest ∧
      (l.push item).2 = .droppedOldest ∧ (l.push item).1.closed = false) ∨
    (l.closed = false ∧ l.isFull = true ∧ l.policy.disconnectsWhenFull = true ∧
      (l.push item).2 = .disconnected ∧ (l.push item).1.closed = true) ∨
    (l.closed = false ∧ (l.isFull = false ∨ l.policy = .block) ∧
      (l.push item).2 = .delivered ∧ (l.push item).1.closed = false) := by
  cases closed : l.closed
  · cases full : l.isFull
    · -- room in the queue: the event is taken
      simp [push, closed, full]
    · cases policy : l.policy <;>
        simp [push, closed, full, policy, close, OverflowPolicy.disconnectsWhenFull]
  · simp [push, closed]

theorem push_snd_eq_inactive_iff : (l.push item).2 = .inactive ↔ l.closed = true := by
  rcases push_cases l item with ⟨closed, pushed⟩ | ⟨closed, -, -, outcome, -⟩ |
    ⟨closed, -, -, outcome, -⟩ | ⟨closed, -, outcome, -⟩ <;> simp [*]

theorem push_snd_eq_droppedOldest_iff :
    (l.push item).2 = .droppedOldest ↔
      (l.isActive && l.isFull && l.policy == .dropOldest) = true := by
  rcases push_cases l item with ⟨closed, pushed⟩ | ⟨closed, full, policy, outcome, -⟩ |
    ⟨closed, full, gives, outcome, -⟩ | ⟨closed, roomy, outcome, -⟩
  · simp [pushed, isActive, closed]
  · simp [outcome, isActive, closed, full, policy]
  · cases policy : l.policy <;>
      simp_all [isActive, OverflowPolicy.disconnectsWhenFull]
  · rcases roomy with room | policy <;> simp [isActive, *]

theorem push_snd_eq_disconnected_iff :
    (l.push item).2 = .disconnected ↔
      (l.isActive && l.isFull && l.policy.disconnectsWhenFull) = true := by
  rcases push_cases l item with ⟨closed, pushed⟩ | ⟨closed, full, policy, outcome, -⟩ |
    ⟨closed, full, gives, outcome, -⟩ | ⟨closed, roomy, outcome, -⟩
  · simp [pushed, isActive, closed]
  · simp [outcome, isActive, closed, full, policy, OverflowPolicy.disconnectsWhenFull]
  · simp [outcome, isActive, closed, full, gives]
  · rcases roomy with room | policy <;> simp [isActive, OverflowPolicy.disconnectsWhenFull, *]

/-- A listener is open after a push exactly when the push queued the event. -/
theorem isActive_push : (l.push item).1.isActive = (l.push item).2.queued := by
  rcases push_cases l item with ⟨closed, pushed⟩ | ⟨-, -, -, outcome, open_⟩ |
    ⟨-, -, -, outcome, shut⟩ | ⟨-, -, outcome, open_⟩ <;>
    simp [isActive, Delivery.queued, *]

@[simp] theorem close_close : l.close.close = l.close := rfl

end Listener

namespace BroadcastReport

/-- A count of the report that each outcome `d` raises by one when `p d` holds counts, after a
run of pushes, the pushes whose outcome satisfies `p`. -/
theorem foldl_add_count (f : BroadcastReport → Nat) (p : Delivery → Bool)
    (counts : ∀ r d, f (r.add d) = f r + if p d then 1 else 0) :
    ∀ (ds : List Delivery) (r : BroadcastReport), f (ds.foldl add r) = f r + ds.countP p
  | [], r => by simp
  | d :: ds, r => by
      rw [List.foldl_cons, foldl_add_count f p counts ds, counts, List.countP_cons]
      omega

end BroadcastReport

namespace Registry

variable {α : Type} {r r' : Registry α} {item : α}

/-! ## One broadcast -/

/-- Pushing to distinct ids in turn reports, in order, what each push did to the listener found
under its id. -/
theorem foldl_pushTo_report (ids : List Nat) (distinct : ids.Nodup)
    (acc : Registry α × BroadcastReport) :
    (ids.foldl (pushTo item) acc).2 =
      ((ids.filterMap acc.1.find?).map fun l => (l.push item).2).foldl BroadcastReport.add acc.2 := by
  induction ids generalizing acc with
  | nil => rfl
  | cons id rest ih =>
      obtain ⟨fresh, distinct⟩ := List.nodup_cons.mp distinct
      rw [List.foldl_cons, ih distinct]
      -- the later ids still find the listeners they found before the push to `id`
      have later : rest.filterMap (pushTo item acc id).1.find? = rest.filterMap acc.1.find? :=
        List.filterMap_congr fun j member => by
          rw [pushTo_find?, if_neg (fun same : j = id => fresh (same ▸ member))]
      rw [later]
      unfold pushTo
      cases found : acc.1.find? id <;> simp [found]

theorem deliver_report (distinct : r.members.Nodup) :
    (r.deliver item).2 =
      (r.memberListeners.map fun l => (l.push item).2).foldl BroadcastReport.add {} := by
  simp only [deliver]
  exact foldl_pushTo_report r.members distinct (r, {})

theorem deliver_memberListeners (distinct : r.members.Nodup) :
    (r.deliver item).1.memberListeners = r.memberListeners.map fun l => (l.push item).1 := by
  unfold memberListeners
  rw [deliver_members, List.map_filterMap]
  exact List.filterMap_congr fun j member => by rw [deliver_find? distinct, if_pos member]

@[simp] theorem deliver_eventsBroadcast :
    (r.deliver item).1.eventsBroadcast = r.eventsBroadcast + 1 := rfl

@[simp] theorem len_deliver : (r.deliver item).1.len = r.len := by
  simp [len]

/-- Every registered id names a listener the registry made. -/
def Listed (r : Registry α) : Prop := ∀ id ∈ r.members, (r.find? id).isSome

theorem Listed.length_memberListeners (listed : r.Listed) : r.memberListeners.length = r.len := by
  unfold memberListeners len
  rw [List.length_filterMap_eq_countP, List.countP_eq_length]
  exact listed

theorem activeCount_eq_countP : r.activeCount = r.memberListeners.countP (·.isActive) :=
  List.countP_eq_length_filter.symm

theorem activeCount_le_len : r.activeCount ≤ r.len :=
  calc r.activeCount ≤ r.memberListeners.length := List.length_filter_le _ _
    _ ≤ r.len := List.length_filterMap_le _ _

/-- The inactive listeners are the registered ones that are not active. -/
theorem Listed.countP_closed (listed : r.Listed) :
    r.memberListeners.countP (·.closed) = r.len - r.activeCount := by
  have split := List.length_eq_countP_add_countP (·.closed) (l := r.memberListeners)
  have open_ : r.memberListeners.countP (fun l => decide ¬(l.closed = true)) = r.activeCount := by
    rw [activeCount_eq_countP]
    exact List.countP_congr fun l _ => by simp [Listener.isActive]
  rw [listed.length_memberListeners] at split
  omega

section Counts

variable (distinct : r.members.Nodup)
include distinct

theorem deliver_delivered :
    (r.deliver item).2.delivered =
      r.memberListeners.countP fun l => (l.push item).2.queued := by
  rw [deliver_report distinct,
    BroadcastReport.foldl_add_count BroadcastReport.delivered Delivery.queued (by intro _ d; cases d <;> rfl),
    List.countP_map]
  dsimp only
  rw [Nat.zero_add]
  rfl

theorem deliver_droppedOldest :
    (r.deliver item).2.droppedOldest =
      r.memberListeners.countP fun l => l.isActive && l.isFull && l.policy == .dropOldest := by
  rw [deliver_report distinct, BroadcastReport.foldl_add_count BroadcastReport.droppedOldest (· == .droppedOldest)
    (by intro _ d; cases d <;> rfl), List.countP_map]
  dsimp only
  rw [Nat.zero_add]
  exact List.countP_congr fun l _ => by simp [Listener.push_snd_eq_droppedOldest_iff]

theorem deliver_disconnected :
    (r.deliver item).2.disconnected =
      r.memberListeners.countP fun l => l.isActive && l.isFull && l.policy.disconnectsWhenFull := by
  rw [deliver_report distinct, BroadcastReport.foldl_add_count BroadcastReport.disconnected (· == .disconnected)
    (by intro _ d; cases d <;> rfl), List.countP_map]
  dsimp only
  rw [Nat.zero_add]
  exact List.countP_congr fun l _ => by simp [Listener.push_snd_eq_disconnected_iff]

theorem deliver_inactive :
    (r.deliver item).2.inactive = r.memberListeners.countP (·.closed) := by
  rw [deliver_report distinct, BroadcastReport.foldl_add_count BroadcastReport.inactive (· == .inactive)
    (by intro _ d; cases d <;> rfl), List.countP_map]
  dsimp only
  rw [Nat.zero_add]
  exact List.countP_congr fun l _ => by simp [Listener.push_snd_eq_inactive_iff]

/-- Every push has one outcome, so the report's three counts add up to the pushes. -/
theorem deliver_outcomes :
    (r.deliver item).2.delivered + (r.deliver item).2.disconnected + (r.deliver item).2.inactive =
      r.memberListeners.length := by
  rw [deliver_report distinct]
  have total := BroadcastReport.foldl_add_count
    (fun report => report.delivered + report.disconnected + report.inactive) (fun _ => true)
    (by intro report d; cases d <;> simp [BroadcastReport.add] <;> omega)
    (r.memberListeners.map fun l => (l.push item).2) {}
  simpa using total

/-- After a broadcast the active listeners are those that took the event. -/
theorem activeCount_deliver : (r.deliver item).1.activeCount = (r.deliver item).2.delivered := by
  rw [activeCount_eq_countP, deliver_memberListeners distinct, List.countP_map,
    deliver_delivered distinct]
  exact List.countP_congr fun l _ => by simp [Listener.isActive_push]

end Counts

/-- A broadcast goes ahead exactly when no listener stalls it, and then it delivers. -/
theorem broadcast_eq_ok {report : BroadcastReport} (ok : r.broadcast item = .ok (r', report)) :
    (r', report) = r.deliver item := by
  unfold broadcast at ok
  split at ok
  · cases ok
  · exact (Except.ok.inj ok).symm

/-! ## Collecting, closing -/

/-- Whether the listener under `id` is active; a collection keeps exactly these ids. -/
theorem collect_members :
    r.collect.1.members = r.members.filter fun id => (r.find? id).any (·.isActive) := rfl

theorem collect_count :
    r.collect.2 = r.len - (r.members.filter fun id => (r.find? id).any (·.isActive)).length := rfl

/-- The listeners a collection keeps are the active ones, in registration order. -/
theorem collect_memberListeners :
    r.collect.1.memberListeners = r.memberListeners.filter (·.isActive) := by
  have same : r.collect.1.find? = r.find? := funext fun _ => collect_find? _
  unfold memberListeners
  rw [same, collect_members, List.filter_filterMap, List.filterMap_filter]
  apply List.filterMap_congr
  intro id _
  cases r.find? id <;> simp [Option.filter]

/-- A collection keeps the active listeners, in registration order, and only them. -/
theorem collect_snapshot : r.collect.1.snapshot = r.snapshot.filter (·.2) := by
  unfold snapshot
  rw [collect_memberListeners, List.filter_map]
  rfl

/-- A collection removes as many listeners as were inactive. -/
theorem collect_removed : r.collect.2 = r.len - r.activeCount := by
  -- every kept id names a listener, so the kept ids count the kept listeners
  have kept : (r.members.filter fun id => (r.find? id).any (·.isActive)).length = r.activeCount := by
    have counted := congrArg List.length (collect_memberListeners (r := r))
    have same : r.collect.1.find? = r.find? := funext fun _ => collect_find? _
    unfold memberListeners at counted
    rw [same, collect_members, List.length_filterMap_eq_countP,
      List.countP_eq_length.mpr] at counted
    · exact counted
    · intro id member
      have active := (List.mem_filter.mp member).2
      cases found : r.find? id <;> simp_all
  rw [collect_count, kept]

/-- A registry whose registered listeners are all active is left as it is by a collection. -/
theorem collect_of_active (active : ∀ id ∈ r.members, (r.find? id).any (·.isActive)) :
    r.collect = (r, 0) := by
  have kept : (r.members.filter fun id => (r.find? id).any (·.isActive)) = r.members :=
    List.filter_eq_self.mpr active
  simp only [collect, kept, Nat.sub_self]

/-- A second collection removes nothing and changes nothing. -/
theorem collect_collect : r.collect.1.collect = (r.collect.1, 0) :=
  collect_of_active fun id member => by
    rw [collect_find?]
    rw [collect_members] at member
    exact (List.mem_filter.mp member).2

theorem closeAll_find? (id : Nat) :
    r.closeAll.find? id = if id ∈ r.members then (r.find? id).map Listener.close else r.find? id := by
  suffices foldl : ∀ (ids : List Nat) (r : Registry α), (ids.foldl (fun acc j => acc.close j) r).find? id =
      if id ∈ ids then (r.find? id).map Listener.close else r.find? id from foldl r.members r
  intro ids
  induction ids with
  | nil => simp
  | cons j rest ih =>
      intro r
      rw [List.foldl_cons, ih, close, find?_modify j id Listener.close fun _ same => same]
      -- closing a listener twice closes it once
      by_cases same : id = j
      · subst same
        cases r.find? id <;> simp
      · simp [same]

@[simp] theorem len_closeAll : r.closeAll.len = 0 := rfl

/-- What a broadcast that goes ahead reports, for a registry whose distinct registered ids each
name a listener: each registered listener counted once, by its state before the broadcast, and a
collection due exactly when the broadcast leaves fewer listeners active than registered, which is
exactly when collecting then removes one. -/
theorem Listed.broadcast_report (listed : r.Listed) (distinct : r.members.Nodup)
    {report : BroadcastReport} (ok : r.broadcast item = .ok (r', report)) :
    report.delivered + report.disconnected + report.inactive = r.len ∧
    report.inactive = r.len - r.activeCount ∧
    report.droppedOldest =
      r.memberListeners.countP (fun l => l.isActive && l.isFull && l.policy == .dropOldest) ∧
    report.disconnected =
      r.memberListeners.countP (fun l => l.isActive && l.isFull && l.policy.disconnectsWhenFull) ∧
    r'.eventsBroadcast = r.eventsBroadcast + 1 ∧
    (report.needsCollection = true ↔ r'.activeCount < r'.len) ∧
    (report.needsCollection = true ↔ 0 < r'.collect.2) := by
  obtain ⟨rfl, rfl⟩ := Prod.ext_iff.mp (broadcast_eq_ok ok)
  have outcomes : (r.deliver item).2.delivered + (r.deliver item).2.disconnected +
      (r.deliver item).2.inactive = r.len :=
    (deliver_outcomes distinct).trans listed.length_memberListeners
  have active : (r.deliver item).1.activeCount = (r.deliver item).2.delivered :=
    activeCount_deliver distinct
  have removed := collect_removed (r := (r.deliver item).1)
  have bounded := activeCount_le_len (r := (r.deliver item).1)
  refine ⟨outcomes, ?_, deliver_droppedOldest distinct, deliver_disconnected distinct, rfl, ?_, ?_⟩
  · rw [deliver_inactive distinct, listed.countP_closed]
  -- after it, the listeners still active are those that took the event
  all_goals
    simp only [BroadcastReport.needsCollection, Bool.or_eq_true, decide_eq_true_eq, len_deliver]
      at removed ⊢
    omega

/-! ## The shape every run keeps -/

theorem listed_withPolicy (capacity : Nat) (policy : OverflowPolicy) :
    (withPolicy capacity policy : Registry α).Listed :=
  fun _ member => absurd member List.not_mem_nil

/-- An operation that keeps the registry keeps every registered id naming a listener. -/
theorem Listed.keeps (listed : r.Listed) (keeps : r.Keeps r') : r'.Listed := by
  intro id member
  obtain ⟨l, found⟩ := Option.isSome_iff_exists.mp (listed id (keeps.members.subset member))
  obtain ⟨l', found', -⟩ := keeps.evolves id l found
  simp [found']

theorem Listed.registerWith (ordered : r.Ordered) (listed : r.Listed) (capacity : Nat)
    (policy : OverflowPolicy) : (r.registerWith capacity policy).1.Listed := by
  intro id member
  rw [registerWith_find? ordered]
  split
  · rfl
  · rename_i old
    simp only [Registry.registerWith, List.mem_append, List.mem_singleton] at member
    exact member.resolve_right old |> listed id

@[simp] theorem close_members (id : Nat) : (r.close id).members = r.members := rfl

@[simp] theorem take_members (id : Nat) : (r.take id).1.members = r.members := by
  unfold take
  split <;> rfl

@[simp] theorem drain_members (id : Nat) : (r.drain id).1.members = r.members := by
  unfold drain
  split <;> rfl

theorem broadcast_members {report : BroadcastReport} (ok : r.broadcast item = .ok (r', report)) :
    r'.members = r.members := by
  rw [show r' = (r.deliver item).1 from congrArg Prod.fst (broadcast_eq_ok ok), deliver_members]

end Registry

namespace Bus

namespace Session

variable {α : Type} {s : Session α}

/-! ## Steps that keep the registered listeners -/

theorem withListener_members {id : Nat} {f : Listener α → Session α × Outcome α}
    (keeps : ∀ l, s.registry.find? id = some l → (f l).1.registry.members = s.registry.members) :
    (s.withListener id f).1.registry.members = s.registry.members := by
  unfold withListener
  split
  · split
    · rename_i l found
      exact keeps l found
    · rfl
  · rfl

theorem broadcast_members (item : α) :
    (s.broadcast item).1.registry.members = s.registry.members := by
  unfold Session.broadcast
  split
  · rename_i registry report ok
    exact Registry.broadcast_members ok
  · rfl

theorem broadcastAfter_members (l : Listener α) (item : α)
    {first : Registry α → Registry α × Option (Listener.Taken α)}
    (keeps : (first s.registry).1.members = s.registry.members) :
    (s.broadcastAfter l item first).1.registry.members = s.registry.members := by
  unfold broadcastAfter
  generalize first s.registry = result at keeps ⊢
  obtain ⟨registry, taken⟩ := result
  split
  · rfl
  · dsimp only
    split
    · rfl
    · split
      · rename_i registry' report ok
        exact (Registry.broadcast_members ok).trans keeps
      · rfl

/-- No step but a registration, a collection or closing all listeners changes which listeners
are registered: closing one, by any route, and a broadcast that disconnects some keep them. -/
theorem step_members :
    ∀ op : Op α, (∀ capacity policy, op ≠ .register capacity policy) → op ≠ .collect →
      op ≠ .closeAll → (s.step op).1.registry.members = s.registry.members
  | .register capacity policy, other, _, _ => absurd rfl (other capacity policy)
  | .collect, _, other, _ => absurd rfl other
  | .closeAll, _, _, other => absurd rfl other
  | .broadcast item, _, _, _ => broadcast_members item
  | .close id, _, _, _ | .closeListener id, _, _, _ | .drop id, _, _, _ =>
      withListener_members fun _ _ => Registry.close_members id
  | .tryRecv id, _, _, _ | .recv id, _, _, _ =>
      withListener_members fun _ _ => Registry.take_members id
  | .intoStream id, _, _, _ =>
      withListener_members fun _ _ => (Registry.close_members id).trans (Registry.drain_members id)
  | .len, _, _, _ | .isEmpty, _, _, _ | .activeCount, _, _, _ | .eventsBroadcast, _, _, _
  | .snapshot, _, _, _ | .debugRegistry, _, _, _ => rfl
  | .queued _, _, _, _ | .isActive _, _, _, _ | .debugListener _, _, _, _ | .handle _, _, _, _ =>
      withListener_members fun _ _ => rfl
  | .broadcastThenRecv id item, _, _, _ =>
      withListener_members fun l _ => broadcastAfter_members l item (Registry.take_members id)
  | .broadcastThenClose id item, _, _, _ =>
      withListener_members fun l _ => broadcastAfter_members l item (Registry.close_members id)

/-! ## Every run keeps the shape -/

theorem listed_step (ordered : s.registry.Ordered) (listed : s.registry.Listed) (op : Op α) :
    (s.step op).1.registry.Listed := by
  by_cases registers : ∃ capacity policy, op = .register capacity policy
  · obtain ⟨capacity, policy, rfl⟩ := registers
    rw [(step_register (s := s) capacity policy).1]
    exact listed.registerWith ordered _ _
  · simp only [not_exists] at registers
    exact listed.keeps (quiet_step ordered op registers).1

theorem exec_listed (ordered : s.registry.Ordered) (listed : s.registry.Listed) (ops : List (Op α)) :
    (s.exec ops).registry.Listed := by
  induction ops generalizing s with
  | nil => exact listed
  | cons op rest ih =>
      have ordered' : (s.step op).1.registry.Ordered := (exec_ordered ordered [op]).2.1
      exact ih ordered' (listed_step ordered listed op)

/-- What broadcasting, collecting and closing do to every registry that a run of operations
reaches.

A broadcast that goes ahead (no active, full `block` listener stalls it) reports each registered
listener once: the delivered, disconnected and inactive counts add up to the registered
listeners, the inactive ones are those not active before it, evictions count the active full
`drop_oldest` listeners and disconnections the active full `disconnect` and `block_for` ones; the
broadcast count grows by one; and a collection is due exactly when fewer listeners are active
than registered after it, which is exactly when collecting then removes one.

A collection keeps the active listeners in registration order and removes the others, as many
as were inactive, and a second one changes nothing. No step but a registration, a collection or
closing all listeners changes how many listeners are registered, so closing one by any route
never does. Closing all listeners empties the registry and closes every listener that was
registered, keeping its queue. -/
theorem broadcast_report_counts_every_listener (capacity : Nat) (policy : OverflowPolicy)
    (ops : List (Op α)) :
    let s := (start (Registry.withPolicy capacity policy : Registry α)).exec ops
    (∀ item r' report, s.registry.broadcast item = .ok (r', report) →
      report.delivered + report.disconnected + report.inactive = s.registry.len ∧
      report.inactive = s.registry.len - s.registry.activeCount ∧
      report.droppedOldest = s.registry.memberListeners.countP
        (fun l => l.isActive && l.isFull && l.policy == .dropOldest) ∧
      report.disconnected = s.registry.memberListeners.countP
        (fun l => l.isActive && l.isFull && l.policy.disconnectsWhenFull) ∧
      r'.eventsBroadcast = s.registry.eventsBroadcast + 1 ∧
      (report.needsCollection = true ↔ r'.activeCount < r'.len) ∧
      (report.needsCollection = true ↔ 0 < r'.collect.2)) ∧
    s.registry.collect.1.snapshot = s.registry.snapshot.filter (·.2) ∧
    s.registry.collect.2 = s.registry.len - s.registry.activeCount ∧
    s.registry.collect.1.collect = (s.registry.collect.1, 0) ∧
    (∀ op : Op α, (∀ capacity policy, op ≠ .register capacity policy) → op ≠ .collect →
      op ≠ .closeAll → (s.step op).1.registry.len = s.registry.len) ∧
    s.registry.closeAll.len = 0 ∧
    ∀ id ∈ s.registry.members, ∃ l, s.registry.find? id = some l ∧
      s.registry.closeAll.find? id = some l.close := by
  intro s
  have start : (Registry.withPolicy capacity policy : Registry α).Ordered :=
    Registry.ordered_withPolicy capacity policy
  have ordered : s.registry.Ordered := (exec_ordered start ops).2.1
  have listed : s.registry.Listed := exec_listed start (Registry.listed_withPolicy _ _) ops
  refine ⟨fun item r' report ok => listed.broadcast_report ordered.nodup ok,
    Registry.collect_snapshot, Registry.collect_removed, Registry.collect_collect,
    fun op registers collects clears => congrArg List.length (step_members op registers collects clears),
    Registry.len_closeAll, fun id member => ?_⟩
  -- every registered id names a listener, which closing all listeners closes
  obtain ⟨l, found⟩ := Option.isSome_iff_exists.mp (listed id member)
  exact ⟨l, found, by rw [Registry.closeAll_find?, if_pos member, found]; rfl⟩

/-- Three full listeners, one under each policy that does not wait forever: the broadcast evicts
from one and disconnects the other two. -/
theorem broadcast_report_counts_every_listener_of_full_listeners :
    let s := (start (Registry.withPolicy 1 .disconnect : Registry Nat)).exec
      [.register none none, .register (some 1) (some .dropOldest),
        .register (some 1) (some (.blockFor (Duration.ofMillis 10))), .broadcast 1]
    s.registry.broadcast 2 = .ok (s.registry.deliver 2) ∧
      (s.registry.deliver 2).2 = { delivered := 1, droppedOldest := 1, disconnected := 2 } ∧
      (s.registry.deliver 2).2.droppedOldest = s.registry.memberListeners.countP
        (fun l => l.isActive && l.isFull && l.policy == .dropOldest) ∧
      (s.registry.deliver 2).2.disconnected = s.registry.memberListeners.countP
        (fun l => l.isActive && l.isFull && l.policy.disconnectsWhenFull) ∧
      ((s.registry.deliver 2).2.needsCollection = true ↔ 0 < (s.registry.deliver 2).1.collect.2) := by
  intro s
  have ok : s.registry.broadcast 2 = .ok (s.registry.deliver 2) := rfl
  obtain ⟨-, -, dropped, disconnected, -, -, due⟩ :=
    (broadcast_report_counts_every_listener 1 .disconnect _).1 2 _ _ ok
  exact ⟨ok, by decide, dropped, disconnected, due⟩

end Session

end Bus

end Switchboard
