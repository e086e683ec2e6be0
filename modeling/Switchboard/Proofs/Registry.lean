import Switchboard.Bus.Registry
import Mathlib

/-!
# Broadcasting to listeners

How a broadcast changes a registry. Looking a listener up after changing one listener finds the
change only under that listener's id (`find?_modify`); a broadcast pushes once to each registered
listener and to no other (`deliver_find?`, `publish_find?`), as long as the registered ids are
distinct, which every registry operation keeps (`Wf`). A collection removes only closed
listeners, so a listener that a run of broadcasts leaves open is still registered.

The main statement, `foldl_publish_listener`: a registered listener that never evicts ends any run
of broadcasts closed, or holding exactly what it held before followed by every broadcast event,
in order.
-/

namespace Switchboard

namespace Listener

variable {α : Type} {l : Listener α} {item : α}

@[simp] theorem push_id : (l.push item).1.id = l.id := by
  unfold push
  split
  · rfl
  · split
    · split <;> rfl
    · rfl

theorem push_of_closed (closed : l.closed = true) : l.push item = (l, .inactive) := by
  simp [push, closed]

/-- A listener that never evicts and is still open after a push took the event at the end of its
queue: a full one under `block` takes it too, and any other full one is closed. -/
theorem push_of_isActive (keeps : l.policy ≠ .dropOldest) (open_ : (l.push item).1.isActive) :
    (l.push item).1 = { l with items := l.items ++ [item] } := by
  unfold push at open_ ⊢
  by_cases closed : l.closed
  · simp [closed, isActive] at open_
  by_cases full : l.isFull
  · simp only [closed, full, if_true, Bool.false_eq_true, if_false] at open_ ⊢
    cases policy : l.policy with
    | block => rfl
    | blockFor bound => simp [policy, close, isActive] at open_
    | dropOldest => exact absurd policy keeps
    | disconnect => simp [policy, close, isActive] at open_
  · simp [closed, full]

end Listener

namespace Registry

variable {α : Type} {r : Registry α}

theorem id_of_find? {id : Nat} {l : Listener α} (found : r.find? id = some l) : l.id = id := by
  simpa using List.find?_some found

@[simp] theorem modify_members (id : Nat) (f : Listener α → Listener α) :
    (r.modify id f).members = r.members := rfl

@[simp] theorem modify_nextId (id : Nat) (f : Listener α → Listener α) :
    (r.modify id f).nextId = r.nextId := rfl

/-- Changing the listener with id `id`, by a change that keeps its id, is seen under that id
only. -/
theorem find?_modify (id j : Nat) (f : Listener α → Listener α)
    (keeps : ∀ l, l.id = id → (f l).id = id) :
    (r.modify id f).find? j = if j = id then (r.find? id).map f else r.find? j := by
  unfold find? modify
  rw [List.find?_map]
  -- the changed listeners answer the search for `j` exactly as before
  have search :
      ((·.id == j) ∘ fun l : Listener α => if l.id == id then f l else l) = (·.id == j) := by
    funext l
    by_cases hl : l.id = id
    · simp [hl, keeps l hl]
    · simp [hl]
  rw [search]
  cases found : r.listeners.find? (·.id == j) with
  | none =>
      by_cases same : j = id
      · subst same
        simp [found]
      · simp [same]
  | some l =>
      have hl : l.id = j := by simpa using List.find?_some found
      by_cases same : j = id
      · subst same
        simp [found, hl]
      · simp [same, hl]

/-! ### One broadcast -/

variable {item : α}

@[simp] theorem pushTo_members (acc : Registry α × BroadcastReport) (id : Nat) :
    (pushTo item acc id).1.members = acc.1.members := by
  unfold pushTo
  split <;> rfl

@[simp] theorem pushTo_nextId (acc : Registry α × BroadcastReport) (id : Nat) :
    (pushTo item acc id).1.nextId = acc.1.nextId := by
  unfold pushTo
  split <;> rfl

/-- Pushing to `id` changes the listener with that id, by pushing to it, and no other. -/
theorem pushTo_find? (acc : Registry α × BroadcastReport) (id j : Nat) :
    (pushTo item acc id).1.find? j =
      if j = id then (acc.1.find? id).map (fun l => (l.push item).1) else acc.1.find? j := by
  unfold pushTo
  cases found : acc.1.find? id with
  | none =>
      by_cases same : j = id
      · subst same
        simp [found]
      · simp [same]
  | some l =>
      have hl := id_of_find? found
      have keeps : ∀ other : Listener α, other.id = id → (l.push item).1.id = id :=
        fun _ _ => by simp [hl]
      simp only
      rw [find?_modify id j _ keeps, found]
      rfl

@[simp] theorem foldl_pushTo_members (ids : List Nat) (acc : Registry α × BroadcastReport) :
    (ids.foldl (pushTo item) acc).1.members = acc.1.members := by
  induction ids generalizing acc with
  | nil => rfl
  | cons id rest ih => rw [List.foldl_cons, ih, pushTo_members]

@[simp] theorem foldl_pushTo_nextId (ids : List Nat) (acc : Registry α × BroadcastReport) :
    (ids.foldl (pushTo item) acc).1.nextId = acc.1.nextId := by
  induction ids generalizing acc with
  | nil => rfl
  | cons id rest ih => rw [List.foldl_cons, ih, pushTo_nextId]

/-- Pushing to each of distinct ids pushes once to each listener among them. -/
theorem foldl_pushTo_find? (ids : List Nat) (distinct : ids.Nodup)
    (acc : Registry α × BroadcastReport) (j : Nat) :
    (ids.foldl (pushTo item) acc).1.find? j =
      if j ∈ ids then (acc.1.find? j).map (fun l => (l.push item).1) else acc.1.find? j := by
  induction ids generalizing acc with
  | nil => simp
  | cons id rest ih =>
      obtain ⟨fresh, distinct⟩ := List.nodup_cons.mp distinct
      rw [List.foldl_cons, ih distinct, pushTo_find?]
      by_cases same : j = id
      · subst same
        simp [fresh]
      · simp [same]

@[simp] theorem deliver_members : (r.deliver item).1.members = r.members := by
  simp [deliver]

@[simp] theorem deliver_nextId : (r.deliver item).1.nextId = r.nextId := by
  simp [deliver]

theorem deliver_find? (distinct : r.members.Nodup) (j : Nat) :
    (r.deliver item).1.find? j =
      if j ∈ r.members then (r.find? j).map (fun l => (l.push item).1) else r.find? j := by
  simp only [deliver]
  exact foldl_pushTo_find? r.members distinct (r, {}) j

@[simp] theorem collect_find? (j : Nat) : r.collect.1.find? j = r.find? j := rfl

@[simp] theorem collect_nextId : r.collect.1.nextId = r.nextId := rfl

theorem mem_collect_members {j : Nat} :
    j ∈ r.collect.1.members ↔ j ∈ r.members ∧ (r.find? j).any (·.isActive) := by
  simp [collect]

theorem collect_members_sublist : r.collect.1.members.Sublist r.members := by
  simp [collect]

theorem publish_eq :
    r.publish item =
      if (r.deliver item).2.needsCollection then (r.deliver item).1.collect.1
      else (r.deliver item).1 :=
  rfl

/-- A broadcast reaches every registered listener once and no other. -/
theorem publish_find? (distinct : r.members.Nodup) (j : Nat) :
    (r.publish item).find? j =
      if j ∈ r.members then (r.find? j).map (fun l => (l.push item).1) else r.find? j := by
  rw [publish_eq]
  split <;> simp only [collect_find?, deliver_find? distinct]

theorem publish_members_sublist : (r.publish item).members.Sublist r.members := by
  rw [publish_eq]
  split
  · simpa using @collect_members_sublist _ (r.deliver item).1
  · simp

/-- A collection removes only inactive listeners. -/
theorem mem_publish_members {j : Nat} (member : j ∈ r.members)
    (active : ((r.publish item).find? j).any (·.isActive)) : j ∈ (r.publish item).members := by
  rw [publish_eq] at active ⊢
  by_cases due : (r.deliver item).2.needsCollection
  · rw [if_pos due] at active ⊢
    exact mem_collect_members.mpr ⟨by simpa using member, by simpa using active⟩
  · rw [if_neg due]
    simpa using member

/-! ### Registered ids are distinct -/

/-- The registered ids are distinct and each below the next id, so a new listener's id is
fresh. -/
structure Wf (r : Registry α) : Prop where
  members_nodup : r.members.Nodup
  members_lt : ∀ id ∈ r.members, id < r.nextId

theorem wf_withPolicy (capacity : Nat) (policy : OverflowPolicy) :
    (withPolicy capacity policy : Registry α).Wf :=
  ⟨List.nodup_nil, fun _ member => absurd member List.not_mem_nil⟩

/-- Fewer registered ids, under an id bound no lower, keep the invariant. -/
theorem Wf.of_sublist {r' : Registry α} (wf : r.Wf) (members : r'.members.Sublist r.members)
    (next : r.nextId ≤ r'.nextId) : r'.Wf where
  members_nodup := wf.members_nodup.sublist members
  members_lt := fun id member => Nat.lt_of_lt_of_le (wf.members_lt id (members.subset member)) next

theorem Wf.registerWith (wf : r.Wf) (capacity : Nat) (policy : OverflowPolicy) :
    (r.registerWith capacity policy).1.Wf := by
  have members : (r.registerWith capacity policy).1.members = r.members ++ [r.nextId] := rfl
  have next : (r.registerWith capacity policy).1.nextId = r.nextId + 1 := rfl
  constructor
  · rw [members, List.nodup_append]
    refine ⟨wf.members_nodup, List.nodup_singleton _, ?_⟩
    intro old registered new added same
    simp only [List.mem_singleton] at added
    exact Nat.ne_of_lt (wf.members_lt old registered) (same.trans added)
  · intro id member
    rw [members] at member
    rw [next]
    rcases List.mem_append.mp member with old | new
    · exact Nat.lt_succ_of_lt (wf.members_lt id old)
    · simp only [List.mem_singleton] at new
      simp [new]

theorem Wf.register (wf : r.Wf) : r.register.1.Wf := wf.registerWith _ _

theorem Wf.modify (wf : r.Wf) (id : Nat) (f : Listener α → Listener α) : (r.modify id f).Wf :=
  ⟨wf.members_nodup, wf.members_lt⟩

theorem Wf.close (wf : r.Wf) (id : Nat) : (r.close id).Wf := wf.modify id _

theorem Wf.collect (wf : r.Wf) : r.collect.1.Wf :=
  wf.of_sublist collect_members_sublist (Nat.le_refl _)

theorem Wf.deliver (wf : r.Wf) (item : α) : (r.deliver item).1.Wf :=
  wf.of_sublist (by simp) (by simp)

theorem Wf.publish (wf : r.Wf) (item : α) : (r.publish item).Wf := by
  rw [publish_eq]
  split
  · exact (wf.deliver item).collect
  · exact wf.deliver item

theorem foldl_close_nextId (ids : List Nat) (r : Registry α) :
    (ids.foldl (fun acc id => acc.close id) r).nextId = r.nextId := by
  induction ids generalizing r with
  | nil => rfl
  | cons id rest ih => rw [List.foldl_cons, ih]; rfl

theorem Wf.closeAll (wf : r.Wf) : r.closeAll.Wf :=
  wf.of_sublist (List.nil_sublist _) (Nat.le_of_eq (foldl_close_nextId r.members r).symm)

theorem Wf.take (wf : r.Wf) (id : Nat) : (r.take id).1.Wf := by
  unfold Registry.take
  split
  · exact wf.modify id _
  · exact wf

theorem Wf.drain (wf : r.Wf) (id : Nat) : (r.drain id).1.Wf := by
  unfold Registry.drain
  split
  · exact wf.modify id _
  · exact wf

/-! ### A run of broadcasts -/

/-- A closed listener stays as it is, whatever is broadcast. -/
theorem foldl_publish_of_closed (events : List α) (distinct : r.members.Nodup) {id : Nat}
    {l : Listener α} (found : r.find? id = some l) (closed : l.closed = true) :
    (events.foldl publish r).find? id = some l := by
  induction events generalizing r with
  | nil => exact found
  | cons event rest ih =>
      apply ih (distinct.sublist (@publish_members_sublist _ r event))
      rw [publish_find? distinct, found]
      split <;> simp [Listener.push_of_closed closed]

/-- A registered listener that never evicts ends a run of broadcasts closed, or holding what it
held before with every broadcast event after it, in order. -/
theorem foldl_publish_listener (events : List α) (distinct : r.members.Nodup) {id : Nat}
    {l : Listener α} (member : id ∈ r.members) (found : r.find? id = some l)
    (keeps : l.policy ≠ .dropOldest) :
    ((events.foldl publish r).find? id).any (·.closed) ∨
      (events.foldl publish r).find? id = some { l with items := l.items ++ events } := by
  induction events generalizing r l with
  | nil => exact .inr (by simpa using found)
  | cons event rest ih =>
      have pushed : (r.publish event).find? id = some (l.push event).1 := by
        simp [publish_find? distinct, member, found]
      have distinct' := distinct.sublist (@publish_members_sublist _ r event)
      rw [List.foldl_cons]
      by_cases active : (l.push event).1.isActive
      · -- the event went to the end of the queue, and the listener is still registered
        have grown := Listener.push_of_isActive keeps active
        have stays : id ∈ (r.publish event).members :=
          mem_publish_members member (by simp [pushed, active])
        rw [grown] at pushed
        rcases ih distinct' stays pushed keeps with closed | holds
        · exact .inl closed
        · exact .inr (by simpa using holds)
      · -- the push closed the listener, or it was closed already
        have closed : (l.push event).1.closed = true := by simpa [Listener.isActive] using active
        left
        simp [foldl_publish_of_closed rest distinct' pushed closed, closed]

end Registry

end Switchboard
