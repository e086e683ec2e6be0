import Switchboard.Proofs.Table

/-!
# The laws of the correlation table

A correlation table holds at most one pending call per token, and each call is told apart from
every other by its registration number, which no later call ever takes again. From these two facts
the table's promises follow for every order of steps: a second registration of a pending token is
refused without touching the first; a reply goes to the one call pending under its token and to
no other; a caller who gives up withdraws only its own registration, never a later call that
reuses its token; each call is answered at most once, by a reply that carries its token and
arrived while the call was pending; and once the table is cleared, a caller still waiting learns
that the client stopped.

A session holds the calls its steps registered in slots. `Session.Moves` says once what a step
can do; the shape a session keeps (`Session.Wf`) and the run invariant `Settled` (a registration
that is neither pending nor going to be drawn again never receives another reply) are proved from
it, one case per move, and the laws follow.
-/

namespace Switchboard

namespace Correlation

namespace Session

variable {s s' : Session}

/-- The session after running the steps in order. -/
def exec (s : Session) : List Op → Session
  | [] => s
  | op :: rest => (s.step op).1.exec rest

/-- The calls still held, slot by slot. -/
def calls (s : Session) : List Call := s.slots.filterMap id

/-- The calls held depend on the slots only. -/
@[simp] theorem calls_mk (table : CorrelationTable) : (Session.mk table s.slots).calls = s.calls :=
  rfl

theorem held_eq_some {slot : Nat} {call : Call} :
    s.held slot = some call ↔ s.slots[slot]? = some (some call) := by
  unfold held
  cases s.slots[slot]? <;> simp

theorem mem_calls {call : Call} : call ∈ s.calls ↔ ∃ slot, s.held slot = some call := by
  have present : call ∈ s.calls ↔ some call ∈ s.slots := by simp [calls]
  simp only [present, List.mem_iff_getElem?, held_eq_some]

theorem held_mem_calls {slot : Nat} {call : Call} (held : s.held slot = some call) :
    call ∈ s.calls :=
  mem_calls.mpr ⟨slot, held⟩

@[simp] theorem release_table (slot : Nat) : (s.release slot).table = s.table := rfl

theorem held_release (slot other : Nat) :
    (s.release slot).held other = if slot = other then none else s.held other := by
  unfold held release
  by_cases same : slot = other
  · subst same
    rw [List.getElem?_set_self']
    cases s.slots[slot]? <;> simp
  · simp [same, List.getElem?_set_ne same]

/-- Letting go of a slot keeps the calls held elsewhere and only those. -/
theorem mem_calls_release {slot : Nat} {call : Call} :
    call ∈ (s.release slot).calls ↔ ∃ other, other ≠ slot ∧ s.held other = some call := by
  rw [mem_calls]
  constructor
  · rintro ⟨other, found⟩
    rw [held_release] at found
    split at found
    · cases found
    · exact ⟨other, fun same => by simp_all, found⟩
  · rintro ⟨other, different, found⟩
    exact ⟨other, by rw [held_release, if_neg (Ne.symm different)]; exact found⟩

private theorem filterMap_set_none_sublist (slots : List (Option Call)) (slot : Nat) :
    ((slots.set slot none).filterMap id).Sublist (slots.filterMap id) := by
  induction slots generalizing slot with
  | nil => simp
  | cons head rest ih =>
      cases slot with
      | zero =>
          cases head with
          | none => simp
          | some call =>
              rw [List.set_cons_zero, List.filterMap_cons_none rfl,
                List.filterMap_cons_some (rfl : id (some call) = some call)]
              exact List.sublist_cons_self _ _
      | succ slot =>
          rw [List.set_cons_succ]
          cases head with
          | none => simpa [List.filterMap_cons_none] using ih slot
          | some call =>
              have held : id (some call) = some call := rfl
              rw [List.filterMap_cons_some held, List.filterMap_cons_some held]
              exact (ih slot).cons_cons call

theorem calls_release_sublist (slot : Nat) : (s.release slot).calls.Sublist s.calls :=
  filterMap_set_none_sublist s.slots slot

/-! ## What one step can do -/

/-- What one step can do to a session: nothing, a registration or its refusal, a reply handed to
the table, a held call waited on or given up, or the table cleared. -/
inductive Moves (s : Session) : Session → Prop
  | stay : Moves s s
  | register (token typeName : String) (call : Call) :
      (s.table.register token typeName).2 = .ok call →
      Moves s { table := (s.table.register token typeName).1, slots := s.slots ++ [some call] }
  | refuse (token typeName : String) (problem : ClientError) :
      (s.table.register token typeName).2 = .error problem →
      Moves s { s with table := (s.table.register token typeName).1 }
  | complete (reply : Envelope) : Moves s { s with table := (s.table.complete reply).1 }
  | wait (slot : Nat) (call : Call) (after : Duration) : s.held slot = some call →
      Moves s ({ s with table := (s.table.wait call after).1 }.release slot)
  | cancel (slot : Nat) (call : Call) : s.held slot = some call →
      Moves s ({ s with table := s.table.cancel call }.release slot)
  | clear : Moves s { s with table := s.table.clear }

/-- Reading what a slot holds leaves the session as it was. -/
@[simp] theorem step_token_session (slot : Nat) : (s.step (.token slot)).1 = s := by
  cases held : s.held slot <;> simp [step, withSlot, held]

@[simp] theorem step_debugSlot_session (slot : Nat) : (s.step (.debugSlot slot)).1 = s := by
  cases held : s.held slot <;> simp [step, withSlot, held]

theorem moves_step (s : Session) (op : Op) : Moves s (s.step op).1 := by
  cases op with
  | register token typeName =>
      rcases registered : s.table.register token typeName with ⟨table, result⟩
      cases result with
      | ok call =>
          have move : Moves s _ := Moves.register token typeName call (by rw [registered])
          simpa [step, registered] using move
      | error problem =>
          have move : Moves s _ := Moves.refuse token typeName problem (by rw [registered])
          simpa [step, registered] using move
  | complete raw =>
      cases read : Envelope.ofBytes raw with
      | ok reply => simpa [step, read] using Moves.complete reply
      | error problem => simpa [step, read] using Moves.stay
  | wait slot after =>
      cases held : s.held slot with
      | none => simpa [step, withSlot, held] using Moves.stay
      | some call =>
          have move := Moves.wait slot call after held
          rcases waited : s.table.wait call after with ⟨table, result⟩
          rw [waited] at move
          cases result <;> simpa [step, withSlot, held, waited] using move
  | cancel slot =>
      cases held : s.held slot with
      | none => simpa [step, withSlot, held] using Moves.stay
      | some call => simpa [step, withSlot, held] using Moves.cancel slot call held
  | token slot => simpa using Moves.stay
  | debugSlot slot => simpa using Moves.stay
  | clear => exact Moves.clear
  | pendingCount => exact Moves.stay
  | isPending token => exact Moves.stay
  | stats => exact Moves.stay
  | debug => exact Moves.stay

/-- A call held in another slot than the one let go of is still held. -/
theorem mem_calls_release_of_ne {slot : Nat} {call other : Call} (held : s.held slot = some call)
    (member : other ∈ s.calls) (different : other ≠ call) : other ∈ (s.release slot).calls := by
  obtain ⟨place, found⟩ := mem_calls.mp member
  refine mem_calls_release.mpr ⟨place, fun same => ?_, found⟩
  subst same
  exact different (Option.some.inj (found.symm.trans held))

/-! ## The shape a session keeps -/

/-- A session keeps a well-formed table in which every pending call and every handed-over reply
belongs to a call some slot still holds, the held calls carrying distinct registration numbers
already drawn. -/
structure Wf (s : Session) : Prop where
  table : s.table.Wf
  held_nodup : (s.calls.map (·.registration)).Nodup
  held_lt : ∀ call ∈ s.calls, call.registration < s.table.nextRegistration
  pending_held : ∀ call ∈ s.table.pending, call ∈ s.calls
  answered_held : ∀ entry ∈ s.table.delivered,
    ∃ call ∈ s.calls, call.registration = entry.1 ∧ call.token = entry.2.extra

theorem wf_empty : ({} : Session).Wf where
  table := CorrelationTable.wf_empty
  held_nodup := by simp [calls]
  held_lt := by simp [calls]
  pending_held := by simp
  answered_held := by simp

/-- Two held calls with one registration number are the same call. -/
theorem Wf.eq_of_registration (wf : s.Wf) {call other : Call} (member : call ∈ s.calls)
    (otherMember : other ∈ s.calls) (same : call.registration = other.registration) :
    call = other :=
  List.inj_on_of_nodup_map wf.held_nodup member otherMember same

/-- Erasing a held call from the pending list removes every pending call with its number. -/
theorem Wf.mem_erase {slot : Nat} {call other : Call} (wf : s.Wf) (held : s.held slot = some call)
    (member : other ∈ s.table.pending.erase call) :
    other ∈ s.table.pending ∧ other.registration ≠ call.registration := by
  have kept := (wf.table.pending_nodup.mem_erase_iff).mp member
  refine ⟨kept.2, fun same => kept.1 ?_⟩
  exact wf.eq_of_registration (wf.pending_held other kept.2) (held_mem_calls held) same

/-- Letting go of a held call keeps the shape, once the table has neither that call pending nor a
reply for it. -/
theorem Wf.release {slot : Nat} {call : Call} {table : CorrelationTable} (wf : s.Wf)
    (held : s.held slot = some call) (tableWf : table.Wf)
    (pending : ∀ other ∈ table.pending,
      other ∈ s.table.pending ∧ other.registration ≠ call.registration)
    (delivered : ∀ entry ∈ table.delivered,
      entry ∈ s.table.delivered ∧ entry.1 ≠ call.registration)
    (next : table.nextRegistration = s.table.nextRegistration) :
    ({ s with table }.release slot).Wf := by
  have kept : ({ s with table }.release slot).calls.Sublist s.calls :=
    calls_release_sublist (s := s) slot
  have stillHeld : ∀ other ∈ s.calls, other.registration ≠ call.registration →
      other ∈ ({ s with table }.release slot).calls := fun other member different =>
    mem_calls_release_of_ne (s := s) held member (fun same => different (same ▸ rfl))
  refine ⟨tableWf, wf.held_nodup.sublist (kept.map _), ?_, ?_, ?_⟩
  · intro other member
    rw [release_table, next]
    exact wf.held_lt other (kept.subset member)
  · intro other waiting
    obtain ⟨old, different⟩ := pending other waiting
    exact stillHeld other (wf.pending_held other old) different
  · intro entry answered
    obtain ⟨old, different⟩ := delivered entry answered
    obtain ⟨other, member, same, token⟩ := wf.answered_held entry old
    exact ⟨other, stillHeld other member (same ▸ different), same, token⟩

/-- Every step keeps the shape of a session. -/
theorem Moves.wf (move : Moves s s') (wf : s.Wf) : s'.Wf := by
  cases move with
  | stay => exact wf
  | register token typeName call registered =>
      obtain ⟨fresh, rfl⟩ := CorrelationTable.register_ok registered
      have calls : (Session.mk (s.table.register token typeName).1
          (s.slots ++ [some ⟨token, typeName, s.table.nextRegistration⟩])).calls =
          s.calls ++ [⟨token, typeName, s.table.nextRegistration⟩] := by
        simp [Session.calls]
      refine ⟨wf.table.register token typeName, ?_, ?_, ?_, ?_⟩ <;> rw [calls]
      · simp only [List.map_append, List.map_cons, List.map_nil]
        refine List.nodup_append.mpr ⟨wf.held_nodup, List.nodup_singleton _, ?_⟩
        intro registration held other added equal
        obtain ⟨call, member, rfl⟩ := List.mem_map.mp held
        simp only [List.mem_singleton] at added
        exact Nat.ne_of_lt (wf.held_lt call member) (added ▸ equal)
      · intro call member
        simp only [CorrelationTable.register_nextRegistration]
        rcases List.mem_append.mp member with old | new
        · exact Nat.lt_succ_of_lt (wf.held_lt call old)
        · simp only [List.mem_singleton] at new
          simp [new]
      · intro call waiting
        simp only [CorrelationTable.register_pending, fresh] at waiting
        rcases List.mem_append.mp waiting with old | new
        · exact List.mem_append_left _ (wf.pending_held call old)
        · exact List.mem_append_right _ new
      · intro entry answered
        simp only [CorrelationTable.register_delivered] at answered
        obtain ⟨call, member, same, token⟩ := wf.answered_held entry answered
        exact ⟨call, List.mem_append_left _ member, same, token⟩
  | refuse token typeName problem refused =>
      obtain ⟨pending, -⟩ := CorrelationTable.register_error refused
      refine ⟨wf.table.register token typeName, wf.held_nodup, ?_, ?_, ?_⟩
      · intro call member
        simp only [CorrelationTable.register_nextRegistration]
        exact Nat.lt_succ_of_lt (wf.held_lt call member)
      · simpa [CorrelationTable.register_pending, pending] using wf.pending_held
      · simpa using wf.answered_held
  | complete reply =>
      refine ⟨wf.table.complete reply, wf.held_nodup, ?_, ?_, ?_⟩
      · simpa using wf.held_lt
      · intro call waiting
        exact wf.pending_held call ((CorrelationTable.complete_pending_sublist reply).subset waiting)
      · intro entry answered
        rcases CorrelationTable.mem_complete_delivered answered with
          old | ⟨rfl, -, call, waiting, same, token⟩
        · exact wf.answered_held entry old
        · exact ⟨call, wf.pending_held call waiting, same, token⟩
  | wait slot call after held =>
      refine wf.release held (wf.table.wait call after) ?_ ?_ (by simp)
      · intro other waiting
        rw [CorrelationTable.wait_pending] at waiting
        split at waiting
        · rename_i answered
          obtain ⟨entry, member, same⟩ := List.any_eq_true.mp answered
          have same : entry.1 = call.registration := by simpa using same
          exact ⟨waiting, same ▸ wf.table.answered_not_pending entry member other waiting⟩
        · exact wf.mem_erase held waiting
      · intro entry answered
        simp only [CorrelationTable.wait_delivered, List.mem_filter, bne_iff_ne, ne_eq] at answered
        exact answered
  | cancel slot call held =>
      refine wf.release held (wf.table.cancel call) ?_ ?_ (by simp)
      · intro other waiting
        rw [CorrelationTable.cancel_pending] at waiting
        exact wf.mem_erase held waiting
      · intro entry answered
        simp only [CorrelationTable.cancel_delivered, List.mem_filter, bne_iff_ne, ne_eq] at answered
        exact answered
  | clear =>
      exact ⟨wf.table.clear, wf.held_nodup, wf.held_lt, by simp [CorrelationTable.clear],
        wf.answered_held⟩

theorem exec_wf (ops : List Op) (wf : s.Wf) : (s.exec ops).Wf := by
  induction ops generalizing s with
  | nil => exact wf
  | cons op rest ih => exact ih ((moves_step s op).wf wf)

/-! ## Steps, one operation at a time -/

theorem step_register (token typeName : String) :
    s.step (.register token typeName) =
      match (s.table.register token typeName).2 with
      | .ok call =>
          ({ table := (s.table.register token typeName).1, slots := s.slots ++ [some call] },
            .registered s.slots.length)
      | .error problem => ({ s with table := (s.table.register token typeName).1 }, .refused problem) := by
  simp only [step]
  rcases s.table.register token typeName with ⟨table, result⟩
  cases result <;> rfl

theorem step_complete {raw : ByteArray} {reply : Envelope} (read : Envelope.ofBytes raw = .ok reply) :
    s.step (.complete raw) =
      ({ s with table := (s.table.complete reply).1 }, .flag (s.table.complete reply).2) := by
  simp [step, read]

theorem step_wait {slot : Nat} {call : Call} (held : s.held slot = some call) (after : Duration) :
    s.step (.wait slot after) =
      ({ s with table := (s.table.wait call after).1 }.release slot,
        match (s.table.wait call after).2 with
        | .ok reply => .reply reply
        | .error problem => .refused problem) := by
  simp only [step, withSlot, held]
  rcases s.table.wait call after with ⟨table, result⟩
  cases result <;> rfl

theorem step_cancel {slot : Nat} {call : Call} (held : s.held slot = some call) :
    s.step (.cancel slot) = ({ s with table := s.table.cancel call }.release slot, .done) := by
  simp [step, withSlot, held]

/-! ## Registrations that are done with -/

/-- A registration already drawn that no pending call holds any more: no reply can be handed to
it from now on. -/
def Settled (registration : Nat) (t : CorrelationTable) : Prop :=
  registration < t.nextRegistration ∧ ∀ call ∈ t.pending, call.registration ≠ registration

/-- A step keeps a registration settled and hands it no new reply. -/
theorem Moves.settled {registration : Nat} (move : Moves s s')
    (settled : Settled registration s.table) :
    Settled registration s'.table ∧
      ∀ entry ∈ s'.table.delivered, entry.1 = registration → entry ∈ s.table.delivered := by
  obtain ⟨drawn, absent⟩ := settled
  cases move with
  | stay => exact ⟨⟨drawn, absent⟩, fun entry member _ => member⟩
  | register token typeName call registered =>
      refine ⟨⟨by simp; omega, ?_⟩, fun entry member _ => by simpa using member⟩
      intro other waiting
      rw [CorrelationTable.register_pending] at waiting
      split at waiting
      · exact absent other waiting
      · rcases List.mem_append.mp waiting with old | new
        · exact absent other old
        · simp only [List.mem_singleton] at new
          subst new
          exact Nat.ne_of_gt drawn
  | refuse token typeName problem refused =>
      obtain ⟨pending, -⟩ := CorrelationTable.register_error refused
      refine ⟨⟨by simp; omega, ?_⟩, fun entry member _ => by simpa using member⟩
      simpa [CorrelationTable.register_pending, pending] using absent
  | complete reply =>
      refine ⟨⟨by simpa using drawn, ?_⟩, ?_⟩
      · intro other waiting
        exact absent other ((CorrelationTable.complete_pending_sublist reply).subset waiting)
      · intro entry answered same
        rcases CorrelationTable.mem_complete_delivered answered with
          old | ⟨-, -, call, waiting, owner, -⟩
        · exact old
        · exact absurd (owner.trans same) (absent call waiting)
  | wait slot call after held =>
      refine ⟨⟨by simpa using drawn, ?_⟩, ?_⟩
      · intro other waiting
        simp only [release_table, CorrelationTable.wait_pending] at waiting
        split at waiting
        · exact absent other waiting
        · exact absent other (List.mem_of_mem_erase waiting)
      · intro entry answered _
        simp only [release_table, CorrelationTable.wait_delivered, List.mem_filter] at answered
        exact answered.1
  | cancel slot call held =>
      refine ⟨⟨by simpa using drawn, ?_⟩, ?_⟩
      · intro other waiting
        simp only [release_table, CorrelationTable.cancel_pending] at waiting
        exact absent other (List.mem_of_mem_erase waiting)
      · intro entry answered _
        simp only [release_table, CorrelationTable.cancel_delivered, List.mem_filter] at answered
        exact answered.1
  | clear => exact ⟨⟨drawn, by simp [CorrelationTable.clear]⟩, fun entry member _ => member⟩

/-- Along any run, a settled registration stays settled and gains no reply. -/
theorem exec_settled {registration : Nat} (ops : List Op) (settled : Settled registration s.table) :
    Settled registration (s.exec ops).table ∧
      ∀ entry ∈ (s.exec ops).table.delivered, entry.1 = registration → entry ∈ s.table.delivered := by
  induction ops generalizing s with
  | nil => exact ⟨settled, fun entry member _ => member⟩
  | cons op rest ih =>
      obtain ⟨stepSettled, stepKept⟩ := (moves_step s op).settled settled
      obtain ⟨runSettled, runKept⟩ := ih stepSettled
      exact ⟨runSettled, fun entry member same => stepKept entry (runKept entry member same) same⟩

/-! ## The laws -/

/-- The promises the correlation table keeps in a session state. -/
structure Laws (s : Session) : Prop where
  /-- Registering a pending token is refused with that token; the pending call, the replies
  handed over and the slots stay as they are. -/
  refuse_pending : ∀ token typeName, s.table.isPending token = true →
    (s.step (.register token typeName)).2 = .refused (.duplicateToken token) ∧
    (s.step (.register token typeName)).1.table.pending = s.table.pending ∧
    (s.step (.register token typeName)).1.table.delivered = s.table.delivered ∧
    (s.step (.register token typeName)).1.slots = s.slots
  /-- A reply carrying the token of a pending call is taken: that call, and no other, stops being
  pending, and the reply goes to its registration, where the slot holding the call finds it. -/
  hand_over : ∀ raw reply call, Envelope.ofBytes raw = .ok reply → reply.extra ≠ "" →
    call ∈ s.table.pending → call.token = reply.extra →
    (s.step (.complete raw)).2 = .flag true ∧
    (∀ other, other ∈ (s.step (.complete raw)).1.table.pending ↔
      other ∈ s.table.pending ∧ other ≠ call) ∧
    (s.step (.complete raw)).1.table.delivered = s.table.delivered ++ [(call.registration, reply)] ∧
    ∀ slot after, s.held slot = some call →
      ((s.step (.complete raw)).1.step (.wait slot after)).2 = .reply reply
  /-- A reply without a token, or with a token no call is pending under, is refused and changes
  no pending call and no handed-over reply. -/
  ignore : ∀ raw reply, Envelope.ofBytes raw = .ok reply →
    (reply.extra = "" ∨ s.table.isPending reply.extra = false) →
    (s.step (.complete raw)).2 = .flag false ∧
    (s.step (.complete raw)).1.table.pending = s.table.pending ∧
    (s.step (.complete raw)).1.table.delivered = s.table.delivered
  /-- A caller who gives up, by a wait that times out or by dropping its slot, removes a pending
  call only if the call carries its own registration number. -/
  withdraw_own : ∀ slot call, s.held slot = some call → ∀ other ∈ s.table.pending,
    (∀ after, other ∈ (s.step (.wait slot after)).1.table.pending ↔
      other.registration ≠ call.registration) ∧
    (other ∈ (s.step (.cancel slot)).1.table.pending ↔ other.registration ≠ call.registration)
  /-- A reply handed to a registration is the only one it ever gets, whatever follows. -/
  one_reply : ∀ entry ∈ s.table.delivered, ∀ ops, ∀ later ∈ (s.exec ops).table.delivered,
    later.1 = entry.1 → later = entry
  /-- A reply a caller takes carries the token of its own call. -/
  reply_token : ∀ slot call after reply, s.held slot = some call →
    (s.step (.wait slot after)).2 = .reply reply → reply.extra = call.token
  /-- A reply reaches a registration only through a completion that reports success, made while
  the registration's call was pending under the reply's token. -/
  handed_while_pending : ∀ op, ∀ entry ∈ (s.step op).1.table.delivered,
    entry ∉ s.table.delivered →
    ∃ raw, op = .complete raw ∧ Envelope.ofBytes raw = .ok entry.2 ∧ (s.step op).2 = .flag true ∧
      ∃ call ∈ s.table.pending, call.registration = entry.1 ∧ call.token = entry.2.extra
  /-- Once the table is cleared, a caller still waiting with no reply handed to it learns that
  the client stopped, whatever happens in between. -/
  clear_stops : ∀ slot call, s.held slot = some call →
    (∀ entry ∈ s.table.delivered, entry.1 ≠ call.registration) →
    ∀ ops after, ((s.step .clear).1.exec ops).held slot = some call →
      (((s.step .clear).1.exec ops).step (.wait slot after)).2 = .refused .stopped

theorem refuse_pending {token typeName : String} (pending : s.table.isPending token = true) :
    (s.step (.register token typeName)).2 = .refused (.duplicateToken token) ∧
    (s.step (.register token typeName)).1.table.pending = s.table.pending ∧
    (s.step (.register token typeName)).1.table.delivered = s.table.delivered ∧
    (s.step (.register token typeName)).1.slots = s.slots := by
  have refused : (s.table.register token typeName).2 = .error (.duplicateToken token) := by
    simp [CorrelationTable.register_result, pending]
  rw [step_register, refused]
  simp [CorrelationTable.register_pending, pending]

/-- The pending call with a reply's token is the one the table finds for it. -/
theorem Wf.find_token (wf : s.Wf) {call : Call} {reply : Envelope} (member : call ∈ s.table.pending)
    (token : call.token = reply.extra) :
    s.table.pending.find? (·.token == reply.extra) = some call := by
  cases found : s.table.pending.find? (·.token == reply.extra) with
  | none =>
      simp only [List.find?_eq_none, beq_iff_eq] at found
      exact absurd token (found call member)
  | some other =>
      have same : other.token = reply.extra := by simpa using List.find?_some found
      rw [wf.table.eq_of_token (List.mem_of_find?_eq_some found) member (same.trans token.symm)]

theorem Wf.hand_over (wf : s.Wf) {raw : ByteArray} {reply : Envelope} {call : Call}
    (read : Envelope.ofBytes raw = .ok reply) (tagged : reply.extra ≠ "")
    (member : call ∈ s.table.pending) (token : call.token = reply.extra) :
    (s.step (.complete raw)).2 = .flag true ∧
    (∀ other, other ∈ (s.step (.complete raw)).1.table.pending ↔
      other ∈ s.table.pending ∧ other ≠ call) ∧
    (s.step (.complete raw)).1.table.delivered = s.table.delivered ++ [(call.registration, reply)] ∧
    ∀ slot after, s.held slot = some call →
      ((s.step (.complete raw)).1.step (.wait slot after)).2 = .reply reply := by
  have nonempty : reply.extra.isEmpty = false := by simpa using tagged
  have found := wf.find_token member token
  have pending : s.table.isPending reply.extra = true :=
    CorrelationTable.isPending_iff.mpr ⟨call, member, token⟩
  have delivered : (s.table.complete reply).1.delivered =
      s.table.delivered ++ [(call.registration, reply)] := by
    simp [CorrelationTable.complete_delivered, nonempty, found]
  rw [step_complete read]
  refine ⟨by simp [CorrelationTable.complete_result, nonempty, pending], ?_, delivered, ?_⟩
  · intro other
    simp only [CorrelationTable.complete_pending, nonempty, if_false, Bool.false_eq_true,
      List.mem_filter, bne_iff_ne, ne_eq]
    constructor
    · rintro ⟨waiting, different⟩
      exact ⟨waiting, fun same => different (same ▸ token)⟩
    · rintro ⟨waiting, different⟩
      exact ⟨waiting, fun same => different (wf.table.eq_of_token waiting member (same.trans token.symm))⟩
  · intro slot after held
    have first : (s.table.complete reply).1.delivered.find? (·.1 == call.registration) =
        some (call.registration, reply) := by
      rw [delivered, List.find?_append]
      have earlier : s.table.delivered.find? (·.1 == call.registration) = none := by
        simp only [List.find?_eq_none, beq_iff_eq]
        exact fun entry answered same =>
          wf.table.answered_not_pending entry answered call member same.symm
      simp [earlier]
    rw [step_wait (s := { s with table := (s.table.complete reply).1 }) held,
      CorrelationTable.wait_of_first after first]

theorem ignore {raw : ByteArray} {reply : Envelope} (read : Envelope.ofBytes raw = .ok reply)
    (untaken : reply.extra = "" ∨ s.table.isPending reply.extra = false) :
    (s.step (.complete raw)).2 = .flag false ∧
    (s.step (.complete raw)).1.table.pending = s.table.pending ∧
    (s.step (.complete raw)).1.table.delivered = s.table.delivered := by
  rw [step_complete read]
  by_cases empty : reply.extra.isEmpty
  · simp [CorrelationTable.complete_result, CorrelationTable.complete_pending,
      CorrelationTable.complete_delivered, empty]
  · have absent : s.table.isPending reply.extra = false := by
      rcases untaken with blank | absent
      · simp [blank] at empty
      · exact absent
    have none : s.table.pending.find? (·.token == reply.extra) = none := by
      simpa [CorrelationTable.isPending, List.find?_eq_none] using absent
    have kept : s.table.pending.filter (·.token != reply.extra) = s.table.pending := by
      simpa [List.filter_eq_self, CorrelationTable.isPending] using absent
    simp [CorrelationTable.complete_result, CorrelationTable.complete_pending,
      CorrelationTable.complete_delivered, empty, absent, none, kept]

/-- A pending call other than the one given up differs from it in its registration number. -/
theorem Wf.ne_iff_registration (wf : s.Wf) {slot : Nat} {call other : Call}
    (held : s.held slot = some call) (waiting : other ∈ s.table.pending) :
    other ≠ call ↔ other.registration ≠ call.registration := by
  constructor
  · intro different same
    exact different (wf.eq_of_registration (wf.pending_held other waiting) (held_mem_calls held) same)
  · intro different same
    exact different (same ▸ rfl)

theorem Wf.withdraw_own (wf : s.Wf) {slot : Nat} {call other : Call}
    (held : s.held slot = some call) (waiting : other ∈ s.table.pending) :
    (∀ after, other ∈ (s.step (.wait slot after)).1.table.pending ↔
      other.registration ≠ call.registration) ∧
    (other ∈ (s.step (.cancel slot)).1.table.pending ↔ other.registration ≠ call.registration) := by
  have erased : other ∈ s.table.pending.erase call ↔ other.registration ≠ call.registration := by
    rw [wf.table.pending_nodup.mem_erase_iff, ← wf.ne_iff_registration held waiting]
    exact and_iff_left waiting
  refine ⟨fun after => ?_, ?_⟩
  · rw [step_wait held]
    simp only [release_table, CorrelationTable.wait_pending]
    split
    · rename_i answered
      obtain ⟨entry, member, same⟩ := List.any_eq_true.mp answered
      have same : entry.1 = call.registration := by simpa using same
      exact iff_of_true waiting (same ▸ wf.table.answered_not_pending entry member other waiting)
    · exact erased
  · rw [step_cancel held]
    simpa [CorrelationTable.cancel_pending] using erased

theorem Wf.one_reply (wf : s.Wf) {entry : Nat × Envelope} (answered : entry ∈ s.table.delivered)
    (ops : List Op) {later : Nat × Envelope} (laterAnswered : later ∈ (s.exec ops).table.delivered)
    (same : later.1 = entry.1) : later = entry := by
  have settled : Settled entry.1 s.table :=
    ⟨wf.table.answered_lt entry answered,
      fun call waiting => wf.table.answered_not_pending entry answered call waiting⟩
  have earlier := (exec_settled ops settled).2 later laterAnswered same
  exact List.inj_on_of_nodup_map wf.table.answered_nodup earlier answered same

theorem Wf.reply_token (wf : s.Wf) {slot : Nat} {call : Call} {after : Duration} {reply : Envelope}
    (held : s.held slot = some call) (taken : (s.step (.wait slot after)).2 = .reply reply) :
    reply.extra = call.token := by
  rw [step_wait held] at taken
  cases waited : (s.table.wait call after).2 with
  | error problem => simp [waited] at taken
  | ok value =>
      simp only [waited, Outcome.reply.injEq] at taken
      subst taken
      obtain ⟨entry, answered, same, rfl⟩ := CorrelationTable.wait_ok waited
      obtain ⟨owner, member, ownerSame, token⟩ := wf.answered_held entry answered
      rw [← token, wf.eq_of_registration member (held_mem_calls held) (ownerSame.trans same)]

/-- Only a completion adds a handed-over reply, and only for a call pending under its token. -/
theorem handed_while_pending (op : Op) {entry : Nat × Envelope}
    (answered : entry ∈ (s.step op).1.table.delivered) (fresh : entry ∉ s.table.delivered) :
    ∃ raw, op = .complete raw ∧ Envelope.ofBytes raw = .ok entry.2 ∧ (s.step op).2 = .flag true ∧
      ∃ call ∈ s.table.pending, call.registration = entry.1 ∧ call.token = entry.2.extra := by
  cases op with
  | complete raw =>
      cases read : Envelope.ofBytes raw with
      | error problem => simp [step, read] at answered; exact absurd answered fresh
      | ok reply =>
          rw [step_complete read] at answered ⊢
          rcases CorrelationTable.mem_complete_delivered answered with
            old | ⟨rfl, nonempty, call, member, owner, token⟩
          · exact absurd old fresh
          · have pending : s.table.isPending entry.2.extra = true :=
              CorrelationTable.isPending_iff.mpr ⟨call, member, token⟩
            refine ⟨raw, rfl, read, ?_, call, member, owner, token⟩
            simp [CorrelationTable.complete_result, nonempty, pending]
  | register token typeName =>
      rw [step_register] at answered
      split at answered <;> simp at answered <;> exact absurd answered fresh
  | wait slot after =>
      cases held : s.held slot with
      | none => simp [step, withSlot, held] at answered; exact absurd answered fresh
      | some call =>
          rw [step_wait held] at answered
          simp only [release_table, CorrelationTable.wait_delivered, List.mem_filter] at answered
          exact absurd answered.1 fresh
  | cancel slot =>
      cases held : s.held slot with
      | none => simp [step, withSlot, held] at answered; exact absurd answered fresh
      | some call =>
          rw [step_cancel held] at answered
          simp only [release_table, CorrelationTable.cancel_delivered, List.mem_filter] at answered
          exact absurd answered.1 fresh
  | token slot => exact absurd (by simpa using answered) fresh
  | debugSlot slot => exact absurd (by simpa using answered) fresh
  | clear => exact absurd answered fresh
  | pendingCount => exact absurd answered fresh
  | isPending token => exact absurd answered fresh
  | stats => exact absurd answered fresh
  | debug => exact absurd answered fresh

theorem Wf.clear_stops (wf : s.Wf) {slot : Nat} {call : Call} (held : s.held slot = some call)
    (unanswered : ∀ entry ∈ s.table.delivered, entry.1 ≠ call.registration) (ops : List Op)
    (after : Duration) (stillHeld : ((s.step .clear).1.exec ops).held slot = some call) :
    (((s.step .clear).1.exec ops).step (.wait slot after)).2 = .refused .stopped := by
  have settled : Settled call.registration (s.step .clear).1.table :=
    ⟨wf.held_lt call (held_mem_calls held), by simp [step, CorrelationTable.clear]⟩
  obtain ⟨⟨-, absent⟩, kept⟩ := exec_settled ops settled
  have none : ∀ entry ∈ ((s.step .clear).1.exec ops).table.delivered,
      entry.1 ≠ call.registration := fun entry answered same =>
    unanswered entry (kept entry answered same) same
  have gone : call ∉ ((s.step .clear).1.exec ops).table.pending := fun waiting =>
    absent call waiting rfl
  rw [step_wait stillHeld, CorrelationTable.wait_stopped after none gone]

/-- Every well-formed session keeps the laws. -/
theorem Wf.laws (wf : s.Wf) : s.Laws where
  refuse_pending := fun _ _ pending => refuse_pending pending
  hand_over := fun _ _ _ read tagged member token => wf.hand_over read tagged member token
  ignore := fun _ _ read untaken => ignore read untaken
  withdraw_own := fun _ _ held _ waiting => wf.withdraw_own held waiting
  one_reply := fun _ answered ops _ laterAnswered same => wf.one_reply answered ops laterAnswered same
  reply_token := fun _ _ _ _ held taken => wf.reply_token held taken
  handed_while_pending := fun op _ answered fresh => handed_while_pending op answered fresh
  clear_stops := fun _ _ held unanswered ops after stillHeld =>
    wf.clear_stops held unanswered ops after stillHeld

/-- In every state that any sequence of steps reaches from an empty table, the correlation
table keeps its laws. -/
theorem run_keeps_laws (ops : List Op) : (({} : Session).exec ops).Laws :=
  (exec_wf ops wf_empty).laws

end Session

end Correlation

end Switchboard
