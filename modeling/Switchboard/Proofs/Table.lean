import Switchboard.Client.Correlation
import Mathlib

/-!
# What each correlation-table operation does

A correlation table keeps the calls waiting for replies and the replies handed over and not yet
taken. Each operation gets one lemma that says, field by field, what it does to the pending calls,
the handed-over replies and the next registration number, so that later proofs cite these lemmas
and never unfold the operations again.

The shape every reachable table keeps is `CorrelationTable.Wf`: one pending call per token,
registration numbers told apart and below the next one to be drawn, and at most one reply handed
to a registration, which is then no longer pending. Registering, completing, waiting, expiring,
cancelling and clearing all keep it.
-/

namespace Switchboard

namespace CorrelationTable

variable {t : CorrelationTable}

theorem isPending_iff {token : String} :
    t.isPending token = true ↔ ∃ call ∈ t.pending, call.token = token := by
  simp [isPending]

theorem isPending_eq_false_iff {token : String} :
    t.isPending token = false ↔ ∀ call ∈ t.pending, call.token ≠ token := by
  simp [isPending]

/-! ## What each operation does -/

/-- Registering either refuses a pending token or appends a call under the next number; the
number is used up either way. -/
theorem register_eq (token typeName : String) :
    t.register token typeName =
      if t.isPending token then
        ({ t with nextRegistration := t.nextRegistration + 1 }, .error (.duplicateToken token))
      else
        ({ t with nextRegistration := t.nextRegistration + 1,
                  pending := t.pending ++ [⟨token, typeName, t.nextRegistration⟩],
                  stats := { t.stats with registered := t.stats.registered + 1 } },
          .ok ⟨token, typeName, t.nextRegistration⟩) := by
  by_cases pending : t.isPending token <;>
    simp only [register, isPending] at pending ⊢ <;> simp [pending]

theorem register_pending (token typeName : String) :
    (t.register token typeName).1.pending =
      if t.isPending token then t.pending
      else t.pending ++ [⟨token, typeName, t.nextRegistration⟩] := by
  rw [register_eq]
  split <;> rfl

@[simp] theorem register_delivered (token typeName : String) :
    (t.register token typeName).1.delivered = t.delivered := by
  rw [register_eq]
  split <;> rfl

@[simp] theorem register_nextRegistration (token typeName : String) :
    (t.register token typeName).1.nextRegistration = t.nextRegistration + 1 := by
  rw [register_eq]
  split <;> rfl

theorem register_result (token typeName : String) :
    (t.register token typeName).2 =
      if t.isPending token then .error (.duplicateToken token)
      else .ok ⟨token, typeName, t.nextRegistration⟩ := by
  rw [register_eq]
  split <;> rfl

theorem register_ok {token typeName : String} {call : Call}
    (registered : (t.register token typeName).2 = .ok call) :
    t.isPending token = false ∧ call = ⟨token, typeName, t.nextRegistration⟩ := by
  rw [register_result] at registered
  split at registered
  · cases registered
  · rename_i fresh
    cases registered
    simpa using fresh

theorem register_error {token typeName : String} {problem : ClientError}
    (refused : (t.register token typeName).2 = .error problem) :
    t.isPending token = true ∧ problem = .duplicateToken token := by
  rw [register_result] at refused
  split at refused
  · rename_i pending
    cases refused
    exact ⟨pending, rfl⟩
  · cases refused

/-- Completing keeps the calls whose token differs from the reply's; a reply without a token
keeps them all. -/
theorem complete_pending (reply : Envelope) :
    (t.complete reply).1.pending =
      if reply.extra.isEmpty then t.pending else t.pending.filter (·.token != reply.extra) := by
  unfold complete
  by_cases empty : reply.extra.isEmpty
  · simp [empty]
  · simp only [empty, if_false, Bool.false_eq_true]
    cases found : t.pending.find? (·.token == reply.extra) with
    | none =>
        simp only [List.find?_eq_none, beq_iff_eq] at found
        symm
        simpa [List.filter_eq_self] using found
    | some call => rfl

/-- Completing hands the reply to the call pending under its token, if there is one. -/
theorem complete_delivered (reply : Envelope) :
    (t.complete reply).1.delivered =
      if reply.extra.isEmpty then t.delivered
      else t.delivered ++
        ((t.pending.find? (·.token == reply.extra)).map fun call => (call.registration, reply)).toList := by
  unfold complete
  by_cases empty : reply.extra.isEmpty
  · simp [empty]
  · simp only [empty, if_false, Bool.false_eq_true]
    cases t.pending.find? (·.token == reply.extra) <;> simp

/-- Completing never adds a pending call. -/
theorem complete_pending_sublist (reply : Envelope) :
    (t.complete reply).1.pending.Sublist t.pending := by
  rw [complete_pending]
  split
  · exact List.Sublist.refl _
  · exact List.filter_sublist

/-- Completing only adds to the handed-over replies, and all it adds is the reply, handed to the
registration of a call pending under the reply's token, which is not empty. -/
theorem complete_delivered_append (reply : Envelope) :
    ∃ added, (t.complete reply).1.delivered = t.delivered ++ added ∧
      ∀ entry ∈ added, entry.2 = reply ∧ reply.extra ≠ "" ∧
        ∃ call ∈ t.pending, call.registration = entry.1 ∧ call.token = reply.extra := by
  rw [complete_delivered]
  split
  · exact ⟨[], by simp, by simp⟩
  · rename_i nonempty
    refine ⟨_, rfl, ?_⟩
    intro entry added
    cases found : t.pending.find? (·.token == reply.extra) with
    | none => simp [found] at added
    | some call =>
        simp only [found, Option.map_some, Option.toList_some, List.mem_singleton] at added
        subst added
        have token : call.token = reply.extra := by simpa using List.find?_some found
        exact ⟨rfl, by simpa using nonempty, call, List.mem_of_find?_eq_some found, rfl, token⟩

theorem mem_complete_delivered {reply : Envelope} {entry : Nat × Envelope}
    (answered : entry ∈ (t.complete reply).1.delivered) :
    entry ∈ t.delivered ∨ entry.2 = reply ∧ reply.extra ≠ "" ∧
      ∃ call ∈ t.pending, call.registration = entry.1 ∧ call.token = reply.extra := by
  obtain ⟨added, grown, origin⟩ := complete_delivered_append (t := t) reply
  rw [grown] at answered
  rcases List.mem_append.mp answered with old | new
  · exact .inl old
  · exact .inr (origin entry new)

@[simp] theorem complete_nextRegistration (reply : Envelope) :
    (t.complete reply).1.nextRegistration = t.nextRegistration := by
  unfold complete
  split
  · rfl
  · split <;> rfl

theorem complete_result (reply : Envelope) :
    (t.complete reply).2 = (!reply.extra.isEmpty && t.isPending reply.extra) := by
  unfold complete
  by_cases empty : reply.extra.isEmpty
  · simp [empty]
  · simp only [empty, if_false, Bool.false_eq_true, Bool.not_false, Bool.true_and, isPending]
    cases found : t.pending.find? (·.token == reply.extra) with
    | none =>
        simp only [List.find?_eq_none] at found
        simp only [List.any_eq_false.mpr found]
    | some call =>
        have present : (t.pending.find? (·.token == reply.extra)).isSome := by simp [found]
        simp [List.any_eq_true.mpr (List.find?_isSome.mp present)]

/-- Expiring withdraws the call if it is still pending, and counts a timeout then. -/
theorem expire_eq (call : Call) :
    t.expire call =
      if call ∈ t.pending then
        ({ t with pending := t.pending.erase call,
                  stats := { t.stats with timeouts := t.stats.timeouts + 1 } }, true)
      else (t, false) := by
  by_cases present : call ∈ t.pending <;> simp [expire, withdraw, present]

/-- Taking a reply removes the replies handed to the call's registration and returns the first. -/
theorem takeReply_eq (call : Call) :
    t.takeReply call =
      ({ t with delivered := t.delivered.filter (·.1 != call.registration) },
        (t.delivered.find? (·.1 == call.registration)).map (·.2)) := by
  unfold takeReply
  cases found : t.delivered.find? (·.1 == call.registration) with
  | some entry => simp
  | none =>
      simp only [List.find?_eq_none, beq_iff_eq] at found
      have kept : t.delivered.filter (·.1 != call.registration) = t.delivered := by
        simpa [List.filter_eq_self] using found
      simp [kept]

/-- A wait takes a reply handed over already; otherwise a pending call times out and is
withdrawn, and a call that is gone means the client stopped. -/
theorem wait_eq (call : Call) (after : Duration) :
    t.wait call after =
      match (t.delivered.find? (·.1 == call.registration)).map (·.2) with
      | some reply => ({ t with delivered := t.delivered.filter (·.1 != call.registration) }, .ok reply)
      | none =>
          if call ∈ t.pending then
            ({ t with pending := t.pending.erase call,
                      stats := { t.stats with timeouts := t.stats.timeouts + 1 } },
              .error (.timeout call.typeName after))
          else (t, .error .stopped) := by
  unfold wait
  rw [takeReply_eq]
  cases found : (t.delivered.find? (·.1 == call.registration)).map (·.2) with
  | some reply => simp
  | none =>
      have kept : t.delivered.filter (·.1 != call.registration) = t.delivered := by
        simp only [Option.map_eq_none_iff, List.find?_eq_none, beq_iff_eq] at found
        simpa [List.filter_eq_self] using found
      simp only [kept]
      rw [expire_eq]
      by_cases present : call ∈ t.pending <;> simp [present]

/-- Cancelling drops any reply handed to the call and withdraws the call if it is pending. -/
theorem cancel_eq (call : Call) :
    t.cancel call =
      if call ∈ t.pending then
        { t with pending := t.pending.erase call,
                 delivered := t.delivered.filter (·.1 != call.registration),
                 stats := { t.stats with cancelled := t.stats.cancelled + 1 } }
      else { t with delivered := t.delivered.filter (·.1 != call.registration) } := by
  by_cases present : call ∈ t.pending <;> simp [cancel, withdraw, present]

theorem wait_pending (call : Call) (after : Duration) :
    (t.wait call after).1.pending =
      if t.delivered.any (·.1 == call.registration) then t.pending else t.pending.erase call := by
  rw [wait_eq]
  cases found : t.delivered.find? (·.1 == call.registration) with
  | some entry =>
      have matching := List.find?_some found
      have present : t.delivered.any (·.1 == call.registration) = true :=
        List.any_eq_true.mpr ⟨entry, List.mem_of_find?_eq_some found, matching⟩
      simp [present]
  | none =>
      have absent : t.delivered.any (·.1 == call.registration) = false := by
        simpa [List.any_eq_false] using found
      by_cases waiting : call ∈ t.pending
      · simp [absent, waiting]
      · simp [absent, waiting, List.erase_of_not_mem waiting]

@[simp] theorem wait_delivered (call : Call) (after : Duration) :
    (t.wait call after).1.delivered = t.delivered.filter (·.1 != call.registration) := by
  rw [wait_eq]
  cases found : t.delivered.find? (·.1 == call.registration) with
  | some entry => simp
  | none =>
      have kept : t.delivered.filter (·.1 != call.registration) = t.delivered := by
        simp only [List.find?_eq_none, beq_iff_eq] at found
        simpa [List.filter_eq_self] using found
      by_cases waiting : call ∈ t.pending <;> simp [waiting, kept]

@[simp] theorem wait_nextRegistration (call : Call) (after : Duration) :
    (t.wait call after).1.nextRegistration = t.nextRegistration := by
  rw [wait_eq]
  split
  · rfl
  · split <;> rfl

/-- A wait that returns a reply returns one handed to the call's registration. -/
theorem wait_ok {call : Call} {after : Duration} {reply : Envelope}
    (waited : (t.wait call after).2 = .ok reply) :
    ∃ entry ∈ t.delivered, entry.1 = call.registration ∧ entry.2 = reply := by
  rw [wait_eq] at waited
  cases found : t.delivered.find? (·.1 == call.registration) with
  | none =>
      simp only [found, Option.map_none] at waited
      split at waited <;> cases waited
  | some entry =>
      simp only [found, Option.map_some] at waited
      cases waited
      have same : entry.1 = call.registration := by simpa using List.find?_some found
      exact ⟨entry, List.mem_of_find?_eq_some found, same, rfl⟩

/-- A wait finds the first reply handed to the call's registration. -/
theorem wait_of_first {call : Call} {reply : Envelope} (after : Duration)
    (first : t.delivered.find? (·.1 == call.registration) = some (call.registration, reply)) :
    (t.wait call after).2 = .ok reply := by
  rw [wait_eq]
  simp [first]

/-- A wait with no reply handed over and no call pending reports that the client stopped. -/
theorem wait_stopped {call : Call} (after : Duration)
    (unanswered : ∀ entry ∈ t.delivered, entry.1 ≠ call.registration) (gone : call ∉ t.pending) :
    (t.wait call after).2 = .error .stopped := by
  have none : t.delivered.find? (·.1 == call.registration) = none := by
    simpa [List.find?_eq_none] using unanswered
  rw [wait_eq]
  simp [none, gone]

theorem cancel_pending (call : Call) : (t.cancel call).pending = t.pending.erase call := by
  rw [cancel_eq]
  by_cases waiting : call ∈ t.pending
  · simp [waiting]
  · simp [waiting, List.erase_of_not_mem waiting]

@[simp] theorem cancel_delivered (call : Call) :
    (t.cancel call).delivered = t.delivered.filter (·.1 != call.registration) := by
  rw [cancel_eq]
  split <;> rfl

@[simp] theorem cancel_nextRegistration (call : Call) :
    (t.cancel call).nextRegistration = t.nextRegistration := by
  rw [cancel_eq]
  split <;> rfl

/-! ## The shape a table keeps -/

/-- The shape every table a session reaches keeps: one pending call per token, registration
numbers told apart and below the next one, and at most one reply handed to a registration, which
is then no longer pending. -/
structure Wf (t : CorrelationTable) : Prop where
  tokens_nodup : (t.pending.map (·.token)).Nodup
  registrations_nodup : (t.pending.map (·.registration)).Nodup
  pending_lt : ∀ call ∈ t.pending, call.registration < t.nextRegistration
  answered_nodup : (t.delivered.map (·.1)).Nodup
  answered_lt : ∀ entry ∈ t.delivered, entry.1 < t.nextRegistration
  answered_not_pending : ∀ entry ∈ t.delivered, ∀ call ∈ t.pending, call.registration ≠ entry.1

theorem wf_empty : ({} : CorrelationTable).Wf where
  tokens_nodup := List.nodup_nil
  registrations_nodup := List.nodup_nil
  pending_lt := by simp
  answered_nodup := List.nodup_nil
  answered_lt := by simp
  answered_not_pending := by simp

/-- Dropping pending calls or handed-over replies, and drawing more registration numbers, keeps
a table well formed. -/
theorem Wf.of_sublist {t' : CorrelationTable} (wf : t.Wf) (pending : t'.pending.Sublist t.pending)
    (delivered : t'.delivered.Sublist t.delivered)
    (next : t.nextRegistration ≤ t'.nextRegistration) : t'.Wf where
  tokens_nodup := wf.tokens_nodup.sublist (pending.map _)
  registrations_nodup := wf.registrations_nodup.sublist (pending.map _)
  pending_lt := fun call member =>
    Nat.lt_of_lt_of_le (wf.pending_lt call (pending.subset member)) next
  answered_nodup := wf.answered_nodup.sublist (delivered.map _)
  answered_lt := fun entry member =>
    Nat.lt_of_lt_of_le (wf.answered_lt entry (delivered.subset member)) next
  answered_not_pending := fun entry answered call waiting =>
    wf.answered_not_pending entry (delivered.subset answered) call (pending.subset waiting)

/-- Two pending calls with one registration number are the same call. -/
theorem Wf.eq_of_registration (wf : t.Wf) {call other : Call} (member : call ∈ t.pending)
    (otherMember : other ∈ t.pending) (same : call.registration = other.registration) :
    call = other :=
  List.inj_on_of_nodup_map wf.registrations_nodup member otherMember same

/-- Two pending calls with one token are the same call. -/
theorem Wf.eq_of_token (wf : t.Wf) {call other : Call} (member : call ∈ t.pending)
    (otherMember : other ∈ t.pending) (same : call.token = other.token) : call = other :=
  List.inj_on_of_nodup_map wf.tokens_nodup member otherMember same

theorem Wf.pending_nodup (wf : t.Wf) : t.pending.Nodup :=
  List.Nodup.of_map _ wf.registrations_nodup

/-- A new call takes the next number, which no pending call and no answered registration holds. -/
theorem Wf.register (wf : t.Wf) (token typeName : String) : (t.register token typeName).1.Wf := by
  by_cases pending : t.isPending token
  · apply wf.of_sublist <;> simp [register_pending, pending]
  · simp only [Bool.not_eq_true] at pending
    have fresh : ∀ call ∈ t.pending, call.token ≠ token := isPending_eq_false_iff.mp pending
    have above : ∀ call ∈ t.pending, call.registration ≠ t.nextRegistration :=
      fun call member => Nat.ne_of_lt (wf.pending_lt call member)
    refine ⟨?_, ?_, ?_, ?_, ?_, ?_⟩ <;> simp only [register_pending, pending, register_delivered,
      register_nextRegistration, if_false, Bool.false_eq_true]
    · simpa [List.nodup_append] using ⟨wf.tokens_nodup, fresh⟩
    · simpa [List.nodup_append] using ⟨wf.registrations_nodup, above⟩
    · intro call member
      rcases List.mem_append.mp member with old | new
      · exact Nat.lt_succ_of_lt (wf.pending_lt call old)
      · simp only [List.mem_singleton] at new
        simp [new]
    · exact wf.answered_nodup
    · exact fun entry member => Nat.lt_succ_of_lt (wf.answered_lt entry member)
    · intro entry answered call member
      rcases List.mem_append.mp member with old | new
      · exact wf.answered_not_pending entry answered call old
      · simp only [List.mem_singleton] at new
        subst new
        exact Nat.ne_of_gt (wf.answered_lt entry answered)

/-- A call registered under a token no pending call holds is pending under the next number, and
no reply has been handed to that number. -/
theorem Wf.register_fresh (wf : t.Wf) {token : String}
    (fresh : ∀ call ∈ t.pending, call.token ≠ token) (typeName : String) :
    (⟨token, typeName, t.nextRegistration⟩ : Call) ∈ (t.register token typeName).1.pending ∧
      (t.register token typeName).1.delivered.find? (·.1 == t.nextRegistration) = none := by
  have notPending : t.isPending token = false := isPending_eq_false_iff.mpr fresh
  constructor
  · simp [register_pending, notPending]
  · rw [register_delivered, List.find?_eq_none]
    intro entry member
    simpa using Nat.ne_of_lt (wf.answered_lt entry member)

/-- A reply with a pending token goes to the one call pending under it, which stops being
pending; any other reply leaves the calls and the handed-over replies as they were. -/
theorem Wf.complete (wf : t.Wf) (reply : Envelope) : (t.complete reply).1.Wf := by
  by_cases empty : reply.extra.isEmpty
  · apply wf.of_sublist <;> simp [complete_pending, complete_delivered, empty]
  cases found : t.pending.find? (·.token == reply.extra) with
  | none =>
      apply wf.of_sublist <;>
        simp [complete_pending, complete_delivered, empty, found, List.filter_sublist]
  | some call =>
      have member := List.mem_of_find?_eq_some found
      have token : call.token = reply.extra := by simpa using List.find?_some found
      have kept : (t.pending.filter (·.token != reply.extra)).Sublist t.pending :=
        List.filter_sublist
      refine ⟨?_, ?_, ?_, ?_, ?_, ?_⟩ <;> simp only [complete_pending, complete_delivered,
        complete_nextRegistration, empty, found, if_false, Bool.false_eq_true, Option.map_some,
        Option.toList_some]
      · exact wf.tokens_nodup.sublist (kept.map _)
      · exact wf.registrations_nodup.sublist (kept.map _)
      · exact fun other waiting => wf.pending_lt other (kept.subset waiting)
      · rw [List.map_append]
        refine List.nodup_append.mpr ⟨wf.answered_nodup, List.nodup_singleton _, ?_⟩
        intro registration answered other added equal
        obtain ⟨entry, mem, rfl⟩ := List.mem_map.mp answered
        simp only [List.map_cons, List.map_nil, List.mem_singleton] at added
        exact wf.answered_not_pending entry mem call member (added ▸ equal).symm
      · intro entry answered
        rcases List.mem_append.mp answered with old | new
        · exact wf.answered_lt entry old
        · simp only [List.mem_singleton] at new
          simp [new, wf.pending_lt call member]
      · intro entry answered other waiting
        rcases List.mem_append.mp answered with old | new
        · exact wf.answered_not_pending entry old other (kept.subset waiting)
        · simp only [List.mem_singleton] at new
          subst new
          intro same
          have equal := wf.eq_of_registration (kept.subset waiting) member same
          simp only [List.mem_filter, bne_iff_ne, ne_eq] at waiting
          exact waiting.2 (equal ▸ token)

theorem Wf.wait (wf : t.Wf) (call : Call) (after : Duration) : (t.wait call after).1.Wf := by
  apply wf.of_sublist
  · rw [wait_pending]
    split
    · exact List.Sublist.refl _
    · exact List.erase_sublist
  · simp [List.filter_sublist]
  · simp

theorem Wf.cancel (wf : t.Wf) (call : Call) : (t.cancel call).Wf :=
  wf.of_sublist (by simp [cancel_pending, List.erase_sublist]) (by simp [List.filter_sublist])
    (by simp)

theorem Wf.clear (wf : t.Wf) : t.clear.Wf :=
  wf.of_sublist (List.nil_sublist _) (List.Sublist.refl _) (Nat.le_refl _)

end CorrelationTable

end Switchboard
