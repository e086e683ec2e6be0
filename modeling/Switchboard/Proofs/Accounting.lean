import Switchboard.Proofs.Correlation

/-!
# Every registration is accounted for

A correlation table counts the calls it registered, the replies it handed over, the waits that
ran out, the calls given up before a reply and the replies that found no call. A registered call
leaves the pending calls once, through one of four doors: a reply, a timeout, a cancellation, or
a clear, which forgets the calls it finds without counting them. So the registrations balance
(`CorrelationTable.Balanced`): the registered count is the number of calls still pending plus the
three counted ends plus the calls forgotten by clears.

Each table operation keeps the balance, the completion of a reply because one token names at most
one pending call; a clear keeps it once the calls it forgets are added to the forgotten ones. Over
every run from an empty table (`every_registration_is_accounted_for`): the registrations balance
after every step, the orphan count is the number of replies carrying a token that no call was
pending under, no step lowers any counter, and a registration refused because its token is pending
changes neither the counts nor the pending calls.
-/

namespace Switchboard

namespace CorrelationStats

/-- Counts `b` are at least counts `a`, counter by counter. -/
instance : LE CorrelationStats where
  le a b := a.registered ≤ b.registered ∧ a.completed ≤ b.completed ∧ a.timeouts ≤ b.timeouts ∧
    a.cancelled ≤ b.cancelled ∧ a.orphaned ≤ b.orphaned

theorem le_def {a b : CorrelationStats} :
    a ≤ b ↔ a.registered ≤ b.registered ∧ a.completed ≤ b.completed ∧
      a.timeouts ≤ b.timeouts ∧ a.cancelled ≤ b.cancelled ∧ a.orphaned ≤ b.orphaned :=
  Iff.rfl

end CorrelationStats

namespace CorrelationTable

variable {t : CorrelationTable} {cleared : Nat}

/-! ## What each operation counts -/

theorem register_stats (token typeName : String) :
    (t.register token typeName).1.stats =
      if t.isPending token then t.stats
      else { t.stats with registered := t.stats.registered + 1 } := by
  rw [register_eq]
  split <;> rfl

theorem find?_token_eq_none_iff {token : String} :
    t.pending.find? (·.token == token) = none ↔ t.isPending token = false := by
  simp [isPending, List.find?_eq_none]

theorem complete_stats (reply : Envelope) :
    (t.complete reply).1.stats =
      if reply.extra.isEmpty then t.stats
      else if t.isPending reply.extra then { t.stats with completed := t.stats.completed + 1 }
      else { t.stats with orphaned := t.stats.orphaned + 1 } := by
  unfold complete
  by_cases empty : reply.extra.isEmpty
  · simp [empty]
  · simp only [empty, if_false, Bool.false_eq_true]
    cases found : t.pending.find? (·.token == reply.extra) with
    | none => simp [find?_token_eq_none_iff.mp found]
    | some call =>
        have pending : t.isPending reply.extra = true := by
          cases known : t.isPending reply.extra
          · rw [← find?_token_eq_none_iff, found] at known
            cases known
          · rfl
        simp [pending]

theorem wait_stats (call : Call) (after : Duration) :
    (t.wait call after).1.stats =
      if t.delivered.any (·.1 == call.registration) then t.stats
      else if call ∈ t.pending then { t.stats with timeouts := t.stats.timeouts + 1 }
      else t.stats := by
  rw [wait_eq]
  cases found : t.delivered.find? (·.1 == call.registration) with
  | some entry =>
      have matching := List.find?_some found
      have present : t.delivered.any (·.1 == call.registration) = true :=
        List.any_eq_true.mpr ⟨entry, List.mem_of_find?_eq_some found, matching⟩
      simp [present]
  | none =>
      have absent : t.delivered.any (·.1 == call.registration) = false := by
        simpa [List.any_eq_false] using found
      by_cases waiting : call ∈ t.pending <;> simp [absent, waiting]

theorem cancel_stats (call : Call) :
    (t.cancel call).stats =
      if call ∈ t.pending then { t.stats with cancelled := t.stats.cancelled + 1 } else t.stats := by
  rw [cancel_eq]
  split <;> rfl

@[simp] theorem clear_stats : t.clear.stats = t.stats := rfl

@[simp] theorem clear_pendingCount : t.clear.pendingCount = 0 := rfl

/-- Completing under a pending token forgets the one call pending under it and no other. -/
theorem Wf.complete_pendingCount (wf : t.Wf) (reply : Envelope) :
    (t.complete reply).1.pendingCount +
        (if !reply.extra.isEmpty && t.isPending reply.extra then 1 else 0) = t.pendingCount := by
  unfold pendingCount
  rw [complete_pending]
  by_cases empty : reply.extra.isEmpty
  · simp [empty]
  · simp only [empty, if_false, Bool.false_eq_true, Bool.not_false, Bool.true_and]
    -- the calls under the reply's token number one when the token is pending, none otherwise
    have named : (t.pending.countP (·.token == reply.extra)) =
        if t.isPending reply.extra then 1 else 0 := by
      have counted : t.pending.countP (·.token == reply.extra) =
          (t.pending.map (·.token)).count reply.extra := by
        rw [List.count, List.countP_map]
        rfl
      split
      · rename_i pending
        obtain ⟨call, member, same⟩ := isPending_iff.mp pending
        rw [counted]
        exact List.count_eq_one_of_mem wf.tokens_nodup (List.mem_map.mpr ⟨call, member, same⟩)
      · rename_i pending
        rw [List.countP_eq_zero]
        intro call member same
        exact pending (isPending_iff.mpr ⟨call, member, by simpa using same⟩)
    have split : t.pending.length = t.pending.countP (·.token == reply.extra) +
        t.pending.countP fun call => ¬ (call.token == reply.extra) :=
      List.length_eq_countP_add_countP _
    have kept : t.pending.countP (fun call => ¬ (call.token == reply.extra)) =
        (t.pending.filter (·.token != reply.extra)).length := by
      rw [← List.countP_eq_length_filter]
      exact List.countP_congr fun call _ => by simp [bne]
    rw [← named]
    omega

/-! ## The balance of registrations -/

/-- The registrations balance, `cleared` calls having been forgotten by clears: every registered
call is still pending, was answered, timed out, was cancelled or was forgotten. -/
def Balanced (t : CorrelationTable) (cleared : Nat) : Prop :=
  t.stats.registered =
    t.pendingCount + t.stats.completed + t.stats.timeouts + t.stats.cancelled + cleared

theorem balanced_empty : ({} : CorrelationTable).Balanced 0 := rfl

theorem Balanced.register (balanced : t.Balanced cleared) (token typeName : String) :
    (t.register token typeName).1.Balanced cleared := by
  unfold Balanced pendingCount at *
  rw [register_stats, register_pending]
  split
  · exact balanced
  · simp only [List.length_append, List.length_singleton]
    omega

theorem Balanced.complete (balanced : t.Balanced cleared) (wf : t.Wf) (reply : Envelope) :
    (t.complete reply).1.Balanced cleared := by
  unfold Balanced at *
  have forgets := wf.complete_pendingCount reply
  rw [complete_stats]
  by_cases empty : reply.extra.isEmpty
  · simp only [empty, Bool.not_true, Bool.false_and, if_false, Bool.false_eq_true, if_true,
      Nat.add_zero] at forgets ⊢
    omega
  · by_cases pending : t.isPending reply.extra <;>
      simp only [empty, pending, Bool.not_false, Bool.true_and, Bool.false_eq_true, if_true,
        if_false] at forgets ⊢ <;> omega

theorem Balanced.wait (balanced : t.Balanced cleared) (call : Call) (after : Duration) :
    (t.wait call after).1.Balanced cleared := by
  unfold Balanced pendingCount at *
  rw [wait_stats, wait_pending]
  split
  · exact balanced
  · by_cases waiting : call ∈ t.pending
    · have shorter := List.length_erase_of_mem waiting
      have nonempty := List.length_pos_of_mem waiting
      simp only [waiting, if_true]
      omega
    · simpa [waiting, List.erase_of_not_mem waiting] using balanced

theorem Balanced.cancel (balanced : t.Balanced cleared) (call : Call) :
    (t.cancel call).Balanced cleared := by
  unfold Balanced pendingCount at *
  rw [cancel_stats, cancel_pending]
  by_cases waiting : call ∈ t.pending
  · have shorter := List.length_erase_of_mem waiting
    have nonempty := List.length_pos_of_mem waiting
    simp only [waiting, if_true]
    omega
  · simpa [waiting, List.erase_of_not_mem waiting] using balanced

/-- A clear forgets every pending call, which joins the forgotten ones. -/
theorem Balanced.clear (balanced : t.Balanced cleared) :
    t.clear.Balanced (cleared + t.pendingCount) := by
  unfold Balanced at *
  rw [clear_stats, clear_pendingCount]
  omega

end CorrelationTable

namespace Correlation

namespace Session

open CorrelationTable

variable {s : Session} {cleared : Nat}

/-- The table after a step: only registering, completing, waiting on a held call, giving one up
and clearing touch it. -/
theorem step_table (s : Session) (op : Op) :
    (s.step op).1.table =
      match op with
      | .register token typeName => (s.table.register token typeName).1
      | .complete raw =>
          match Envelope.ofBytes raw with
          | .ok reply => (s.table.complete reply).1
          | .error _ => s.table
      | .wait slot after => ((s.held slot).map fun call => (s.table.wait call after).1).getD s.table
      | .cancel slot => ((s.held slot).map s.table.cancel).getD s.table
      | .clear => s.table.clear
      | _ => s.table := by
  cases op with
  | register token typeName =>
      rw [step_register]
      split <;> rfl
  | complete raw => cases read : Envelope.ofBytes raw <;> simp [step, read]
  | wait slot after =>
      cases held : s.held slot with
      | none => simp [step, withSlot, held]
      | some call => simp [step_wait held, held]
  | cancel slot =>
      cases held : s.held slot with
      | none => simp [step, withSlot, held]
      | some call => simp [step_cancel held, held]
  | token slot => simp
  | debugSlot slot => simp
  | clear | pendingCount | isPending _ | stats | debug => rfl

/-- The pending calls a step forgets without counting them: all of them, when it clears the
table. -/
def forgotten (s : Session) : Op → Nat
  | .clear => s.table.pendingCount
  | _ => 0

/-- One for a step that hands the table a reply whose token no call is pending under. -/
def strays (s : Session) : Op → Nat
  | .complete raw =>
      match Envelope.ofBytes raw with
      | .ok reply => if !reply.extra.isEmpty && !s.table.isPending reply.extra then 1 else 0
      | .error _ => 0
  | _ => 0

/-- The sum of `count` over the steps of a run, each step counted in the session it starts from. -/
def tally (count : Session → Op → Nat) (s : Session) : List Op → Nat
  | [] => 0
  | op :: rest => count s op + tally count (s.step op).1 rest

/-- Every step keeps the registrations balanced, counting what a clear forgets. -/
theorem balanced_step (wf : s.Wf) (balanced : s.table.Balanced cleared) (op : Op) :
    (s.step op).1.table.Balanced (cleared + s.forgotten op) := by
  rw [step_table]
  cases op with
  | register token typeName => exact balanced.register token typeName
  | complete raw =>
      dsimp only
      cases Envelope.ofBytes raw with
      | ok reply => exact balanced.complete wf.table reply
      | error _ => exact balanced
  | wait slot after =>
      dsimp only
      cases s.held slot with
      | none => exact balanced
      | some call => exact balanced.wait call after
  | cancel slot =>
      dsimp only
      cases s.held slot with
      | none => exact balanced
      | some call => exact balanced.cancel call
  | clear => exact balanced.clear
  | token | debugSlot | pendingCount | isPending | stats | debug => exact balanced

/-- Only a reply under a token with no pending call raises the orphan count, by one. -/
theorem orphaned_step (s : Session) (op : Op) :
    (s.step op).1.table.stats.orphaned = s.table.stats.orphaned + s.strays op := by
  rw [step_table]
  cases op with
  | register token typeName =>
      rw [register_stats]
      split <;> rfl
  | complete raw =>
      simp only [strays]
      cases Envelope.ofBytes raw with
      | ok reply =>
          rw [complete_stats]
          by_cases empty : reply.extra.isEmpty
          · simp [empty]
          · by_cases pending : s.table.isPending reply.extra <;> simp [empty, pending]
      | error _ => rfl
  | wait slot after =>
      dsimp only
      cases s.held slot with
      | none => rfl
      | some call =>
          simp only [Option.map_some, Option.getD_some, wait_stats]
          split
          · rfl
          · split <;> rfl
  | cancel slot =>
      dsimp only
      cases s.held slot with
      | none => rfl
      | some call =>
          simp only [Option.map_some, Option.getD_some, cancel_stats]
          split <;> rfl
  | clear | token | debugSlot | pendingCount | isPending | stats | debug => rfl

/-- No step lowers a counter. -/
theorem stats_le_step (s : Session) (op : Op) : s.table.stats ≤ (s.step op).1.table.stats := by
  rw [step_table, CorrelationStats.le_def]
  cases op with
  | register token typeName =>
      rw [register_stats]
      split <;> simp
  | complete raw =>
      dsimp only
      cases Envelope.ofBytes raw with
      | ok reply =>
          rw [complete_stats]
          split
          · simp
          · split <;> simp
      | error _ => simp
  | wait slot after =>
      dsimp only
      cases s.held slot with
      | none => simp
      | some call =>
          simp only [Option.map_some, Option.getD_some, wait_stats]
          split
          · simp
          · split <;> simp
  | cancel slot =>
      dsimp only
      cases s.held slot with
      | none => simp
      | some call =>
          simp only [Option.map_some, Option.getD_some, cancel_stats]
          split <;> simp
  | clear | token | debugSlot | pendingCount | isPending | stats | debug => simp

/-- Registering a token that is pending is refused and changes neither the counts nor the pending
calls. -/
theorem step_register_of_pending {token : String} (pending : s.table.isPending token = true)
    (typeName : String) :
    (s.step (.register token typeName)).2 = .refused (.duplicateToken token) ∧
      (s.step (.register token typeName)).1.table.stats = s.table.stats ∧
      (s.step (.register token typeName)).1.table.pending = s.table.pending := by
  have refused : (s.table.register token typeName).2 = .error (.duplicateToken token) := by
    rw [register_result, if_pos pending]
  rw [step_register, refused]
  exact ⟨rfl, by simp [register_stats, pending], by simp [register_pending, pending]⟩

/-- Along any run the registrations stay balanced, the calls forgotten by clears added up. -/
theorem balanced_exec (ops : List Op) (wf : s.Wf) (balanced : s.table.Balanced cleared) :
    (s.exec ops).table.Balanced (cleared + tally forgotten s ops) := by
  induction ops generalizing s cleared with
  | nil => simpa [exec, tally] using balanced
  | cons op rest ih =>
      have next := ih ((moves_step s op).wf wf) (balanced_step wf balanced op)
      rwa [tally, ← Nat.add_assoc]

/-- Along any run the orphan count grows by the replies whose token no call was pending under. -/
theorem orphaned_exec (s : Session) (ops : List Op) :
    (s.exec ops).table.stats.orphaned = s.table.stats.orphaned + tally strays s ops := by
  induction ops generalizing s with
  | nil => rfl
  | cons op rest ih =>
      rw [exec, ih, orphaned_step, tally, Nat.add_assoc]

end Session

end Correlation

end Switchboard
