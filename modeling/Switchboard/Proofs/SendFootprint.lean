import Switchboard.Proofs.Stopping
import Switchboard.Proofs.Accounting

/-!
# What a send leaves behind

A send registers one call, hands the engine its request and then takes the reply handed to its
call, or withdraws the call once its time runs out. When the engine handle refuses the request the
call is given up at once, and a caller who stops waiting gives it up as well. Every one of these
ways out takes the call off the table, so a send leaves the pending calls and the handed-over
replies exactly as it found them, provided nothing else moves meanwhile: no other request still
waits in the background, and the engine queues no reply for another pending call
(`send_leaves_table_as_found`). A send refused before it reaches the engine (the client stopping,
a token already pending, a destroyed engine) sends nothing.

The table part of waiting is the table's own `wait` (`finish_table`); what the dispatcher does with
the engine's queue is read off `foldl_complete_own`: the first reply under the send's token answers
its call, and replies under tokens no call is pending under change no entry.
-/

namespace Switchboard

namespace CorrelationTable

variable {t : CorrelationTable}

/-- A reply under a token no call is pending under leaves the pending calls and the handed-over
replies as they were. -/
theorem complete_stray {reply : Envelope} (stray : t.isPending reply.extra = false) :
    (t.complete reply).1.pending = t.pending ∧ (t.complete reply).1.delivered = t.delivered := by
  constructor
  · rw [complete_pending]
    split
    · rfl
    · exact List.filter_eq_self.mpr fun call member => by
        simpa using isPending_eq_false_iff.mp stray call member
  · rw [complete_delivered, find?_token_eq_none_iff.mpr stray]
    simp

/-- Replies none of which is under a pending token leave the pending calls and the handed-over
replies as they were. -/
theorem foldl_complete_strays (replies : List Envelope) (t : CorrelationTable)
    (strays : ∀ reply ∈ replies, t.isPending reply.extra = false) :
    (replies.foldl (fun t reply => (t.complete reply).1) t).pending = t.pending ∧
      (replies.foldl (fun t reply => (t.complete reply).1) t).delivered = t.delivered := by
  induction replies generalizing t with
  | nil => exact ⟨rfl, rfl⟩
  | cons reply rest ih =>
      obtain ⟨pending, delivered⟩ := complete_stray (strays reply List.mem_cons_self)
      have later : ∀ other ∈ rest, (t.complete reply).1.isPending other.extra = false := by
        intro other member
        simpa only [isPending, pending] using strays other (List.mem_cons_of_mem _ member)
      obtain ⟨keeps, hands⟩ := ih (t.complete reply).1 later
      exact ⟨keeps.trans pending, hands.trans delivered⟩

/-- Replies taken in order, each under `call`'s token or under a token no call is pending under:
the first one under the token is handed to `call`, which stops being pending, and nothing else
changes in the entries. -/
theorem foldl_complete_own (wf : t.Wf) {call : Call} (waiting : call ∈ t.pending)
    (replies : List Envelope) (nonempty : ∀ reply ∈ replies, reply.extra ≠ "")
    (quiet : ∀ reply ∈ replies, reply.extra = call.token ∨ t.isPending reply.extra = false) :
    match replies.find? (·.extra == call.token) with
    | some reply =>
        (replies.foldl (fun t reply => (t.complete reply).1) t).pending =
            t.pending.filter (·.token != call.token) ∧
          (replies.foldl (fun t reply => (t.complete reply).1) t).delivered =
            t.delivered ++ [(call.registration, reply)]
    | none =>
        (replies.foldl (fun t reply => (t.complete reply).1) t).pending = t.pending ∧
          (replies.foldl (fun t reply => (t.complete reply).1) t).delivered = t.delivered := by
  induction replies generalizing t with
  | nil => exact ⟨rfl, rfl⟩
  | cons reply rest ih =>
      have tagged := nonempty reply List.mem_cons_self
      by_cases same : reply.extra = call.token
      · -- the reply answers `call`; afterwards no later reply finds a call under its token
        have first : (reply :: rest).find? (·.extra == call.token) = some reply := by simp [same]
        rw [first, List.foldl_cons]
        obtain ⟨-, handed⟩ := complete_own wf waiting same tagged
        have removed : (t.complete reply).1.pending = t.pending.filter (·.token != call.token) := by
          rw [complete_pending, if_neg (by simpa using tagged), same]
        have strays : ∀ later ∈ rest, (t.complete reply).1.isPending later.extra = false := by
          intro later member
          rw [isPending_eq_false_iff, removed]
          intro other kept
          rcases quiet later (List.mem_cons_of_mem _ member) with own | stray
          · simp only [List.mem_filter, bne_iff_ne, ne_eq] at kept
            exact own ▸ kept.2
          · exact isPending_eq_false_iff.mp stray other (List.mem_of_mem_filter kept)
        obtain ⟨keeps, hands⟩ := foldl_complete_strays rest _ strays
        exact ⟨keeps.trans removed, hands.trans handed⟩
      · -- the reply is a stray and changes no entry
        have skipped : (reply :: rest).find? (·.extra == call.token) =
            rest.find? (·.extra == call.token) := by
          simp [same]
        rw [skipped, List.foldl_cons]
        have stray := (quiet reply List.mem_cons_self).resolve_left same
        obtain ⟨pending, delivered⟩ := complete_stray stray
        have next := ih (wf.complete reply) (pending ▸ waiting)
          (fun later member => nonempty later (List.mem_cons_of_mem _ member))
          (fun later member => by
            simpa only [isPending, pending] using quiet later (List.mem_cons_of_mem _ member))
        simpa only [pending, delivered] using next

/-- The next registration number has no pending call and no handed-over reply. -/
theorem Wf.next_unused (wf : t.Wf) (token typeName : String) :
    (⟨token, typeName, t.nextRegistration⟩ : Call) ∉ t.pending ∧
      ∀ entry ∈ t.delivered, entry.1 ≠ t.nextRegistration :=
  ⟨fun member => Nat.lt_irrefl _ (wf.pending_lt _ member),
    fun entry member => Nat.ne_of_lt (wf.answered_lt entry member)⟩

/-- `t'` holds the entries of `t` and one more: `call` still pending, or a reply handed to it. -/
def AheadBy (t' t : CorrelationTable) (call : Call) : Prop :=
  (t'.pending = t.pending ++ [call] ∧ t'.delivered = t.delivered) ∨
    (t'.pending = t.pending ∧ ∃ reply, t'.delivered = t.delivered ++ [(call.registration, reply)])

section AheadBy

variable {t' : CorrelationTable} {call : Call} (absent : call ∉ t.pending)
  (unanswered : ∀ entry ∈ t.delivered, entry.1 ≠ call.registration)
include absent unanswered

/-- Waiting for the one more call gives the entries of `t` back, whether its reply came or not. -/
theorem AheadBy.wait (ahead : t'.AheadBy t call) (after : Duration) :
    (t'.wait call after).1.pending = t.pending ∧ (t'.wait call after).1.delivered = t.delivered := by
  have kept : t.delivered.filter (·.1 != call.registration) = t.delivered :=
    List.filter_eq_self.mpr fun entry member => by simpa using unanswered entry member
  rw [wait_pending, wait_delivered]
  rcases ahead with ⟨pending, delivered⟩ | ⟨pending, reply, delivered⟩
  · have none : t.delivered.any (·.1 == call.registration) = false :=
      List.any_eq_false.mpr fun entry member => by simpa using unanswered entry member
    rw [pending, delivered, none]
    simp [List.erase_append_right _ absent, kept]
  · simp [pending, delivered, kept]

/-- Giving the one more call up gives the entries of `t` back, whether its reply came or not. -/
theorem AheadBy.cancel (ahead : t'.AheadBy t call) :
    (t'.cancel call).pending = t.pending ∧ (t'.cancel call).delivered = t.delivered := by
  have kept : t.delivered.filter (·.1 != call.registration) = t.delivered :=
    List.filter_eq_self.mpr fun entry member => by simpa using unanswered entry member
  rw [cancel_pending, cancel_delivered]
  rcases ahead with ⟨pending, delivered⟩ | ⟨pending, reply, delivered⟩
  · simp [pending, delivered, List.erase_append_right _ absent, kept]
  · simp [pending, delivered, List.erase_of_not_mem absent, kept]

end AheadBy

end CorrelationTable

namespace Client

open CorrelationTable

variable {c : Client}

/-- Time passing changes no table once every background wait has given up. -/
theorem advance_table_of_expired (c : Client) (time : Nat)
    (expired : ∀ flight ∈ c.background, flight.expired = true) :
    (c.advance time).table = c.table := by
  unfold Client.advance
  show (List.foldl _ (c.table, []) c.background).1 = (c.table, ([] : List InFlight)).1
  -- the waits are visited one by one, and each that has given up is passed over
  revert expired
  generalize (c.table, ([] : List InFlight)) = acc
  induction c.background generalizing acc with
  | nil => intro _; rfl
  | cons flight rest ih =>
      intro given
      rw [List.foldl_cons, if_pos (by simp [given flight List.mem_cons_self])]
      exact ih _ fun other member => given other (List.mem_cons_of_mem _ member)

/-- The table part of waiting for a request that has not given up is the table's own wait, once
every background wait has given up. -/
theorem finish_table (c : Client) (flight : InFlight) (waiting : flight.expired = false)
    (expired : ∀ other ∈ c.background, other.expired = true) (after : Duration) :
    (c.finish flight).1.table = (c.table.wait flight.call after).1 := by
  unfold finish CorrelationTable.wait
  simp only [waiting, Bool.false_eq_true, if_false]
  cases c.table.takeReply flight.call with
  | mk table reply =>
      cases reply with
      | some reply => rfl
      | none =>
          dsimp only
          cases table.expire flight.call with
          | mk table pending =>
              cases pending with
              | true =>
                  apply advance_table_of_expired
                  intro other member
                  exact expired other (List.mem_of_mem_filter member)
              | false => rfl

theorem dispatch_background (c : Client) : c.dispatch.background = c.background := by
  rw [dispatch_eq_foldl, foldl_dispatchMessage]
  split <;> rfl

theorem send_of_ok {request : Request} {flight : InFlight} (ok : (c.submit request).2 = .ok flight) :
    c.send request = (c.submit request).1.finish flight := by
  unfold send
  rw [show c.submit request = ((c.submit request).1, .ok flight) from Prod.ext rfl ok]

theorem send_of_error {request : Request} {problem : ClientError}
    (refused : (c.submit request).2 = .error problem) :
    c.send request = ((c.submit request).1, .error problem) := by
  unfold send
  rw [show c.submit request = ((c.submit request).1, .error problem) from Prod.ext rfl refused]

/-- A send whose token is pending already is refused, with a registration number used up. -/
theorem submit_of_pending (running : c.stopping = false)
    (pending : c.table.isPending (c.tokens (c.drawn + 1)) = true) (request : Request) :
    c.submit request =
      ({ c with drawn := c.drawn + 1,
                table := (c.table.register (c.tokens (c.drawn + 1)) request.typeName).1 },
        .error (.duplicateToken (c.tokens (c.drawn + 1)))) := by
  have refused : c.table.register (c.tokens (c.drawn + 1)) request.typeName =
      ((c.table.register (c.tokens (c.drawn + 1)) request.typeName).1,
        .error (.duplicateToken (c.tokens (c.drawn + 1)))) :=
    Prod.ext rfl (by rw [register_result, if_pos pending])
  unfold submit
  simp only [running, Bool.false_eq_true, if_false]
  rw [refused]

/-- A send over a destroyed engine gives its call up at once and reports that the client
stopped. -/
theorem submit_of_destroyed (running : c.stopping = false)
    (fresh : c.table.isPending (c.tokens (c.drawn + 1)) = false)
    (destroyed : c.handle.isDestroyed = true) (request : Request) :
    c.submit request =
      ({ c with drawn := c.drawn + 1,
                table := (c.table.register (c.tokens (c.drawn + 1)) request.typeName).1.cancel
                  ⟨c.tokens (c.drawn + 1), request.typeName, c.table.nextRegistration⟩ },
        .error .stopped) := by
  have registered : c.table.register (c.tokens (c.drawn + 1)) request.typeName =
      ((c.table.register (c.tokens (c.drawn + 1)) request.typeName).1,
        .ok ⟨c.tokens (c.drawn + 1), request.typeName, c.table.nextRegistration⟩) :=
    Prod.ext rfl (by rw [register_result, fresh]; rfl)
  unfold submit
  simp only [running, Bool.false_eq_true, if_false]
  rw [registered]
  simp [Handle.send, destroyed, ClientError.ofEngine]

/-- Once a send has handed the engine its request, the table holds the entries it found and one
more: the new call, or the reply the engine queued for it. -/
theorem submit_aheadBy (request : Request) (running : c.stopping = false)
    (live : c.handle.isDestroyed = false) (wf : c.table.Wf)
    (fresh : c.table.isPending (c.tokens (c.drawn + 1)) = false)
    (quiet : ∀ reply ∈ (c.handle.engine.send (c.nextRequest request).toText).inbox.filterMap
      Envelope.replyOf?, reply.extra = c.tokens (c.drawn + 1) ∨ c.table.isPending reply.extra = false) :
    (c.submit request).1.table.AheadBy c.table
      ⟨c.tokens (c.drawn + 1), request.typeName, c.table.nextRegistration⟩ := by
  unfold nextRequest at quiet
  set token := c.tokens (c.drawn + 1)
  set call : Call := ⟨token, request.typeName, c.table.nextRegistration⟩
  have others := isPending_eq_false_iff.mp fresh
  rw [(submit_dispatched c request running live others).2]
  -- what the engine queued stays opaque
  generalize c.handle.engine.send (request.withExtra token).toText = engine at quiet ⊢
  have registered :
      (c.table.register token request.typeName).1.pending = c.table.pending ++ [call] := by
    rw [register_pending, fresh]
    rfl
  have waiting : call ∈ (c.table.register token request.typeName).1.pending := by simp [registered]
  -- a reply under another token than the send's finds no call under it after registering either
  have quiet' : ∀ reply ∈ engine.inbox.filterMap Envelope.replyOf?, reply.extra = call.token ∨
        (c.table.register token request.typeName).1.isPending reply.extra = false := by
    intro reply member
    by_cases own : reply.extra = token
    · exact .inl own
    · refine .inr (isPending_eq_false_iff.mpr ?_)
      rw [registered]
      intro other member'
      rcases List.mem_append.mp member' with old | new
      · exact isPending_eq_false_iff.mp ((quiet reply member).resolve_left own) other old
      · simp only [List.mem_singleton] at new
        exact new ▸ fun same => own same.symm
  have answered := foldl_complete_own (wf.register token request.typeName) waiting _
    (fun _ member => Envelope.extra_of_mem_replies member) quiet'
  split at answered
  · rename_i reply _
    obtain ⟨pending, delivered⟩ := answered
    refine .inr ⟨?_, reply, by rw [delivered, register_delivered]⟩
    rw [pending, registered, List.filter_append]
    have kept : c.table.pending.filter (·.token != call.token) = c.table.pending :=
      List.filter_eq_self.mpr fun other member => by simpa using others other member
    simp [kept, call]
  · obtain ⟨pending, delivered⟩ := answered
    exact .inl ⟨pending.trans registered, by rw [delivered, register_delivered]⟩

/-- Without other calls moving, a send leaves the pending calls and the handed-over replies as it
found them, whatever it returns, and so does giving up its call while it waits. A send refused
before it reaches the engine, because the client stops, its token is pending or the engine is
destroyed, leaves the engine alone; a token already pending is refused with the call under it
left as it was. -/
theorem send_leaves_table_as_found (c : Client) (request : Request) (wf : c.table.Wf)
    (alone : ∀ flight ∈ c.background, flight.expired = true)
    (quiet : ∀ reply ∈ (c.handle.engine.send (c.nextRequest request).toText).inbox.filterMap
      Envelope.replyOf?, reply.extra = c.tokens (c.drawn + 1) ∨ c.table.isPending reply.extra = false) :
    (c.send request).1.table.pending = c.table.pending ∧
      (c.send request).1.table.delivered = c.table.delivered ∧
      (c.send request).1.pendingCalls = c.pendingCalls ∧
      (∀ flight, (c.submit request).2 = .ok flight →
        ((c.submit request).1.table.cancel flight.call).pending = c.table.pending ∧
          ((c.submit request).1.table.cancel flight.call).delivered = c.table.delivered) ∧
      (c.stopping = true → c.send request = (c, .error .stopped)) ∧
      (c.stopping = false → c.table.isPending (c.tokens (c.drawn + 1)) = true →
        (c.send request).2 = .error (.duplicateToken (c.tokens (c.drawn + 1))) ∧
          (c.send request).1.handle = c.handle) ∧
      (c.stopping = false → c.table.isPending (c.tokens (c.drawn + 1)) = false →
        c.handle.isDestroyed = true →
        (c.send request).2 = .error .stopped ∧ (c.send request).1.handle = c.handle) := by
  set token := c.tokens (c.drawn + 1)
  set call : Call := ⟨token, request.typeName, c.table.nextRegistration⟩
  have refusals : (c.stopping = true → c.send request = (c, .error .stopped)) ∧
      (c.stopping = false → c.table.isPending token = true →
        (c.send request).2 = .error (.duplicateToken token) ∧
          (c.send request).1.handle = c.handle) ∧
      (c.stopping = false → c.table.isPending token = false → c.handle.isDestroyed = true →
        (c.send request).2 = .error .stopped ∧ (c.send request).1.handle = c.handle) := by
    refine ⟨fun stopping => send_of_stopping stopping request, fun running pending => ?_,
      fun running fresh destroyed => ?_⟩
    · rw [send_of_error (by rw [submit_of_pending running pending])]
      exact ⟨rfl, by rw [submit_of_pending running pending]⟩
    · rw [send_of_error (by rw [submit_of_destroyed running fresh destroyed])]
      exact ⟨rfl, by rw [submit_of_destroyed running fresh destroyed]⟩
  -- the entries, after the send and after giving its call up, one way out at a time
  obtain ⟨absent, unanswered⟩ := wf.next_unused token request.typeName
  have entries : (c.send request).1.table.pending = c.table.pending ∧
      (c.send request).1.table.delivered = c.table.delivered ∧
      ∀ flight, (c.submit request).2 = .ok flight →
        ((c.submit request).1.table.cancel flight.call).pending = c.table.pending ∧
          ((c.submit request).1.table.cancel flight.call).delivered = c.table.delivered := by
    cases running : c.stopping
    case true =>
      have refused := submit_of_stopping running request
      refine ⟨by rw [send_of_stopping running], by rw [send_of_stopping running], ?_⟩
      intro flight ok
      rw [refused] at ok
      cases ok
    cases fresh : c.table.isPending token
    case true =>
      have refused := submit_of_pending running fresh request
      rw [send_of_error (by rw [refused]), refused]
      refine ⟨by rw [register_pending, if_pos fresh], register_delivered _ _, ?_⟩
      intro flight ok
      cases ok
    -- from here on the call is registered, and gets taken off again whichever way the send ends
    have registered : (c.table.register token request.typeName).1.AheadBy c.table call :=
      .inl ⟨by rw [register_pending, fresh]; rfl, register_delivered _ _⟩
    cases live : c.handle.isDestroyed
    case true =>
      have refused := submit_of_destroyed running fresh live request
      rw [send_of_error (by rw [refused]), refused]
      obtain ⟨pending, delivered⟩ := registered.cancel absent unanswered
      refine ⟨pending, delivered, ?_⟩
      intro flight ok
      cases ok
    have ahead := submit_aheadBy request running live wf fresh quiet
    have submitted := submit_eq c request running live (isPending_eq_false_iff.mp fresh)
    have ok : (c.submit request).2 = .ok ⟨call, c.now + c.settings.sendTimeout.nanos, false⟩ := by
      rw [submitted]
    have alone' : ∀ flight ∈ (c.submit request).1.background, flight.expired = true := by
      rw [submitted, dispatch_background]
      exact alone
    rw [send_of_ok ok, finish_table _ _ rfl alone' c.settings.sendTimeout]
    obtain ⟨pending, delivered⟩ := ahead.wait absent unanswered c.settings.sendTimeout
    refine ⟨pending, delivered, ?_⟩
    intro flight given
    rw [ok] at given
    cases given
    exact ahead.cancel absent unanswered
  obtain ⟨pending, delivered, dropped⟩ := entries
  refine ⟨pending, delivered, ?_, dropped, refusals⟩
  unfold pendingCalls CorrelationTable.pendingCount
  rw [pending]

/-- A fresh client over an engine that acknowledges every request has no call pending after its
first send. -/
theorem send_leaves_table_as_found_of_fresh_client :
    let c : Client :=
      { settings := {}, tokens := fun n => "tok-" ++ toString n, registry := Registry.new,
        handle := Handle.new (Engine.new .acknowledging) }
    c.table.Wf ∧ (∀ flight ∈ c.background, flight.expired = true) ∧
      (c.send { typeName := "getMe" }).1.table.pending = [] :=
  ⟨CorrelationTable.wf_empty, by simp,
    (send_leaves_table_as_found _ _ CorrelationTable.wf_empty (by simp) fun _ _ => .inr rfl).1⟩

end Client

end Switchboard
